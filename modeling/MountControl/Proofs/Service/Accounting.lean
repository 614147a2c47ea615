/-
  MountControl — what has become of every worker.

  A worker is launched, and then it is reaped by a poll, or told to stop, or
  it is still owned by an entry.  `Accounted` counts: each worker that was
  launched is accounted for exactly once.

  * `Accounted.narrow`: entries whose workers are reaped or told to stop may
    go; reaping, unmounting and the end of the service are cases of it;
  * `Accounted.start`: a launch adds one of each;
  * `Accounted.dispatch`: so every request keeps the account;
  * `Accounted.closed`: once no entry is left, every worker was either reaped
    or told to stop, and only once.
-/
import MountControl.Proofs.Service.Ownership

namespace MountControl.Service

open Volume (InstanceId Options)
open Wire (Reply Request)

variable {σ : Type}

/-- The worker whose poll brought its exit. -/
def Effect.reaped? : Effect → Option Worker
  | .polled _ worker (.ok (some _)) => some worker
  | _ => none

/-- The workers that were reaped, once for each poll that brought an exit. -/
def reapedWorkers (trace : List Effect) : List Worker := trace.filterMap Effect.reaped?

/-- The workers that were told to stop, once for each call. -/
def stoppedWorkers (trace : List Effect) : List Worker := trace.filterMap Effect.stop?

/-- The workers that were launched. -/
def launchedWorkers (trace : List Effect) : List Worker := (duties trace).map (·.worker)

section
variable (front back : List Effect)

theorem reapedWorkers_append :
    reapedWorkers (front ++ back) = reapedWorkers front ++ reapedWorkers back :=
  List.filterMap_append

theorem stoppedWorkers_append :
    stoppedWorkers (front ++ back) = stoppedWorkers front ++ stoppedWorkers back :=
  List.filterMap_append

end

/-- Workers are numbered by their launches. -/
theorem number_launchedWorkers (trace : List Effect) :
    (launchedWorkers trace).map (·.number) =
      List.range' 0 (trace.filterMap Effect.start?).length := by
  rw [← List.zipIdx_map_snd, launchedWorkers, duties, List.map_map, List.map_map]
  rfl

/-- No worker is launched twice. -/
theorem nodup_launchedWorkers (trace : List Effect) : (launchedWorkers trace).Nodup :=
  .of_map (·.number) (number_launchedWorkers trace ▸ List.nodup_range')

/-- The workers of entries that reaping finds to have ended. -/
theorem reapedWorkers_sweepEffects (polls : List Poll) :
    reapedWorkers (sweepEffects polls) =
      (polls.filter (·.exit?.isSome)).map (·.entry.worker) := by
  have hreports : reapedWorkers ((polls.filterMap Poll.reaped?).map fun volume =>
      Effect.reported (.workerExited volume.id volume.exit)) = [] := by
    rw [reapedWorkers, List.filterMap_map]
    exact List.filterMap_eq_nil_iff.2 fun _ _ => rfl
  have hpolls : reapedWorkers (polls.flatMap Poll.effects) =
      (polls.filter (·.exit?.isSome)).map (·.entry.worker) := by
    clear hreports
    induction polls with
    | nil => rfl
    | cons poll polls ih =>
      rw [List.flatMap_cons, reapedWorkers_append, ih]
      rcases poll with ⟨entry, error | _ | exit⟩ <;> rfl
  rw [sweepEffects, reapedWorkers_append, hreports, hpolls, List.append_nil]

/-- Stopping a worker at the end makes the call and a note in the log. -/
theorem stopLast_eq (workers : Workers σ) (grace : Nat) (entry : Entry) (stage : Stage σ) :
    ∃ result note place, stage.stopLast workers grace entry = { stage with
      place
      trace := stage.trace ++
        [.stopped entry.id entry.worker grace result, .logged note] } := by
  rw [Stage.stopLast]
  rcases hs : workers.stop entry.worker grace stage.place with ⟨error | exit, place⟩ <;>
    exact ⟨_, _, _, by simp [Stage.stop, hs, Stage.log, Stage.note]; exact ⟨rfl, rfl, rfl⟩⟩

/-! ## The account -/

/-- Every worker that was launched was reaped, or told to stop, or is still owned by one of some
    entries; and just one of these, once. -/
structure Accounted (stage : Stage σ) (entries : List Entry) : Prop where
  counted : (duties stage.trace).length = stage.launches
  settled : ∀ worker, (reapedWorkers stage.trace).count worker +
    (stoppedWorkers stage.trace).count worker + (entries.map (·.worker)).count worker =
      (launchedWorkers stage.trace).count worker

namespace Accounted
variable {stage after : Stage σ} {entries left : List Entry} {effects : List Effect}

theorem initial (place : σ) : Accounted (Stage.initial place) [] := ⟨rfl, fun _ => rfl⟩

/-- **Entries may go whose workers are reaped or told to stop.** -/
theorem narrow (h : Accounted stage entries) (htrace : after.trace = stage.trace ++ effects)
    (hstart : effects.filterMap Effect.start? = []) (hlaunches : after.launches = stage.launches)
    (hleft : ∀ worker, (reapedWorkers effects).count worker +
      (stoppedWorkers effects).count worker + (left.map (·.worker)).count worker =
        (entries.map (·.worker)).count worker) : Accounted after left where
  counted := by rw [htrace, duties_append_of_nil hstart, h.counted, hlaunches]
  settled worker := by
    have hbefore := h.settled worker
    have hgone := hleft worker
    rw [htrace, launchedWorkers, duties_append_of_nil hstart, ← launchedWorkers,
      reapedWorkers_append, stoppedWorkers_append, List.count_append, List.count_append]
    omega

/-- What neither launches nor reaps nor stops a worker may change the rest. -/
theorem quiet (h : Accounted stage entries) (htrace : after.trace = stage.trace ++ effects)
    (hstart : effects.filterMap Effect.start? = []) (hreaped : reapedWorkers effects = [])
    (hstopped : stoppedWorkers effects = []) (hlaunches : after.launches = stage.launches)
    (hleft : left.map (·.worker) = entries.map (·.worker)) : Accounted after left :=
  h.narrow htrace hstart hlaunches fun worker => by
    rw [hreaped, hstopped, hleft]
    simp

theorem note (h : Accounted stage entries) {effect : Effect} (hstart : effect.start? = none)
    (hreaped : effect.reaped? = none) (hstopped : effect.stop? = none) :
    Accounted (stage.note effect) entries :=
  h.quiet rfl (by simp [hstart]) (by simp [reapedWorkers, hreaped])
    (by simp [stoppedWorkers, hstopped]) rfl rfl

/-- **A launch adds an entry and its worker.** -/
theorem start (h : Accounted stage entries) {entry : Entry} {pid : Nat}
    (htrace : after.trace = stage.trace ++ effects)
    (hstart : effects.filterMap Effect.start? = [(pid, entry.id, entry.options)])
    (hreaped : reapedWorkers effects = []) (hstopped : stoppedWorkers effects = [])
    (hworker : entry.worker = ⟨stage.launches, pid⟩)
    (hlaunches : after.launches = stage.launches + 1) : Accounted after (entries ++ [entry]) where
  counted := by
    rw [htrace, duties_append_start hstart, hlaunches, ← h.counted]
    simp
  settled worker := by
    have hbefore := h.settled worker
    rw [htrace, launchedWorkers, duties_append_start hstart, h.counted, ← hworker,
      reapedWorkers_append, stoppedWorkers_append, hreaped, hstopped]
    simp only [List.append_nil, List.map_append, List.map_cons, List.map_nil, List.count_append]
    rw [launchedWorkers] at hbefore
    omega

/-- **Reaping lets exactly the entries go whose workers it reaps.** -/
theorem swept (h : Accounted stage stage.registry.entries) (workers : Workers σ)
    (event : Log.Event) :
    Accounted (stage.swept workers event) (stage.swept workers event).registry.entries := by
  have hentries := survey_entries workers stage.registry.entries stage.place
  have htrace : (stage.swept workers event).trace = stage.trace ++
    (sweepEffects (workers.survey stage.registry.entries stage.place).1 ++ [.logged event]) := rfl
  have hafter : (stage.swept workers event).registry.entries =
    survivors (workers.survey stage.registry.entries stage.place).1 := rfl
  generalize (workers.survey stage.registry.entries stage.place).1 = polls
    at hentries htrace hafter
  refine h.narrow htrace ?_ rfl fun worker => ?_
  · rw [List.filterMap_append, Effect.distinctive_start?.filterMap_sweepEffects]
    rfl
  · have hstopped : stoppedWorkers (sweepEffects polls ++ [.logged event]) = [] := by
      rw [stoppedWorkers_append, stoppedWorkers, Effect.distinctive_stop?.filterMap_sweepEffects]
      rfl
    have hreaped : reapedWorkers (sweepEffects polls ++ [.logged event]) =
        (polls.filter (·.exit?.isSome)).map (·.entry.worker) := by
      rw [reapedWorkers_append, reapedWorkers_sweepEffects]
      exact List.append_nil _
    -- of all polls, some brought an exit, and the others left their entries in place
    have hsorted := (List.filter_append_perm (fun poll : Poll => poll.exit?.isSome) polls).map
      (·.entry.worker)
    have hcount := hsorted.count_eq worker
    rw [hstopped, hreaped, hafter, survivors, List.map_map, ← hentries, List.map_map]
    rw [List.map_append, List.count_append] at hcount
    simpa [Function.comp_def] using hcount

/-- **Unmounting lets an entry go whose worker it tells to stop.** -/
theorem retire {id : InstanceId} {entry : Entry} (h : Accounted stage stage.registry.entries)
    (hget : stage.registry.get? id = some entry)
    (htrace : after.trace = stage.trace ++ effects)
    (hstart : effects.filterMap Effect.start? = []) (hlaunches : after.launches = stage.launches)
    (hreaped : reapedWorkers effects = []) (hstopped : stoppedWorkers effects = [entry.worker]) :
    Accounted after (stage.registry.entries.eraseP (·.id = id)) := by
  obtain ⟨front, back, hsplit, herased⟩ := split_of_get? hget
  refine h.narrow htrace hstart hlaunches fun worker => ?_
  rw [hreaped, hstopped, herased, hsplit]
  simp only [List.map_append, List.map_cons, List.count_append, List.count_cons, List.count_nil]
  omega

variable {dispatcher : Dispatcher σ}

/-- Whatever a request comes to, the account is kept. -/
theorem routed {request : Request} {result : Except Halt (Except Rejection Reply)}
    (h : Accounted stage stage.registry.entries)
    (hr : Routed dispatcher stage request result after) :
    Accounted after after.registry.entries := by
  cases hr with
  | refused | stuck | listed | described => exact h
  | panicked hl | failed hl =>
    have hentries := (allocate_eq_some hl.allocated).2
    exact h.quiet rfl rfl rfl rfl rfl (congrArg (List.map (·.worker)) hentries)
  | started hl =>
    have hentries := (allocate_eq_some hl.allocated).2
    rw [Registry.add, hentries]
    exact h.start rfl rfl rfl rfl rfl rfl
  | reported hm =>
    obtain ⟨-, rfl⟩ := markMounted?_eq_some.1 hm
    exact h.quiet rfl rfl rfl rfl rfl
      (map_updateFirst (·.worker) (·.attach _ _) (fun _ => rfl) stage.registry.entries)
  | stopped hr | abandoned hr =>
    obtain ⟨hget, rfl⟩ := remove?_eq_some.1 hr.removed
    exact h.retire hget rfl rfl rfl rfl rfl

/-- **Every request keeps the account.** -/
theorem dispatch (h : Accounted stage stage.registry.entries) (request : Request) :
    Accounted (stage.dispatch dispatcher request).2
      (stage.dispatch dispatcher request).2.registry.entries := by
  obtain ⟨event, note, result, routed, hr, hd⟩ := dispatch_eq dispatcher stage request
  rw [hd]
  have hrouted := (h.swept dispatcher.workers event).routed hr
  have hclosing : (closing note result).filterMap Effect.start? = [] ∧
      reapedWorkers (closing note result) = [] ∧ stoppedWorkers (closing note result) = [] := by
    rcases result with halt | rejection | reply <;> exact ⟨rfl, rfl, rfl⟩
  exact hrouted.quiet rfl hclosing.1 hclosing.2.1 hclosing.2.2 rfl rfl

/-- The worker of one entry is told to stop at the end, whether or not that fails. -/
theorem stopLast {entry : Entry} (h : Accounted stage (entry :: left)) (workers : Workers σ)
    (grace : Nat) : Accounted (stage.stopLast workers grace entry) left := by
  obtain ⟨result, note, place, heq⟩ := stopLast_eq workers grace entry stage
  rw [heq]
  refine h.narrow rfl rfl rfl fun worker => ?_
  have hstopped : stoppedWorkers [.stopped entry.id entry.worker grace result, .logged note] =
    [entry.worker] := rfl
  have hreaped : reapedWorkers [.stopped entry.id entry.worker grace result, .logged note] =
    [] := rfl
  rw [hstopped, hreaped]
  simp only [List.map_cons, List.count_cons, List.count_nil]
  omega

/-- **Once no entry is left, every worker was either reaped or told to stop**, and only once. -/
theorem closed (h : Accounted stage []) {duty : Duty} (hduty : duty ∈ duties stage.trace) :
    (reapedWorkers stage.trace).count duty.worker = 1 ∧ duty.worker ∉ stoppedWorkers stage.trace ∨
      (stoppedWorkers stage.trace).count duty.worker = 1 ∧
        duty.worker ∉ reapedWorkers stage.trace := by
  have hsettled := h.settled duty.worker
  have hlaunched : duty.worker ∈ launchedWorkers stage.trace := List.mem_map_of_mem hduty
  have hone := List.count_eq_one_of_mem (nodup_launchedWorkers stage.trace) hlaunched
  simp only [List.map_nil, List.count_nil] at hsettled
  rw [← List.count_eq_zero, ← List.count_eq_zero]
  omega

end Accounted

end MountControl.Service
