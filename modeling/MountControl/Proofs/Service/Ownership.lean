/-
  MountControl — which workers run, and who owns them.

  A worker runs from its launch until a poll or a stop returns its exit; the
  trace of a run tells which ones do (`Duty.Runs`).  `Tended` says that the
  volumes in the registry own exactly those of them that no stop has failed
  on (`spared`).

  * `Tended.narrow`: entries and workers may leave together; reaping and
    unmounting are cases of it;
  * `Tended.start`: a launch adds one of each;
  * `running_owned`: so it stays in every run, and from this it follows what
    an unmount brings about and that no mount point is served twice;
  * `unowned_after_failed_stop`: a worker that could not be stopped is
    forgotten while it runs.
-/
import MountControl.Proofs.Service.History
import MountControl.Proofs.Service.Refusal

namespace MountControl.Service

open Host (IoError)
open Volume (InstanceId Options)
open Wire (Reply Request)

variable {σ : Type}

/-! ## What a trace tells of workers -/

/-- A worker, and the volume that it was launched for. -/
structure Duty where
  worker : Worker
  id : InstanceId
  options : Options
  deriving DecidableEq

/-- The duty of the worker that an entry owns. -/
def Entry.duty (entry : Entry) : Duty := ⟨entry.worker, entry.id, entry.options⟩

/-- A launch that succeeded: the process, the volume and its options. -/
def Effect.start? : Effect → Option (Nat × InstanceId × Options)
  | .launched id options (.started pid) => some (pid, id, options)
  | _ => none

/-- The worker whose poll or stop returned its exit. -/
def Effect.ended? : Effect → Option Worker
  | .polled _ worker (.ok (some _)) => some worker
  | .stopped _ worker _ (.ok _) => some worker
  | _ => none

/-- The worker whose stop failed. -/
def Effect.spared? : Effect → Option Worker
  | .stopped _ worker _ (.error _) => some worker
  | _ => none

/-- The duties that were taken up; workers are numbered by their launches. -/
def duties (trace : List Effect) : List Duty :=
  (trace.filterMap Effect.start?).zipIdx.map fun ((pid, id, options), number) =>
    ⟨⟨number, pid⟩, id, options⟩

/-- The workers whose exits were returned. -/
def ended (trace : List Effect) : List Worker := trace.filterMap Effect.ended?

/-- The workers that could not be stopped. -/
def spared (trace : List Effect) : List Worker := trace.filterMap Effect.spared?

/-- Was the worker launched, and has no call on it returned an exit? -/
def Duty.Runs (duty : Duty) (trace : List Effect) : Prop :=
  duty ∈ duties trace ∧ duty.worker ∉ ended trace

instance (duty : Duty) (trace : List Effect) : Decidable (duty.Runs trace) :=
  inferInstanceAs (Decidable (_ ∧ _))

/-- Has the worker ended, or could it not be stopped? -/
def Released (trace : List Effect) (worker : Worker) : Prop :=
  worker ∈ ended trace ∨ worker ∈ spared trace

theorem Effect.distinctive_start? : Distinctive Effect.start? :=
  ⟨fun _ _ _ => rfl, fun _ => rfl, fun _ => rfl⟩

theorem Effect.distinctive_spared? : Distinctive Effect.spared? :=
  ⟨fun _ _ _ => rfl, fun _ => rfl, fun _ => rfl⟩

section
variable (front back : List Effect)

@[simp] theorem ended_append : ended (front ++ back) = ended front ++ ended back :=
  List.filterMap_append

@[simp] theorem spared_append : spared (front ++ back) = spared front ++ spared back :=
  List.filterMap_append

theorem released_append (worker : Worker) :
    Released (front ++ back) worker ↔ Released front worker ∨ Released back worker := by
  simp only [Released, ended_append, spared_append, List.mem_append]
  exact or_or_or_comm

variable {front back}

theorem duties_append_of_nil (h : back.filterMap Effect.start? = []) :
    duties (front ++ back) = duties front := by
  rw [duties, List.filterMap_append, h, List.append_nil, duties]

/-- A new worker is numbered by the launches before it. -/
theorem duties_append_start {pid : Nat} {id : InstanceId} {options : Options}
    (h : back.filterMap Effect.start? = [(pid, id, options)]) :
    duties (front ++ back) =
      duties front ++ [⟨⟨(duties front).length, pid⟩, id, options⟩] := by
  simp [duties, List.filterMap_append, h, List.zipIdx_append]

theorem number_lt_of_mem_duties {duty : Duty} (h : duty ∈ duties front) :
    duty.worker.number < (duties front).length := by
  obtain ⟨⟨⟨pid, id, options⟩, number⟩, hmem, rfl⟩ := List.mem_map.1 h
  have hlt := List.snd_lt_of_mem_zipIdx hmem
  simpa [duties] using hlt

end

/-- Reaping returns the exits that its polls brought. -/
theorem mem_ended_sweepEffects {polls : List Poll} {worker : Worker} :
    worker ∈ ended (sweepEffects polls) ↔
      ∃ poll ∈ polls, poll.exit?.isSome ∧ poll.entry.worker = worker := by
  rw [ended, List.mem_filterMap]
  constructor
  · rintro ⟨effect, he, hw⟩
    rcases mem_sweepEffects he with ⟨poll, hp, rfl⟩ | ⟨health, rfl⟩ | ⟨event, rfl⟩
    · rcases poll with ⟨entry, error | _ | exit⟩ <;> cases hw
      exact ⟨_, hp, rfl, rfl⟩
    · cases hw
    · cases hw
  · rintro ⟨poll, hp, hexit, rfl⟩
    refine ⟨.polled poll.entry.id poll.entry.worker poll.result, ?_, ?_⟩
    · exact List.mem_append_left _ (List.mem_flatMap.2 ⟨poll, hp, List.mem_cons_self⟩)
    · rcases poll with ⟨entry, error | _ | exit⟩
      · cases hexit
      · cases hexit
      · rfl

/-! ## The invariant -/

/-- The volumes own exactly the workers that run and that no stop has failed on, each its own. -/
structure Tended (stage : Stage σ) : Prop where
  counted : (duties stage.trace).length = stage.launches
  known : ∀ worker, Released stage.trace worker → worker.number < stage.launches
  distinct : (stage.registry.entries.map (·.worker)).Nodup
  owned : ∀ duty, duty ∈ stage.registry.entries.map Entry.duty ↔
    duty ∈ duties stage.trace ∧ ¬ Released stage.trace duty.worker

namespace Tended
variable {stage after : Stage σ} {effects : List Effect}

theorem initial (place : σ) : Tended (Stage.initial place) where
  counted := rfl
  known _ h := by rcases h with h | h <;> cases h
  distinct := List.nodup_nil
  owned _ := ⟨nofun, fun h => nomatch h.1⟩

theorem number_lt (h : Tended stage) {entry : Entry} (he : entry ∈ stage.registry.entries) :
    entry.worker.number < stage.launches := by
  obtain ⟨hmem, -⟩ := (h.owned entry.duty).1 (List.mem_map_of_mem he)
  rw [← h.counted]
  exact number_lt_of_mem_duties hmem

theorem workers_eq (entries : List Entry) :
    entries.map (·.worker) = (entries.map Entry.duty).map (·.worker) := by
  rw [List.map_map]
  rfl

/-- **Entries and their workers may leave together.** -/
theorem narrow (h : Tended stage) (htrace : after.trace = stage.trace ++ effects)
    (hquiet : effects.filterMap Effect.start? = []) (hlaunches : after.launches = stage.launches)
    (hsub : (after.registry.entries.map Entry.duty).Sublist
      (stage.registry.entries.map Entry.duty))
    (hkept : ∀ duty, duty ∈ after.registry.entries.map Entry.duty ↔
      duty ∈ stage.registry.entries.map Entry.duty ∧ ¬ Released effects duty.worker)
    (hknown : ∀ worker, Released effects worker →
      ∃ entry ∈ stage.registry.entries, entry.worker = worker) : Tended after where
  counted := by rw [htrace, duties_append_of_nil hquiet, h.counted, hlaunches]
  known worker hw := by
    rw [htrace, released_append] at hw
    rw [hlaunches]
    rcases hw with hw | hw
    · exact h.known worker hw
    · obtain ⟨entry, he, rfl⟩ := hknown worker hw
      exact h.number_lt he
  distinct := by
    have hd := h.distinct
    rw [workers_eq] at hd ⊢
    exact hd.sublist (hsub.map _)
  owned duty := by
    rw [hkept, h.owned, htrace, duties_append_of_nil hquiet, released_append, not_or,
      and_assoc]

/-- What releases no worker may change what is known of the volumes. -/
theorem quiet (h : Tended stage) (htrace : after.trace = stage.trace ++ effects)
    (hstart : effects.filterMap Effect.start? = []) (hended : ended effects = [])
    (hspared : spared effects = []) (hlaunches : after.launches = stage.launches)
    (hduties : after.registry.entries.map Entry.duty = stage.registry.entries.map Entry.duty) :
    Tended after := by
  have hnone : ∀ worker, ¬ Released effects worker := by
    intro worker hw
    rw [Released, hended, hspared] at hw
    rcases hw with hw | hw <;> cases hw
  refine h.narrow htrace hstart hlaunches (hduties ▸ List.Sublist.refl _) (fun duty => ?_)
    fun worker hw => absurd hw (hnone worker)
  rw [hduties]
  exact ⟨fun hd => ⟨hd, hnone _⟩, And.left⟩

/-- **Reaping lets exactly the entries go whose workers have ended.** -/
theorem swept (h : Tended stage) (workers : Workers σ) (event : Log.Event) :
    Tended (stage.swept workers event) := by
  have hentries := survey_entries workers stage.registry.entries stage.place
  have hsub := survivors_sublist workers stage.registry.entries stage.place
  have htrace : (stage.swept workers event).trace = stage.trace ++
    (sweepEffects (workers.survey stage.registry.entries stage.place).1 ++ [.logged event]) := rfl
  have hafter : (stage.swept workers event).registry.entries =
    survivors (workers.survey stage.registry.entries stage.place).1 := rfl
  generalize (workers.survey stage.registry.entries stage.place).1 = polls
    at hentries hsub htrace hafter
  have hdistinct : (polls.map (·.entry.worker)).Nodup := by
    have hd := h.distinct
    rwa [← hentries, List.map_map] at hd
  have hreleased : ∀ worker, Released (sweepEffects polls ++ [.logged event]) worker ↔
      ∃ poll ∈ polls, poll.exit?.isSome ∧ poll.entry.worker = worker := by
    intro worker
    rw [← mem_ended_sweepEffects, Released, ended_append, spared_append, spared, spared,
      Effect.distinctive_spared?.filterMap_sweepEffects]
    simp [ended, Effect.ended?, Effect.spared?]
  refine h.narrow htrace ?_ rfl (hafter ▸ hsub.map _) (fun duty => ?_) fun worker hw => ?_
  · rw [List.filterMap_append, Effect.distinctive_start?.filterMap_sweepEffects]
    rfl
  · rw [hafter, hreleased, ← hentries]
    constructor
    · intro hd
      obtain ⟨entry, he, rfl⟩ := List.mem_map.1 hd
      obtain ⟨poll, hp, rfl⟩ := List.mem_map.1 he
      obtain ⟨hp, hnone⟩ := List.mem_filter.1 hp
      refine ⟨List.mem_map_of_mem (List.mem_map_of_mem hp), ?_⟩
      -- a poll of the same worker is this very poll
      rintro ⟨other, ho, hexit, hworker⟩
      obtain rfl := List.inj_on_of_nodup_map hdistinct ho hp hworker
      simp [Option.isNone_iff_eq_none.1 hnone] at hexit
    · rintro ⟨hd, hrunning⟩
      obtain ⟨entry, he, rfl⟩ := List.mem_map.1 hd
      obtain ⟨poll, hp, rfl⟩ := List.mem_map.1 he
      refine List.mem_map_of_mem (List.mem_map_of_mem (List.mem_filter.2 ⟨hp, ?_⟩))
      by_contra hexit
      exact hrunning ⟨poll, hp, Option.isSome_iff_ne_none.2 (by simpa using hexit), rfl⟩
  · obtain ⟨poll, hp, -, rfl⟩ := (hreleased worker).1 hw
    exact ⟨poll.entry, hentries ▸ List.mem_map_of_mem hp, rfl⟩

/-- **A launch adds an entry and its worker.** -/
theorem start (h : Tended stage) {entry : Entry} {pid : Nat}
    (htrace : after.trace = stage.trace ++ effects)
    (hstart : effects.filterMap Effect.start? = [(pid, entry.id, entry.options)])
    (hended : ended effects = []) (hspared : spared effects = [])
    (hworker : entry.worker = ⟨stage.launches, pid⟩)
    (hlaunches : after.launches = stage.launches + 1)
    (hentries : after.registry.entries = stage.registry.entries ++ [entry]) : Tended after := by
  have hduty : (⟨⟨(duties stage.trace).length, pid⟩, entry.id, entry.options⟩ : Duty) =
      entry.duty := by
    rw [h.counted, ← hworker]
    rfl
  have hreleased : ∀ worker, Released after.trace worker ↔ Released stage.trace worker := by
    intro worker
    rw [htrace, released_append, or_iff_left]
    rw [Released, hended, hspared]
    rintro (hw | hw) <;> cases hw
  refine ⟨?_, fun worker hw => ?_, ?_, fun duty => ?_⟩
  · rw [htrace, duties_append_start hstart, hlaunches, ← h.counted]
    simp
  · rw [hlaunches]
    exact Nat.lt_succ_of_lt (h.known worker ((hreleased worker).1 hw))
  · rw [hentries, List.map_append, List.nodup_append]
    refine ⟨h.distinct, by simp, ?_⟩
    -- the workers of other entries were launched before
    intro a ha b hb heq
    obtain ⟨other, ho, rfl⟩ := List.mem_map.1 ha
    rw [List.map_singleton, List.mem_singleton] at hb
    have hlt := h.number_lt ho
    rw [heq, hb, hworker] at hlt
    exact Nat.lt_irrefl _ hlt
  · rw [hentries, List.map_append, List.mem_append, h.owned, htrace, duties_append_start hstart,
      hduty, ← htrace, hreleased, List.mem_append, List.map_singleton, or_and_right]
    refine or_congr_right (iff_self_and.2 fun hd => ?_)
    -- nor has any earlier call been on the new worker
    rw [List.mem_singleton.1 hd]
    intro hw
    have hlt := h.known _ hw
    rw [Entry.duty, hworker] at hlt
    exact Nat.lt_irrefl _ hlt

/-- **Unmounting lets an entry and its worker go**, whether or not stopping it fails. -/
theorem retire (h : Tended stage) {id : InstanceId} {entry : Entry}
    (hget : stage.registry.get? id = some entry)
    (hentries : after.registry.entries = stage.registry.entries.eraseP (·.id = id))
    (htrace : after.trace = stage.trace ++ effects)
    (hstart : effects.filterMap Effect.start? = []) (hlaunches : after.launches = stage.launches)
    (hreleased : ∀ worker, Released effects worker ↔ worker = entry.worker) : Tended after := by
  obtain ⟨front, back, hsplit, herased⟩ := split_of_get? hget
  rw [← hentries] at herased
  -- the workers of the other entries are others
  have hother : ∀ other ∈ front ++ back, other.worker ≠ entry.worker := by
    have hd := h.distinct
    rw [hsplit, List.map_append, List.map_cons, List.nodup_middle, List.nodup_cons,
      ← List.map_append] at hd
    exact fun other ho heq => hd.1 (List.mem_map.2 ⟨other, ho, heq⟩)
  have hsub : (front ++ back).Sublist stage.registry.entries := by
    rw [hsplit]
    exact (List.Sublist.refl front).append (List.sublist_cons_self entry back)
  refine h.narrow htrace hstart hlaunches (herased ▸ hsub.map _) (fun duty => ?_)
    fun worker hw => ?_
  · rw [herased, hreleased]
    constructor
    · intro hd
      obtain ⟨other, ho, rfl⟩ := List.mem_map.1 hd
      exact ⟨List.mem_map_of_mem (hsub.subset ho), hother other ho⟩
    · rintro ⟨hd, hne⟩
      obtain ⟨other, ho, rfl⟩ := List.mem_map.1 hd
      rw [hsplit, List.mem_append, List.mem_cons] at ho
      refine List.mem_map_of_mem (List.mem_append.2 ?_)
      rcases ho with ho | rfl | ho
      · exact .inl ho
      · exact absurd rfl hne
      · exact .inr ho
  · exact ⟨entry, List.mem_of_find?_eq_some hget, ((hreleased worker).1 hw).symm⟩

variable {dispatcher : Dispatcher σ} {request : Request}

/-- Whatever a request comes to, entries and workers change together. -/
theorem routed {result : Except Halt (Except Rejection Reply)} (h : Tended stage)
    (hr : Routed dispatcher stage request result after) : Tended after := by
  cases hr with
  | refused | stuck | listed | described => exact h
  | panicked hl | failed hl =>
    exact h.quiet rfl rfl rfl rfl rfl
      (congrArg (List.map Entry.duty) (allocate_eq_some hl.allocated).2)
  | started hl =>
    exact h.start rfl rfl rfl rfl rfl rfl
      (congrArg (· ++ [_]) (allocate_eq_some hl.allocated).2)
  | reported hm =>
    obtain ⟨-, rfl⟩ := markMounted?_eq_some.1 hm
    exact h.quiet rfl rfl rfl rfl rfl
      (map_updateFirst Entry.duty (·.attach _ _) (fun _ => rfl) stage.registry.entries)
  | stopped hr | abandoned hr =>
    obtain ⟨hget, rfl⟩ := remove?_eq_some.1 hr.removed
    refine h.retire hget rfl rfl rfl rfl fun worker => ?_
    simp [Released, ended, spared, Effect.ended?, Effect.spared?, eq_comm]

/-- **Every request keeps volumes and running workers together.** -/
theorem observe (h : Tended stage) (request : Request) :
    Tended (stage.observe dispatcher request).2 := by
  obtain ⟨event, note, result, routed, effects, hr, -, -, ho⟩ := observe_eq dispatcher stage request
  rw [ho]
  have hrouted := (h.swept dispatcher.workers event).routed hr
  -- the note at the end is about no worker
  have hclosing : (closing note result).filterMap Effect.start? = [] ∧
      ended (closing note result) = [] ∧ spared (closing note result) = [] := by
    rcases result with halt | rejection | reply <;> exact ⟨rfl, rfl, rfl⟩
  exact hrouted.quiet rfl hclosing.1 hclosing.2.1 hclosing.2.2 rfl rfl

end Tended

theorem tended_run (dispatcher : Dispatcher σ) (place : σ) (requests : List Request) :
    Tended ((Stage.initial place).run dispatcher requests).2 :=
  run_induction (P := fun _ stage => Tended stage) (fun _ _ request h => h.observe request)
    requests [] (Stage.initial place) (.initial place)

/-! ## Whole runs -/

/-- An unmount takes out the volume of the identifier, or else the one at the mount point. -/
theorem Removing.names {stage : Stage σ} {id : Option InstanceId} {mountPoint : Option String}
    {target : InstanceId} {entry : Entry} {registry : Registry}
    (h : Removing stage id mountPoint target entry registry) (hs : stage.registry.Sound) :
    entry ∈ stage.registry.entries ∧
      (id = some entry.id ∨ id = none ∧ mountPoint = some entry.options.mountPoint) := by
  obtain ⟨hget, -⟩ := remove?_eq_some.1 h.removed
  have hmem := List.mem_of_find?_eq_some hget
  have hid : entry.id = target := by simpa using List.find?_some hget
  have hnamed := h.named
  refine ⟨hmem, ?_⟩
  cases id with
  | some id =>
    cases hnamed
    exact .inl (congrArg some hid.symm)
  | none =>
    cases mountPoint with
    | none => cases hnamed
    | some mountPoint =>
      rw [Registry.unmountTarget] at hnamed
      split at hnamed
      next found hat =>
        cases hnamed
        obtain ⟨hfound, rfl⟩ := mem_of_atMountPoint? hat
        obtain rfl := List.inj_on_of_nodup_map hs.ids hmem hfound hid
        exact .inr ⟨rfl, rfl⟩
      next => cases hnamed

/-- An unmount that is met stops the worker of the volume that it names: the worker has ended, or
    stopping it has failed. -/
theorem unmount_stops {dispatcher : Dispatcher σ} {stage : Stage σ} (hs : stage.registry.Sound)
    {id : Option InstanceId} {mountPoint : Option String}
    (hok : (stage.observe dispatcher (.unmount id mountPoint)).1.answer = .ok .ok) :
    ∃ entry ∈ (stage.reap dispatcher.workers).2.registry.entries,
      (id = some entry.id ∨ id = none ∧ mountPoint = some entry.options.mountPoint) ∧
      (entry.worker ∈ ended (stage.observe dispatcher (.unmount id mountPoint)).2.trace ∨
        entry.worker ∈ spared (stage.observe dispatcher (.unmount id mountPoint)).1.effects) := by
  obtain ⟨event, note, result, after, effects, hr, htrace, -, ho⟩ :=
    observe_eq dispatcher stage (.unmount id mountPoint)
  have hsound : (stage.swept dispatcher.workers event).registry.Sound := hs.swept event
  rw [ho] at hok ⊢
  rw [← registry_swept dispatcher.workers stage event]
  cases hr with
  | refused => cases hok
  | stopped hr =>
    obtain ⟨hmem, hnames⟩ := hr.names hsound
    refine ⟨_, hmem, hnames, .inl ?_⟩
    simp [ended, List.filterMap_append, Effect.ended?]
  | abandoned hr =>
    obtain ⟨hmem, hnames⟩ := hr.names hsound
    refine ⟨_, hmem, hnames, .inr ?_⟩
    rw [← List.append_cancel_left htrace]
    simp [spared, List.filterMap_append, Effect.spared?]

/-- **Every running worker is owned by exactly one volume, unless a stop of it has failed**, and
    every volume owns one.  An unmount that is answered `OK` has ended the worker of its volume,
    unless stopping it failed just then; and no mount point has two running workers, unless a stop
    of one of them has failed. -/
theorem running_owned (dispatcher : Dispatcher σ) (place : σ) (requests : List Request) :
    let stage := ((Stage.initial place).run dispatcher requests).2
    (∀ duty : Duty, duty.Runs stage.trace ∧ duty.worker ∉ spared stage.trace ↔
      ∃ entry ∈ stage.registry.entries, entry.duty = duty ∧
        ∀ other ∈ stage.registry.entries, other.worker = duty.worker → other = entry) ∧
    (∀ id mountPoint,
      let left := (stage.reap dispatcher.workers).2.registry
      let event := (stage.observe dispatcher (.unmount id mountPoint)).1
      let after := (stage.observe dispatcher (.unmount id mountPoint)).2
      event.answer = .ok .ok → ∃ entry ∈ left.entries,
        (id = some entry.id ∨ id = none ∧ mountPoint = some entry.options.mountPoint) ∧
        (entry.duty.Runs after.trace → entry.worker ∈ spared event.effects)) ∧
    (∀ first second : Duty, first.Runs stage.trace → second.Runs stage.trace →
      first.worker ∉ spared stage.trace → second.worker ∉ spared stage.trace →
      first.options.mountPoint = second.options.mountPoint → first = second) := by
  intro stage
  have ht : Tended stage := tended_run dispatcher place requests
  have hs : stage.registry.Sound := (recorded_run dispatcher place requests).sound
  -- running and not spared is the same as not released
  have howned : ∀ duty, duty ∈ stage.registry.entries.map Entry.duty ↔
      duty.Runs stage.trace ∧ duty.worker ∉ spared stage.trace := by
    intro duty
    rw [ht.owned, Released, not_or, Duty.Runs, and_assoc]
  refine ⟨fun duty => ?_, ?_, fun first second hfirst hsecond hf hg hat => ?_⟩
  · rw [← howned, List.mem_map]
    constructor
    · rintro ⟨entry, he, rfl⟩
      exact ⟨entry, he, rfl, fun other ho hw => List.inj_on_of_nodup_map ht.distinct ho he hw⟩
    · rintro ⟨entry, he, hduty, -⟩
      exact ⟨entry, he, hduty⟩
  · intro id mountPoint left event after hok
    obtain ⟨entry, he, hnames, hstop⟩ := unmount_stops hs hok
    exact ⟨entry, he, hnames, fun hrun => hstop.resolve_left hrun.2⟩
  · obtain ⟨entry, he, rfl⟩ := List.mem_map.1 ((howned first).2 ⟨hfirst, hf⟩)
    obtain ⟨other, ho, rfl⟩ := List.mem_map.1 ((howned second).2 ⟨hsecond, hg⟩)
    rw [List.inj_on_of_nodup_map hs.mountPoints he ho hat]

/-- Of two volumes, each owns its worker, and an unmount ends the worker of its own. -/
theorem running_owned_two :
    let dispatcher : Dispatcher Rehearsal.Cast := ⟨Rehearsal.rehearsal, .scripted [16], 1, 10⟩
    let mount := fun path => Request.mount { mountPoint := some path, devices := ["/dev/sdb"] }
    let stage := ((Stage.initial {}).run dispatcher [mount "/mnt", mount "/srv"]).2
    let after := (stage.observe dispatcher (.unmount none (some "/mnt"))).2
    (∃ entry ∈ stage.registry.entries, entry.worker = ⟨1, 1001⟩ ∧ entry.id = ⟨17⟩) ∧
      ∃ entry ∈ (stage.reap dispatcher.workers).2.registry.entries,
        entry.options.mountPoint = "/mnt" ∧ ¬ entry.duty.Runs after.trace := by
  intro dispatcher mount stage after
  obtain ⟨howned, hunmount, -⟩ :=
    running_owned dispatcher {} [mount "/mnt", mount "/srv"]
  obtain ⟨entry, he, hduty, -⟩ :=
    (howned ⟨⟨1, 1001⟩, ⟨17⟩, ⟨"/srv", ["/dev/sdb"], .default, none, false⟩⟩).1 (by decide)
  obtain ⟨other, ho, hnames, hrun⟩ := hunmount none (some "/mnt") rfl
  refine ⟨⟨entry, he, congrArg Duty.worker hduty, congrArg Duty.id hduty⟩, other, ho, ?_, ?_⟩
  · rcases hnames with h | ⟨-, h⟩
    · cases h
    · exact (Option.some.inj h).symm
  · intro hrunning
    have hnone : spared (stage.observe dispatcher (.unmount none (some "/mnt"))).1.effects =
        [] := by decide
    have hmem := hrun hrunning
    rw [hnone] at hmem
    cases hmem

/-- Where stopping fails, an unmount leaves a worker without a volume, and the next mount makes it
    the second worker at its mount point. -/
theorem unowned_after_failed_stop :
    let workers : Workers Rehearsal.Cast :=
      { Rehearsal.rehearsal with stop := fun _ _ cast => (.error (.system 1), cast) }
    let dispatcher : Dispatcher Rehearsal.Cast := ⟨workers, .scripted [16], 1, 10⟩
    let mount := Request.mount { mountPoint := some "/mnt", devices := ["/dev/sdb"] }
    let history := ((Stage.initial {}).run dispatcher [mount, .unmount none (some "/mnt"), mount]).1
    let stage := ((Stage.initial {}).run dispatcher [mount, .unmount none (some "/mnt"), mount]).2
    let options : Options := ⟨"/mnt", ["/dev/sdb"], .default, none, false⟩
    history.map (·.answer) = [.ok .ok, .ok .ok, .ok .ok] ∧
      Duty.Runs ⟨⟨0, 1000⟩, ⟨16⟩, options⟩ stage.trace ∧
      Duty.Runs ⟨⟨1, 1001⟩, ⟨17⟩, options⟩ stage.trace ∧
      stage.registry.entries.map (·.worker) = [⟨1, 1001⟩] := by
  refine ⟨rfl, ?_, ?_, ?_⟩ <;> decide

end MountControl.Service
