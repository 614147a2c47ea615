/-
  MountControl — how the service ends.

  Two threads take their steps in any order; the listener may still act on
  what it read of the flag before the main thread set it (`Running.Step`).

  * `exchange_induction`, `turn_induction`: what requests and notes in the log
    keep, every turn of the listener keeps;
  * `Running.Kept`: what holds as far as the main thread has come; `kept_step`
    says that it stays so;
  * `shutdown_accounts`: when the service is over, every worker was reaped or
    told to stop, and nothing was launched since the registry was emptied.
-/
import MountControl.Proofs.Service.Accounting
import MountControl.Service.Lifetime
import Mathlib.Logic.Relation

namespace MountControl.Service

open Wire (Request)

variable {σ : Type}

/-! ## The listener -/

section
variable {P : Stage σ → Prop} {dispatcher : Dispatcher σ} {shared : Shared σ}

theorem logFailure_induction (hlog : ∀ stage event, P stage → P (stage.note (.logged event)))
    (level : Log.Level) (message : String) (result : Except Host.IoError Unit)
    (h : P shared.stage) : P (shared.logFailure level message result).stage := by
  cases result with
  | ok => exact h
  | error error => exact hlog _ _ h

theorem decode_induction (hlog : ∀ stage event, P stage → P (stage.note (.logged event)))
    (bytes : List UInt8) (h : P shared.stage) : P (shared.decode bytes).2.stage := by
  have hissues : ∀ (issues : List Wire.Issue) (stage : Stage σ), P stage →
      P (issues.foldl (fun stage issue => stage.note (.logged issue.event)) stage) := by
    intro issues
    induction issues with
    | nil => exact fun _ => id
    | cons issue issues ih => exact fun stage h => ih _ (hlog stage issue.event h)
  rw [Shared.decode]
  split
  · exact hissues _ _ h
  · exact hlog _ _ (hissues _ _ h)

theorem answer_induction
    (hdispatch : ∀ stage request, P stage → P (stage.dispatch dispatcher request).2)
    (request : Request) (h : P shared.stage) : P (shared.dispatch dispatcher request).2.stage := by
  have hafter := hdispatch shared.stage request h
  rw [Shared.dispatch]
  split
  · exact h
  · rcases hd : shared.stage.dispatch dispatcher request with ⟨halt | reply, after⟩ <;>
      rwa [hd] at hafter

/-- **What requests and notes in the log keep, every exchange keeps.** -/
theorem exchange_induction (hlog : ∀ stage event, P stage → P (stage.note (.logged event)))
    (hdispatch : ∀ stage request, P stage → P (stage.dispatch dispatcher request).2)
    (connection : Connection) (h : P shared.stage) :
    P (shared.exchange dispatcher connection).2.2.stage := by
  have htimeouts := logFailure_induction hlog .warn "failed to apply exchange timeout"
    connection.timeouts h
  rw [Shared.exchange]
  split
  · exact hlog _ _ htimeouts
  · exact logFailure_induction hlog _ _ _ (hlog _ _ htimeouts)
  · next bytes _ =>
    have hdecode := decode_induction hlog bytes htimeouts
    rcases hd : Shared.decode _ bytes with ⟨request, decoded⟩
    rw [hd] at hdecode
    have hanswer := answer_induction hdispatch request hdecode
    rcases ha : decoded.dispatch dispatcher request with
      ⟨reply | rejection | message | -, answered⟩ <;> simp only [ha] at hanswer ⊢
    · split
      · exact logFailure_induction hlog _ _ _ hanswer
      · exact hlog _ _ hanswer
    all_goals exact hanswer

end

section
variable {κ τ : Type} {endpoint : Config.Endpoint} {handle : κ → τ → Handled × τ}
  {loop : Loop κ τ}

/-- A loop that has ended takes no more turns. -/
theorem turn_of_ended (h : loop.ended.isSome) (stop : Bool) (accepted : Accepted κ) :
    loop.turn endpoint handle stop accepted = loop := by
  rw [Loop.turn, if_pos h]

/-- **What handling a connection keeps, every turn keeps.** -/
theorem turn_induction {P : τ → Prop}
    (hhandle : ∀ connection state, P state → P (handle connection state).2) (stop : Bool)
    (accepted : Accepted κ) (h : P loop.state) :
    P (loop.turn endpoint handle stop accepted).state := by
  rw [Loop.turn]
  split
  · exact h
  · split
    · exact h
    · cases accepted with
      | nobody => exact h
      | failed error => exact h
      | connection connection =>
        have hafter := hhandle connection loop.state h
        simp only [Loop.serve, Loop.note]
        split <;> exact hafter

end

/-! ## Two threads -/

/-- One step of either thread.  The listener takes a turn, as it last read the flag, which may have
    been before it was set; waiting ends; or the main thread goes on. -/
inductive Running.Step (plan : Plan σ) (running : Running σ) : Running σ → Prop
  | listener (stop : Bool) (accepted : Accepted Connection) : (stop → running.flag) →
      Step plan running
        { running with loop := running.loop.turn plan.endpoint plan.handle stop accepted }
  | wake (waited : Except ShutdownError Unit) : running.closing = .waiting →
      Step plan running { running with closing := .woken, waited }
  | main : Step plan running (running.advance plan)

/-- Any number of steps. -/
abbrev Running.Reaches (plan : Plan σ) : Running σ → Running σ → Prop :=
  Relation.ReflTransGen (Running.Step plan)

section
variable {plan : Plan σ} {first running after : Running σ}

/-- A sequence of moves is a sequence of steps. -/
theorem run_reaches (plan : Plan σ) (moves : List Move) (running : Running σ) :
    running.Reaches plan (running.run plan moves) := by
  induction moves generalizing running with
  | nil => exact .refl
  | cons move moves ih =>
    refine .trans ?_ (ih (running.step plan move))
    cases move with
    | listener accepted => exact .single (.listener running.flag accepted id)
    | main => exact .single .main
    | wake waited =>
      rw [Running.step]
      split
      next hwaiting => exact .single (.wake waited hwaiting)
      next => exact .refl

/-- The registry among its collaborators, while the service runs. -/
def Running.stage (running : Running σ) : Stage σ := running.loop.state.stage

/-- A report. -/
def Effect.report? : Effect → Option Health
  | .reported health => some health
  | _ => none

/-- The number that a report of the end tells. -/
def Effect.completed? : Effect → Option Nat
  | .reported (.shutdownCompleted count) => some count
  | _ => none

theorem reports_eq (stage : Stage σ) : stage.reports = stage.trace.filterMap Effect.report? := rfl

theorem not_mem_reports {stage : Stage σ} (h : stage.trace.filterMap Effect.completed? = [])
    (count : Nat) : Health.shutdownCompleted count ∉ stage.reports := by
  intro hmem
  obtain ⟨effect, he, hreport⟩ := List.mem_filterMap.1 hmem
  have hnone := List.filterMap_eq_nil_iff.1 h effect he
  cases effect with
  | reported health =>
    cases hreport
    cases hnone
  | launched | polled | stopped | logged => cases hreport

/-! ## Before the registry is emptied -/

/-- The entries own the workers that are left, and the end has not been reported. -/
structure Live (stage : Stage σ) : Prop where
  accounted : Accounted stage stage.registry.entries
  unfinished : stage.trace.filterMap Effect.completed? = []

theorem Live.initial (place : σ) : Live (Stage.initial place) := ⟨.initial place, rfl⟩

theorem Live.note {stage : Stage σ} (h : Live stage) {effect : Effect}
    (hstart : effect.start? = none) (hreaped : effect.reaped? = none)
    (hstopped : effect.stop? = none) (hcompleted : effect.completed? = none) :
    Live (stage.note effect) where
  accounted := h.accounted.note hstart hreaped hstopped
  unfinished := by
    rw [Stage.note, List.filterMap_append, h.unfinished, List.filterMap_cons_none hcompleted]
    rfl

/-- A request does not report the end. -/
theorem Routed.unfinished {dispatcher : Dispatcher σ} {stage after : Stage σ} {request : Request}
    {result : Except Halt (Except Rejection Wire.Reply)}
    (h : stage.trace.filterMap Effect.completed? = [])
    (hr : Routed dispatcher stage request result after) :
    after.trace.filterMap Effect.completed? = [] := by
  cases hr with
  | refused | stuck | listed | described => exact h
  | panicked | failed | started | reported | stopped | abandoned =>
    rw [List.filterMap_append, h]
    rfl

theorem completed?_sweepEffects (polls : List Poll) :
    (sweepEffects polls).filterMap Effect.completed? = [] := by
  rw [List.filterMap_eq_nil_iff]
  intro effect he
  rcases List.mem_append.1 he with he | he
  · obtain ⟨⟨entry, error | _ | exit⟩, -, he⟩ := List.mem_flatMap.1 he
    all_goals
      rcases List.mem_cons.1 he with rfl | he
      · rfl
    · rw [List.mem_singleton.1 he]; rfl
    · cases he
    · rw [List.mem_singleton.1 he]; rfl
  · obtain ⟨volume, -, rfl⟩ := List.mem_map.1 he
    rfl

theorem Live.dispatch {dispatcher : Dispatcher σ} {stage : Stage σ} (h : Live stage)
    (request : Request) : Live (stage.dispatch dispatcher request).2 where
  accounted := h.accounted.dispatch request
  unfinished := by
    obtain ⟨event, note, result, after, hr, hd⟩ := dispatch_eq dispatcher stage request
    have hswept : (stage.swept dispatcher.workers event).trace.filterMap Effect.completed? = [] := by
      rw [Stage.swept, List.filterMap_append, List.filterMap_append, h.unfinished,
        completed?_sweepEffects]
      rfl
    rw [hd, List.filterMap_append, hr.unfinished hswept]
    rcases result with halt | rejection | reply <;> rfl

/-- **No turn of the listener spoils the account.** -/
theorem Live.turn {plan : Plan σ} {loop : Loop Connection (Shared σ)} (h : Live loop.state.stage)
    (stop : Bool) (accepted : Accepted Connection) :
    Live (loop.turn plan.endpoint plan.handle stop accepted).state.stage := by
  refine turn_induction (P := fun shared : Shared σ => Live shared.stage) (fun connection shared h => ?_)
    stop accepted h
  exact exchange_induction (fun _ _ h => h.note rfl rfl rfl rfl)
    (fun _ request h => h.dispatch request) connection h

/-! ## The end -/

/-- The registry was emptied where `drained` stood, and only `later` has happened since, with no
    launch. -/
structure Drained (plan : Plan σ) (drained running : Running σ) (later : List Effect) : Prop where
  joined : drained.closing = .joined
  live : Live drained.stage
  reached : (drained.advance plan).Reaches plan running
  ended : running.loop.ended.isSome
  empty : running.stage.registry.entries = []
  trace : running.stage.trace = drained.stage.trace ++ later
  launches : later.filterMap Effect.launch? = []

/-- What holds as far as the main thread has come. -/
inductive Kept (plan : Plan σ) (first running : Running σ) : Prop
  | live : running.closing ∈ [.starting, .waiting, .woken, .announced, .told] →
      Live running.stage → Kept plan first running
  | joined : running.closing = .joined → running.loop.ended.isSome → Live running.stage →
      Kept plan first running
  | stopping {left : List Entry} {drained : Running σ} {later : List Effect} :
      running.closing = .stopping left drained.stage.registry.entries.length →
      first.Reaches plan drained → Drained plan drained running later →
      Accounted running.stage left → later.filterMap Effect.report? = [] → Kept plan first running
  | finished {drained : Running σ} {later : List Effect} : running.closing = .over →
      first.Reaches plan drained → Drained plan drained running later →
      Accounted running.stage [] → later.filterMap Effect.report? =
        [.shutdownCompleted drained.stage.registry.entries.length] → Kept plan first running

theorem Drained.step {drained : Running σ} {later effects : List Effect}
    (h : Drained plan drained running later) (hstep : running.Step plan after)
    (hended : after.loop.ended = running.loop.ended)
    (hregistry : after.stage.registry = running.stage.registry)
    (htrace : after.stage.trace = running.stage.trace ++ effects)
    (hlaunches : effects.filterMap Effect.launch? = []) :
    Drained plan drained after (later ++ effects) where
  joined := h.joined
  live := h.live
  reached := h.reached.tail hstep
  ended := hended ▸ h.ended
  empty := hregistry ▸ h.empty
  trace := by rw [htrace, h.trace, List.append_assoc]
  launches := by rw [List.filterMap_append, h.launches, hlaunches]; rfl

/-- The main thread goes on before the listener has stopped. -/
theorem kept_advance_live
    (hclosing : running.closing ∈ [.starting, .waiting, .woken, .announced, .told])
    (hlive : Live running.stage) : Kept plan first (running.advance plan) := by
  have hsame : Kept plan first running := .live hclosing hlive
  simp only [List.mem_cons, List.not_mem_nil, or_false] at hclosing
  unfold Running.advance
  rcases hclosing with h | h | h | h | h <;> simp only [h]
  · exact .live (by simp [Running.mapStage]) (hlive.note rfl rfl rfl rfl)
  · split
    · exact .live (by simp) hlive
    · exact hsame
  · exact .live (by simp [Running.mapStage]) (hlive.note rfl rfl rfl rfl)
  · exact .live (by simp) hlive
  · split
    next hended => exact .joined rfl ((Option.any_eq_true_iff_get _ _).1 hended).1 hlive
    next => exact hsame

theorem advance_joined (hclosing : running.closing = .joined) :
    (running.advance plan).closing = .stopping running.stage.registry.entries
        running.stage.registry.entries.length ∧
      (running.advance plan).loop.ended = running.loop.ended ∧
      (running.advance plan).stage = { running.stage with registry.entries := [] } := by
  rw [Running.advance, hclosing]
  exact ⟨rfl, rfl, rfl⟩

/-- The main thread empties the registry: the entries are left to be stopped. -/
theorem kept_advance_joined (hreaches : first.Reaches plan running)
    (hclosing : running.closing = .joined) (hended : running.loop.ended.isSome)
    (hlive : Live running.stage) : Kept plan first (running.advance plan) := by
  obtain ⟨hstopping, hloop, hstage⟩ := @advance_joined σ plan running hclosing
  have hdrained : Drained plan running (running.advance plan) [] :=
    ⟨hclosing, hlive, .refl, hloop ▸ hended, by rw [hstage], by rw [hstage, List.append_nil], rfl⟩
  have haccounted : Accounted (running.advance plan).stage running.stage.registry.entries := by
    rw [hstage]
    exact ⟨hlive.accounted.counted, hlive.accounted.settled⟩
  exact .stopping hstopping hreaches hdrained haccounted rfl

/-- The main thread stops the worker of one entry, or reports the end when none is left. -/
theorem kept_advance_stopping {left : List Entry} {drained : Running σ} {later : List Effect}
    (hclosing : running.closing = .stopping left drained.stage.registry.entries.length)
    (hreaches : first.Reaches plan drained) (hdrained : Drained plan drained running later)
    (haccounted : Accounted running.stage left)
    (hreports : later.filterMap Effect.report? = []) :
    Kept plan first (running.advance plan) := by
  have hstep : running.Step plan (running.advance plan) := .main
  rw [Running.advance, hclosing] at hstep ⊢
  cases left with
  | nil =>
    refine .finished rfl hreaches (hdrained.step hstep rfl rfl rfl rfl)
      (haccounted.note rfl rfl rfl) ?_
    rw [List.filterMap_append, hreports]
    rfl
  | cons entry left =>
    obtain ⟨result, note, place, hstop⟩ := stopLast_eq plan.dispatcher.workers
      plan.dispatcher.stopTimeout entry running.stage
    have hafter : (Running.mapStage { running with
        closing := .stopping left drained.stage.registry.entries.length }
          (·.stopLast plan.dispatcher.workers plan.dispatcher.stopTimeout entry)).stage =
        running.stage.stopLast plan.dispatcher.workers plan.dispatcher.stopTimeout entry := rfl
    refine .stopping rfl hreaches
      (hdrained.step hstep rfl (by rw [hafter, hstop]) (by rw [hafter, hstop]) rfl) ?_ ?_
    · rw [hafter]
      exact haccounted.stopLast ..
    · rw [List.filterMap_append, hreports]
      rfl

/-- Once the listener has stopped, and the main thread does not wait, only the main thread goes on. -/
theorem step_of_ended (hended : running.loop.ended.isSome) (hclosing : running.closing ≠ .waiting)
    (hstep : running.Step plan after) : after = running ∨ after = running.advance plan := by
  cases hstep with
  | listener stop accepted hstop => exact .inl (by rw [turn_of_ended hended])
  | wake waited hwaiting => exact absurd hwaiting hclosing
  | main => exact .inr rfl

/-- **Every step keeps what holds.** -/
theorem kept_step (hreaches : first.Reaches plan running) (h : Kept plan first running)
    (hstep : running.Step plan after) : Kept plan first after := by
  have hkept := h
  cases h with
  | live hclosing hlive =>
    cases hstep with
    | listener stop accepted hstop => exact .live hclosing (hlive.turn stop accepted)
    | wake waited hwaiting => exact .live (by simp) hlive
    | main => exact kept_advance_live hclosing hlive
  | joined hclosing hended hlive =>
    rcases step_of_ended hended (by simp [hclosing]) hstep with rfl | rfl
    · exact hkept
    · exact kept_advance_joined hreaches hclosing hended hlive
  | stopping hclosing hfirst hdrained haccounted hreports =>
    rcases step_of_ended hdrained.ended (by simp [hclosing]) hstep with rfl | rfl
    · exact hkept
    · exact kept_advance_stopping hclosing hfirst hdrained haccounted hreports
  | finished hclosing hfirst hdrained haccounted hreports =>
    rcases step_of_ended hdrained.ended (by simp [hclosing]) hstep with rfl | rfl
    · exact hkept
    · rwa [Running.advance, hclosing]

theorem kept_reaches {place : σ} (h : (Running.start plan place).Reaches plan running) :
    Kept plan (.start plan place) running := by
  induction h with
  | refl => exact .live (by simp [Running.start]) (.initial place)
  | tail hreaches hstep ih => exact kept_step hreaches ih hstep

theorem over_of_result? (h : running.result?.isSome) : running.closing = .over := by
  rw [Running.result?] at h
  split at h
  · assumption
  · assumption
  · cases h

/-- **Shutdown accounts for every worker.**  When the service has returned, the registry is empty;
    every worker that was launched was either reaped, and never told to stop, or told to stop just
    once; since the registry was emptied, after the listener had stopped, the launcher was not
    called; and the end was reported once, after all other reports, with the number of entries that
    the registry held then.  So it is whatever the connections, the launcher and the workers did,
    and in whatever order the threads took their steps. -/
theorem shutdown_accounts {place : σ} (h : (Running.start plan place).Reaches plan running)
    (hreturned : running.result?.isSome) :
    running.stage.registry.entries = [] ∧
    (∀ duty ∈ duties running.stage.trace,
      (reapedWorkers running.stage.trace).count duty.worker = 1 ∧
          duty.worker ∉ stoppedWorkers running.stage.trace ∨
        (stoppedWorkers running.stage.trace).count duty.worker = 1 ∧
          duty.worker ∉ reapedWorkers running.stage.trace) ∧
    ∃ drained later, (Running.start plan place).Reaches plan drained ∧
      drained.closing = .joined ∧ (drained.advance plan).Reaches plan running ∧
      running.stage.trace = drained.stage.trace ++ later ∧
      later.filterMap Effect.launch? = [] ∧
      running.stage.reports = drained.stage.reports ++
        [.shutdownCompleted drained.stage.registry.entries.length] ∧
      ∀ count, Health.shutdownCompleted count ∉ drained.stage.reports := by
  have hclosing := over_of_result? hreturned
  cases kept_reaches h with
  | live hother =>
    rw [hclosing] at hother
    simp at hother
  | joined hother | stopping hother =>
    rw [hclosing] at hother
    cases hother
  | @finished drained later _ hfirst hdrained haccounted hreports =>
    refine ⟨hdrained.empty, fun duty hduty => haccounted.closed hduty, drained, later, hfirst,
      hdrained.joined, hdrained.reached, hdrained.trace, hdrained.launches, ?_,
      not_mem_reports hdrained.live.unfinished⟩
    rw [reports_eq, reports_eq, hdrained.trace, List.filterMap_append, hreports]

end

/-- The first worker ends and is reaped, the second cannot be stopped, and the launcher breaks down
    on the third, which ends the listener. -/
theorem shutdown_accounts_panicked :
    let workers : Workers Unit :=
      { launch := fun number _ _ _ =>
          (if number < 2 then .started (1000 + number) else .panicked "launcher panicked", ())
        poll := fun worker _ => (.ok (if worker.number = 0 then some (.code 0) else none), ())
        stop := fun _ _ _ => (.error (.system 1), ()) }
    let plan : Plan Unit := ⟨.unix "/d", ⟨workers, .scripted [16], 2, 10⟩⟩
    let mount := fun path : String => Move.listener (.connection { reads := [.chunk
      (Text.encode ("Mount\nMountPoint|2|" ++ path ++ "\nDevice|2|/x\n").toList)] })
    let running := (Running.start plan ()).run plan
      ([mount "/a", mount "/b", mount "/c"] ++ List.replicate 8 .main)
    running.stage.registry.entries = [] ∧ ⟨0, 1000⟩ ∉ stoppedWorkers running.stage.trace ∧
      (stoppedWorkers running.stage.trace).count ⟨1, 1001⟩ = 1 := by
  intro workers plan mount running
  have hreaches : (Running.start plan ()).Reaches plan running := run_reaches ..
  obtain ⟨hempty, hworkers, -⟩ := shutdown_accounts hreaches (by decide +kernel)
  refine ⟨hempty, ?_, ?_⟩
  · rcases hworkers ⟨⟨0, 1000⟩, ⟨16⟩, ⟨"/a", ["/x"], .default, none, false⟩⟩
      (by decide +kernel) with ⟨-, h⟩ | ⟨-, h⟩
    · exact h
    · exact absurd (by decide +kernel) h
  · rcases hworkers ⟨⟨1, 1001⟩, ⟨17⟩, ⟨"/b", ["/x"], .default, none, false⟩⟩
      (by decide +kernel) with ⟨h, -⟩ | ⟨h, -⟩
    · exact absurd h (by decide +kernel)
    · exact h

end MountControl.Service
