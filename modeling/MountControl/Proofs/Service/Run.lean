/-
  MountControl — runs of a dispatcher.

  An `Event` is what can be seen of one request from outside.  `Stage.run`
  answers requests one after the other, from any stage, and keeps their
  events; `run_induction` carries an invariant of history and stage along.
-/
import MountControl.Proofs.Service.Outcome

namespace MountControl.Service

open Volume (InstanceId)
open Wire (Reply Request)

variable {σ : Type}

/-- One request, how it was answered, and all that happened meanwhile. -/
structure Event where
  request : Request
  answer : Except Halt Reply
  effects : List Effect

/-- Answers one request and watches. -/
def Stage.observe (dispatcher : Dispatcher σ) (stage : Stage σ) (request : Request) :
    Event × Stage σ :=
  let (answer, after) := stage.dispatch dispatcher request
  (⟨request, answer, after.trace.drop stage.trace.length⟩, after)

/-- Answers requests one after the other. -/
def Stage.run (dispatcher : Dispatcher σ) : Stage σ → List Request → List Event × Stage σ
  | stage, [] => ([], stage)
  | stage, request :: requests =>
    let (event, stage) := stage.observe dispatcher request
    let (events, stage) := stage.run dispatcher requests
    (event :: events, stage)

/-- The stage before the first request: an empty registry, nothing launched, nothing happened. -/
def Stage.initial (place : σ) : Stage σ := { place }

/-! ## What an event shows -/

/-- The volume whose poll brought an exit. -/
def Effect.exited? : Effect → Option InstanceId
  | .polled id _ (.ok (some _)) => some id
  | _ => none

/-- The volume whose worker was launched. -/
def Effect.started? : Effect → Option InstanceId
  | .launched id _ (.started _) => some id
  | _ => none

@[simp] theorem Effect.exited?_logged (event : Log.Event) :
    (Effect.logged event).exited? = none := rfl

@[simp] theorem Effect.started?_logged (event : Log.Event) :
    (Effect.logged event).started? = none := rfl

/-- The identifiers whose polls brought exits. -/
def exitIds (polls : List Poll) : List InstanceId :=
  (polls.filter (·.exit?.isSome)).map (·.entry.id)

/-- What reaping adds to the trace tells which volumes were reaped. -/
theorem filterMap_exited?_sweepEffects (polls : List Poll) :
    (sweepEffects polls).filterMap Effect.exited? = exitIds polls := by
  have hreports : ((polls.filterMap Poll.reaped?).map fun volume =>
      Effect.reported (.workerExited volume.id volume.exit)).filterMap Effect.exited? = [] := by
    rw [List.filterMap_map]
    exact List.filterMap_eq_nil_iff.2 fun _ _ => rfl
  have hpolls : (polls.flatMap Poll.effects).filterMap Effect.exited? = exitIds polls := by
    clear hreports
    induction polls with
    | nil => rfl
    | cons poll polls ih =>
      rw [List.flatMap_cons, List.filterMap_append, ih]
      rcases poll with ⟨entry, error | _ | exit⟩ <;> rfl
  rw [sweepEffects, List.filterMap_append, hreports, hpolls, List.append_nil]

/-- Reaping launches nothing. -/
theorem findSome?_started?_sweepEffects (polls : List Poll) :
    (sweepEffects polls).findSome? Effect.started? = none := by
  rw [List.findSome?_eq_none_iff]
  intro effect he
  rcases List.mem_append.1 he with he | he
  · obtain ⟨⟨entry, error | _ | exit⟩, -, he⟩ := List.mem_flatMap.1 he
    · rcases List.mem_cons.1 he with rfl | he
      · rfl
      · rw [List.mem_singleton.1 he]; rfl
    · rw [List.mem_singleton.1 he]; rfl
    · rcases List.mem_cons.1 he with rfl | he
      · rfl
      · rw [List.mem_singleton.1 he]; rfl
  · obtain ⟨volume, -, rfl⟩ := List.mem_map.1 he
    rfl

/-- Nor does a note in the log show an exit or a launch. -/
theorem closing_quiet (note : Log.Event) (result : Except Halt (Except Rejection Reply)) :
    (closing note result).filterMap Effect.exited? = [] ∧
      (closing note result).findSome? Effect.started? = none := by
  rcases result with halt | rejection | reply <;> exact ⟨rfl, rfl⟩

/-- The effects of a request on its own: it polls nobody, and adds to the trace. -/
theorem Routed.effects {dispatcher : Dispatcher σ} {stage after : Stage σ} {request : Request}
    {result : Except Halt (Except Rejection Reply)}
    (h : Routed dispatcher stage request result after) :
    ∃ effects, after.trace = stage.trace ++ effects ∧
      effects.filterMap Effect.exited? = [] := by
  cases h with
  | refused | stuck | listed | described => exact ⟨[], (List.append_nil _).symm, rfl⟩
  | _ => exact ⟨_, rfl, rfl⟩

/-- **An event is made of reaping, one outcome, and notes in the log.** -/
theorem observe_eq (dispatcher : Dispatcher σ) (stage : Stage σ) (request : Request) :
    ∃ event note result after effects,
      Routed dispatcher (stage.swept dispatcher.workers event) request result after ∧
      after.trace = (stage.swept dispatcher.workers event).trace ++ effects ∧
      effects.filterMap Effect.exited? = [] ∧
      stage.observe dispatcher request =
        (⟨request, answerOf result,
          sweepEffects (dispatcher.workers.survey stage.registry.entries stage.place).1 ++
            .logged event :: effects ++ closing note result⟩,
          { after with trace := after.trace ++ closing note result }) := by
  obtain ⟨event, note, result, after, hr, hd⟩ := dispatch_eq dispatcher stage request
  obtain ⟨effects, htrace, hnone⟩ := hr.effects
  refine ⟨event, note, result, after, effects, hr, htrace, hnone, ?_⟩
  -- dispatching only adds to the trace, so dropping the old part leaves what was added
  rw [Stage.observe, hd]
  simp [htrace, Stage.swept]

/-! ## Runs -/

/-- **What every request keeps, a run keeps.** -/
theorem run_induction {dispatcher : Dispatcher σ} {P : List Event → Stage σ → Prop}
    (hstep : ∀ history stage request, P history stage →
      P (history ++ [(stage.observe dispatcher request).1]) (stage.observe dispatcher request).2)
    (requests : List Request) : ∀ history stage, P history stage →
      P (history ++ (stage.run dispatcher requests).1) (stage.run dispatcher requests).2 := by
  induction requests with
  | nil => intro history stage h; simpa [Stage.run] using h
  | cons request requests ih =>
    intro history stage h
    have h' := ih _ _ (hstep history stage request h)
    rwa [List.append_assoc] at h'

end MountControl.Service
