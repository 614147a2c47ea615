/-
  MountControl — what has happened before does not matter.

  The trace is only ever added to.  `Stage.preceded` puts effects in front of
  it; every operation of the service takes a preceded stage to what it makes
  of the stage itself, preceded by the same effects.

  * `reap_preceded`, `route_preceded`, `dispatch_preceded`: one lemma for each
    operation;
  * `dispatch_trace`: so a request comes to the same, whatever the trace.
-/
import MountControl.Proofs.Service.Run

namespace MountControl.Service

open Volume (InstanceId Options RawOptions Uuid)
open Wire (Reply Request)

variable {σ : Type}

/-- The stage with some effects in front of its trace. -/
def Stage.preceded (front : List Effect) (stage : Stage σ) : Stage σ :=
  { stage with trace := front ++ stage.trace }

section
variable (front : List Effect) (stage : Stage σ)

@[simp] theorem registry_preceded : (stage.preceded front).registry = stage.registry := rfl

@[simp] theorem place_preceded : (stage.preceded front).place = stage.place := rfl

@[simp] theorem launches_preceded : (stage.preceded front).launches = stage.launches := rfl

@[simp] theorem note_preceded (effect : Effect) :
    (stage.preceded front).note effect = (stage.note effect).preceded front := by
  simp only [Stage.note, Stage.preceded, List.append_assoc]

@[simp] theorem report_preceded (health : Health) :
    (stage.preceded front).report health = (stage.report health).preceded front :=
  note_preceded ..

@[simp] theorem log_preceded (level : Log.Level) (target message : String)
    (fields : List (String × Log.Value)) :
    (stage.preceded front).log level target message fields =
      (stage.log level target message fields).preceded front :=
  note_preceded ..

/-! ## Workers -/

theorem stop_preceded (workers : Workers σ) (entry : Entry) (grace : Nat) :
    (stage.preceded front).stop workers entry grace =
      Prod.map id (Stage.preceded front) (stage.stop workers entry grace) := by
  simp [Stage.stop, Stage.note, Stage.preceded]

theorem reap_preceded (workers : Workers σ) :
    (stage.preceded front).reap workers =
      Prod.map id (Stage.preceded front) (stage.reap workers) := by
  simp [reap_eq, Stage.preceded]

theorem reportReaped_preceded (reaped : List Reaped) :
    (stage.preceded front).reportReaped reaped = (stage.reportReaped reaped).preceded front := by
  simp [reportReaped_eq, Stage.preceded]

theorem register_preceded (workers : Workers σ) (ids : IdSource) (patience : Nat)
    (options : Options) :
    (stage.preceded front).register workers ids patience options =
      Prod.map id (Stage.preceded front) (stage.register workers ids patience options) := by
  rw [Stage.register, Stage.register, registry_preceded]
  rcases stage.registry.allocate ids patience with _ | ⟨id, registry⟩
  · rfl
  · rw [launches_preceded, place_preceded]
    rcases hl : workers.launch stage.launches id options stage.place with
      ⟨pid | error | message, place⟩ <;>
      simp [hl, Stage.note, Stage.preceded]

/-! ## Requests -/

variable (dispatcher : Dispatcher σ)

theorem mount_preceded (raw : RawOptions) :
    (stage.preceded front).mount dispatcher raw =
      Prod.map id (Stage.preceded front) (stage.mount dispatcher raw) := by
  simp only [Stage.mount, registry_preceded]
  rcases raw.validate with error | options
  · rfl
  · dsimp only
    rcases stage.registry.atMountPoint? options.mountPoint with _ | existing
    · dsimp only
      rw [register_preceded]
      rcases stage.register dispatcher.workers dispatcher.ids dispatcher.patience options with
        ⟨halt | error | entry, after⟩ <;>
        simp
    · rfl

theorem mounted_preceded (id : Option InstanceId) (fsUuid : Option Uuid)
    (label : Option String) :
    (stage.preceded front).mounted id fsUuid label =
      Prod.map (fun result => result) (Stage.preceded front) (stage.mounted id fsUuid label) := by
  rcases id with _ | id
  · rfl
  · rcases fsUuid with _ | fsUuid
    · rfl
    · rw [Stage.mounted, Stage.mounted, registry_preceded]
      rcases stage.registry.markMounted? id fsUuid label with _ | registry
      · rfl
      · simp [Stage.log, Stage.note, Stage.preceded]

theorem retire_preceded (entry : Entry) :
    (stage.preceded front).retire dispatcher entry =
      (stage.retire dispatcher entry).preceded front := by
  simp only [Stage.retire, log_preceded, stop_preceded]
  rcases Stage.stop dispatcher.workers _ entry dispatcher.stopTimeout with ⟨error | exit, after⟩ <;>
    simp

theorem unmount_preceded (id : Option InstanceId) (mountPoint : Option String) :
    (stage.preceded front).unmount dispatcher id mountPoint =
      Prod.map (fun result => result) (Stage.preceded front)
        (stage.unmount dispatcher id mountPoint) := by
  rw [Stage.unmount, Stage.unmount, registry_preceded]
  rcases stage.registry.unmountTarget id mountPoint with rejection | target
  · rfl
  · dsimp only
    rcases stage.registry.remove? target with _ | ⟨entry, registry⟩
    · rfl
    · exact congrArg (Prod.mk _) (retire_preceded front { stage with registry } dispatcher entry)

theorem route_preceded (request : Request) :
    (stage.preceded front).route dispatcher request =
      Prod.map id (Stage.preceded front) (stage.route dispatcher request) := by
  cases request with
  | mount raw => exact mount_preceded ..
  | mounted id fsUuid label => simp [Stage.route, mounted_preceded]
  | unmount id mountPoint => simp [Stage.route, unmount_preceded]
  | list | mountData | unknown => rfl

/-- **A request does the same on a preceded stage.** -/
theorem dispatch_preceded (request : Request) :
    (stage.preceded front).dispatch dispatcher request =
      Prod.map id (Stage.preceded front) (stage.dispatch dispatcher request) := by
  rw [Stage.dispatch, Stage.dispatch, reap_preceded]
  simp only [Prod.map_fst, Prod.map_snd, id_eq, reportReaped_preceded, log_preceded,
    route_preceded, registry_preceded]
  rcases Stage.route dispatcher _ request with ⟨halt | rejection | reply, after⟩ <;> simp

/-- **A request comes to the same, whatever the trace**, and adds the same effects to it. -/
theorem dispatch_trace (trace : List Effect) (request : Request) :
    ({ stage with trace } : Stage σ).dispatch dispatcher request =
      ((stage.observe dispatcher request).1.answer,
        { (stage.observe dispatcher request).2 with
          trace := trace ++ (stage.observe dispatcher request).1.effects }) := by
  have hblank : ∀ trace, ({ stage with trace } : Stage σ) =
      ({ stage with trace := [] } : Stage σ).preceded trace := by
    intro trace
    simp [Stage.preceded]
  have hdispatch : ∀ trace, ({ stage with trace } : Stage σ).dispatch dispatcher request =
      Prod.map id (Stage.preceded trace)
        (({ stage with trace := [] } : Stage σ).dispatch dispatcher request) := by
    intro trace
    rw [hblank, dispatch_preceded]
  have hstage := hdispatch stage.trace
  simp only [Stage.observe, hstage, hdispatch trace]
  simp only [Stage.preceded, Prod.map_fst, Prod.map_snd, id_eq, List.drop_left]
  rfl

/-- What a request adds to the trace are the effects that are seen of it. -/
theorem observe_trace (request : Request) :
    (stage.observe dispatcher request).2.trace =
      stage.trace ++ (stage.observe dispatcher request).1.effects :=
  congrArg (·.2.trace) (dispatch_trace stage dispatcher stage.trace request)

end

end MountControl.Service
