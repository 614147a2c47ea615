/-
  MountControl — the registry among its collaborators.

  A `Stage` is the registry, the place where workers run, and the trace of
  everything that has happened between the two: launches, polls and stops
  with their results, reports, and log events.  Every operation of the
  service is a function from one stage to the next.
-/
import MountControl.Service.Health
import MountControl.Service.Registry

namespace MountControl.Service

open Host (IoError)
open Volume (InstanceId Options)

/-- One thing that has happened. -/
inductive Effect
  /-- The launcher was called for a volume. -/
  | launched (id : InstanceId) (options : Options) (result : Launch)
  /-- A volume's worker was asked whether it has ended. -/
  | polled (id : InstanceId) (worker : Worker) (result : Except IoError (Option Exit))
  /-- A volume's worker was stopped. -/
  | stopped (id : InstanceId) (worker : Worker) (grace : Nat) (result : Except IoError Exit)
  /-- A report was made. -/
  | reported (health : Health)
  /-- A log event was written. -/
  | logged (event : Log.Event)

/-- The registry, the workers' place, and the trace, the earliest effect first. -/
structure Stage (σ : Type) where
  /-- The live volumes. -/
  registry : Registry := {}
  /-- How many workers were launched. -/
  launches : Nat := 0
  /-- The state of the place where workers run. -/
  place : σ
  /-- All that has happened. -/
  trace : List Effect := []

variable {σ : Type}

/-- Adds an effect to the trace. -/
def Stage.note (stage : Stage σ) (effect : Effect) : Stage σ :=
  { stage with trace := stage.trace ++ [effect] }

/-- Makes a report. -/
def Stage.report (stage : Stage σ) (health : Health) : Stage σ :=
  stage.note (.reported health)

/-- Writes a log event. -/
def Stage.log (stage : Stage σ) (level : Log.Level) (target message : String)
    (fields : List (String × Log.Value)) : Stage σ :=
  stage.note (.logged ⟨level, target, message, fields⟩)

/-! ## Workers -/

/-- Asks whether an entry's worker has ended. -/
def Stage.poll (workers : Workers σ) (stage : Stage σ) (entry : Entry) :
    Except IoError (Option Exit) × Stage σ :=
  let (result, place) := workers.poll entry.worker stage.place
  (result, { stage with place }.note (.polled entry.id entry.worker result))

/-- Stops an entry's worker. -/
def Stage.stop (workers : Workers σ) (stage : Stage σ) (entry : Entry) (grace : Nat) :
    Except IoError Exit × Stage σ :=
  let (result, place) := workers.stop entry.worker grace stage.place
  (result, { stage with place }.note (.stopped entry.id entry.worker grace result))

/-- Why an operation came to no end of its own. -/
inductive Halt
  /-- The launcher broke down. -/
  | panicked (message : String)
  /-- No free identifier was found. -/
  | stuck
  deriving DecidableEq, Repr

/-- Launches a worker for a volume and registers it.  Where the launch does not succeed, nothing
    is registered. -/
def Stage.register (workers : Workers σ) (ids : IdSource) (patience : Nat) (stage : Stage σ)
    (options : Options) : Except Halt (Except SpawnError Entry) × Stage σ :=
  match stage.registry.allocate ids patience with
  | none => (.error .stuck, stage)
  | some (id, registry) =>
    let (result, place) := workers.launch stage.launches id options stage.place
    let stage := { stage with registry, place }.note (.launched id options result)
    match result with
    | .started pid =>
      let entry := Entry.starting id options ⟨stage.launches, pid⟩
      (.ok (.ok entry),
        { stage with registry := registry.add entry, launches := stage.launches + 1 })
    | .failed error => (.ok (.error error), stage)
    | .panicked message => (.error (.panicked message), stage)

/-! ## Reaping -/

/-- A volume whose worker was found to have ended. -/
structure Reaped where
  /-- The volume. -/
  id : InstanceId
  /-- Where it was mounted. -/
  mountPoint : String
  /-- How its worker ended. -/
  exit : Exit
  deriving DecidableEq, Repr

/-- Polls the workers of some entries: those that stay, and those whose workers have ended.  An
    entry whose worker cannot be polled stays. -/
def Stage.sift (workers : Workers σ) : List Entry → Stage σ → List Entry × List Reaped × Stage σ
  | [], stage => ([], [], stage)
  | entry :: entries, stage =>
    match stage.poll workers entry with
    | (.ok (some exit), stage) =>
      let stage := stage.log .info "btrmountd::registry" "worker exited; removing volume"
        [("instance", .shown entry.id.display), ("exit", .shown exit.display)]
      let (kept, reaped, stage) := sift workers entries stage
      (kept, ⟨entry.id, entry.options.mountPoint, exit⟩ :: reaped, stage)
    | (.ok none, stage) =>
      let (kept, reaped, stage) := sift workers entries stage
      (entry :: kept, reaped, stage)
    | (.error error, stage) =>
      let stage := stage.log .warn "btrmountd::registry" "failed to poll worker"
        [("instance", .shown entry.id.display), ("error", .shown error.message)]
      let (kept, reaped, stage) := sift workers entries stage
      (entry :: kept, reaped, stage)

/-- Removes every entry whose worker has ended. -/
def Stage.reap (workers : Workers σ) (stage : Stage σ) : List Reaped × Stage σ :=
  let (kept, reaped, stage) := stage.sift workers stage.registry.entries
  (reaped, { stage with registry := { stage.registry with entries := kept } })

end MountControl.Service
