/-
  MountControl — answering requests.

  `Stage.dispatch` answers one request.  It first removes the volumes whose
  workers have ended, so no reply ever names one; then `Stage.route` does
  what the request asks.  A request that cannot be met is answered with the
  text of its `Rejection`.
-/
import MountControl.Service.Stage
import MountControl.Wire.Reply

namespace MountControl.Service

open Host (IoError)
open Volume (InstanceId Options RawOptions Uuid)
open Wire (Reply Request)

/-- Why a request is not met. -/
inductive Rejection
  /-- The kind of request is unknown. -/
  | unknownCommand
  /-- A field that the request needs is absent. -/
  | missingField (field : String)
  /-- The mount options are invalid. -/
  | invalidOptions (error : Volume.OptionsError)
  /-- Another volume has the mount point. -/
  | mountPointInUse (mountPoint : String) (id : InstanceId)
  /-- The worker could not be started. -/
  | spawn (error : SpawnError)
  /-- No volume has the identifier. -/
  | unknownInstance (id : InstanceId)
  /-- No volume has the mount point. -/
  | unknownMountPoint (mountPoint : String)
  /-- The service is broken. -/
  | internal (message : String)
  deriving DecidableEq, Repr

/-- The text of a rejection. -/
def Rejection.message : Rejection → String
  | .unknownCommand => "unrecognised command"
  | .missingField field => "missing required field " ++ field
  | .invalidOptions error => "invalid mount options: " ++ error.message
  | .mountPointInUse mountPoint id =>
    "mount point " ++ mountPoint ++ " is already in use by instance " ++ id.display
  | .spawn error => error.message
  | .unknownInstance id => "no volume with instance ID " ++ id.display
  | .unknownMountPoint mountPoint => "no volume is mounted at " ++ mountPoint
  | .internal message => "internal error: " ++ message

/-- Is it the service that is at fault, and not the request? -/
def Rejection.isInternal : Rejection → Bool
  | .internal _ => true
  | _ => false

/-- What a dispatcher works with. -/
structure Dispatcher (σ : Type) where
  /-- Where workers run. -/
  workers : Workers σ
  /-- Where identifiers come from. -/
  ids : IdSource
  /-- How many candidates for an identifier are tried. -/
  patience : Nat
  /-- How long a worker is given to stop, in milliseconds. -/
  stopTimeout : Nat

variable {σ : Type}

/-- The component that logs dispatching. -/
def dispatchTarget : String := "btrmountd::dispatch"

/-! ## Single requests -/

/-- Mounts a volume. -/
def Stage.mount (dispatcher : Dispatcher σ) (stage : Stage σ) (raw : RawOptions) :
    Except Halt (Except Rejection Reply) × Stage σ :=
  match raw.validate with
  | .error error => (.ok (.error (.invalidOptions error)), stage)
  | .ok options =>
    match stage.registry.atMountPoint? options.mountPoint with
    | some existing =>
      (.ok (.error (.mountPointInUse options.mountPoint existing.id)), stage)
    | none =>
      match stage.register dispatcher.workers dispatcher.ids dispatcher.patience options with
      | (.error halt, stage) => (.error halt, stage)
      | (.ok (.error error), stage) =>
        (.ok (.error (.spawn error)), stage.report (.workerFailed error))
      | (.ok (.ok entry), stage) =>
        (.ok (.ok .ok), stage.report (.workerStarted entry.id (stage.registry.pid entry.id)))

/-- The volume that a request to unmount names: by its identifier, or else by its mount point. -/
def Registry.unmountTarget (registry : Registry) :
    Option InstanceId → Option String → Except Rejection InstanceId
  | some id, _ => .ok id
  | none, some mountPoint =>
    match registry.atMountPoint? mountPoint with
    | some entry => .ok entry.id
    | none => .error (.unknownMountPoint mountPoint)
  | none, none => .error (.missingField "InstanceID or MountPoint")

/-- Stops the worker of an entry that was taken out of the registry. -/
def Stage.retire (dispatcher : Dispatcher σ) (stage : Stage σ) (entry : Entry) : Stage σ :=
  let stage := stage.log .info dispatchTarget "unmounting volume"
    [("instance", .shown entry.id.display), ("state", .shown entry.state.name),
     ("mount_point", .text entry.options.mountPoint)]
  match stage.stop dispatcher.workers entry dispatcher.stopTimeout with
  | (.ok exit, stage) => stage.report (.workerExited entry.id exit)
  | (.error error, stage) =>
    stage.log .warn dispatchTarget "failed to stop worker"
      [("instance", .shown entry.id.display), ("error", .shown error.message)]

/-- Unmounts a volume. -/
def Stage.unmount (dispatcher : Dispatcher σ) (stage : Stage σ) (id : Option InstanceId)
    (mountPoint : Option String) : Except Rejection Reply × Stage σ :=
  match stage.registry.unmountTarget id mountPoint with
  | .error rejection => (.error rejection, stage)
  | .ok id =>
    match stage.registry.remove? id with
    | none => (.error (.unknownInstance id), stage)
    | some (entry, registry) => (.ok .ok, { stage with registry }.retire dispatcher entry)

/-- Describes a volume to its worker. -/
def Registry.describe (registry : Registry) : Option InstanceId → Except Rejection Reply
  | none => .error (.missingField "InstanceID")
  | some id =>
    match registry.get? id with
    | some entry => .ok (.detail entry.record)
    | none => .error (.unknownInstance id)

/-- Notes the filesystem that a worker reports. -/
def Stage.mounted (stage : Stage σ) :
    Option InstanceId → Option Uuid → Option String → Except Rejection Reply × Stage σ
  | none, _, _ => (.error (.missingField "InstanceID"), stage)
  | some _, none, _ => (.error (.missingField "FSUUID"), stage)
  | some id, some fsUuid, label =>
    match stage.registry.markMounted? id fsUuid label with
    | none => (.error (.unknownInstance id), stage)
    | some registry =>
      (.ok .ok, { stage with registry }.log .info dispatchTarget
        "worker reported mounted filesystem"
        [("instance", .shown id.display), ("fs_uuid", .shown fsUuid.display)])

/-! ## Any request -/

/-- Does what a request asks. -/
def Stage.route (dispatcher : Dispatcher σ) (stage : Stage σ) :
    Request → Except Halt (Except Rejection Reply) × Stage σ
  | .mount raw => stage.mount dispatcher raw
  | .list => (.ok (.ok (.listing stage.registry.records)), stage)
  | .mountData id => (.ok (stage.registry.describe id), stage)
  | .mounted id fsUuid label =>
    let (result, stage) := stage.mounted id fsUuid label
    (.ok result, stage)
  | .unmount id mountPoint =>
    let (result, stage) := stage.unmount dispatcher id mountPoint
    (.ok result, stage)
  | .unknown _ => (.ok (.error .unknownCommand), stage)

/-- Reports the exits of reaped volumes. -/
def Stage.reportReaped (stage : Stage σ) (reaped : List Reaped) : Stage σ :=
  reaped.foldl (fun stage volume => stage.report (.workerExited volume.id volume.exit)) stage

/-- Answers one request. -/
def Stage.dispatch (dispatcher : Dispatcher σ) (stage : Stage σ) (request : Request) :
    Except Halt Reply × Stage σ :=
  let (reaped, stage) := stage.reap dispatcher.workers
  let stage := (stage.reportReaped reaped).log .debug dispatchTarget "dispatching request"
    [("kind", .text request.kind), ("volumes", .number stage.registry.entries.length)]
  match stage.route dispatcher request with
  | (.error halt, stage) => (.error halt, stage)
  | (.ok (.ok reply), stage) => (.ok reply, stage)
  | (.ok (.error rejection), stage) =>
    (.ok (.error rejection.message), stage.log .warn dispatchTarget "request rejected"
      [("error", .shown rejection.message)])

/-! ## Sharing and the end -/

/-- The stage behind a lock.  A breakdown while the lock is held poisons it, and from then on no
    request is let in. -/
structure Shared (σ : Type) where
  /-- What the lock guards. -/
  stage : Stage σ
  /-- Has a breakdown poisoned the lock? -/
  poisoned : Bool := false

/-- The rejection of a request that finds the lock poisoned. -/
def lockPoisoned : Rejection := .internal "registry lock poisoned"

/-- How a request under the lock ends. -/
inductive Answer
  /-- It is answered. -/
  | reply (reply : Reply)
  /-- It is not let in. -/
  | refused (rejection : Rejection)
  /-- It breaks down. -/
  | halted (halt : Halt)
  deriving DecidableEq, Repr

/-- Answers a request under the lock. -/
def Shared.dispatch (dispatcher : Dispatcher σ) (shared : Shared σ) (request : Request) :
    Answer × Shared σ :=
  if shared.poisoned then (.refused lockPoisoned, shared)
  else
    match shared.stage.dispatch dispatcher request with
    | (.ok reply, stage) => (.reply reply, { shared with stage })
    | (.error halt, stage) => (.halted halt, { stage, poisoned := true })

/-- Stops the worker of one entry at the end of the service; also the note about it in the log. -/
def Stage.stopLast (workers : Workers σ) (grace : Nat) (entry : Entry) (stage : Stage σ) :
    Stage σ :=
  match stage.stop workers entry grace with
  | (.ok exit, stage) =>
    stage.log .info dispatchTarget "worker stopped"
      [("instance", .shown entry.id.display), ("exit", .shown exit.display)]
  | (.error error, stage) =>
    stage.log .warn dispatchTarget "failed to stop worker"
      [("instance", .shown entry.id.display), ("error", .shown error.message)]

/-- Stops the workers of some entries, whether or not stopping the others fails. -/
def Stage.stopEach (workers : Workers σ) (grace : Nat) (entries : List Entry) (stage : Stage σ) :
    Stage σ :=
  entries.foldl (fun stage entry => stage.stopLast workers grace entry) stage

/-- Takes all entries out of the registry, poisoned or not. -/
def Shared.drain (shared : Shared σ) : List Entry × Shared σ :=
  let registry := { shared.stage.registry with entries := [] }
  (shared.stage.registry.entries, { shared with stage := { shared.stage with registry } })

/-- Empties the registry and stops all its workers; also their number. -/
def Shared.stopAll (workers : Workers σ) (grace : Nat) (shared : Shared σ) : Nat × Shared σ :=
  let (entries, shared) := shared.drain
  (entries.length, { shared with stage := shared.stage.stopEach workers grace entries })

end MountControl.Service
