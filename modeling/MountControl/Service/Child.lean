/-
  MountControl — the process of a worker.

  A process is asked whether it has ended, signalled, killed and waited for
  by single calls, each of which may fail.  Stopping a process is a sequence
  of such calls: `Stopping` is how far it has come, and `Stopping.step` the
  next call.

  What a process writes is read line by line.
-/
import MountControl.Config.Endpoint
import MountControl.Log.Event
import MountControl.Service.Worker
import MountControl.Text.Blank
import MountControl.Text.Utf8

namespace MountControl.Service

open Host (IoError)
open Volume (InstanceId)

/-- The component that logs what happens to processes. -/
def supervisorTarget : String := "btrmountd::supervisor"

/-! ## Launching -/

/-- The arguments of a worker: the volume it serves, where to report, and who has launched it. -/
def workerArguments (id : InstanceId) (socket : Config.Endpoint) (parent : Nat) : List String :=
  ["--instance-id=" ++ id.display, "--daemon-socket=" ++ socket.display,
   "--parent-pid=" ++ Text.Numeral.decimalString parent]

/-! ## Output -/

/-- The lines of an output, each with its line feed if it has one. -/
def outputLines (bytes : List UInt8) : List (List UInt8) :=
  match bytes with
  | [] => []
  | first :: rest =>
    let front := (first :: rest).takeWhile (· != 0x0A)
    let back := (first :: rest).drop front.length
    (front ++ back.take 1) :: outputLines (rest.drop front.length)
termination_by bytes.length
decreasing_by
  simp only [List.length_drop, List.length_cons]
  omega

/-- The text of a line: what is no text in it is replaced, and line breaks at its end are left
    out. -/
def lineText (line : List UInt8) : List Char :=
  Text.trimEndOf (fun c => c = '\r' || c = '\n') (Text.decodeLossy line)

/-! ## Stopping -/

/-- The calls on a process: `σ` is the state of the place where it runs. -/
structure Child (σ : Type) where
  /-- Asks whether it has ended. -/
  poll : σ → Except IoError (Option Exit) × σ
  /-- Asks it to end; the number of a process is always one that can be signalled. -/
  terminate : σ → Except IoError Unit × σ
  /-- Tells the time in milliseconds. -/
  now : σ → Nat × σ
  /-- Lets some milliseconds pass. -/
  rest : Nat → σ → σ
  /-- Kills it. -/
  kill : σ → Except IoError Unit × σ
  /-- Waits until it has ended. -/
  wait : σ → Except IoError Exit × σ

/-- How far stopping a process has come. -/
inductive Stopping
  /-- It is about to ask for the first time whether the process has ended. -/
  | checking
  /-- The process runs; it is about to be asked to end. -/
  | terminating
  /-- The process was asked; the time from which it is given is about to be taken. -/
  | granting
  /-- It is about to look whether the time is over. -/
  | timing (deadline : Nat)
  /-- The time is not over; it is about to ask whether the process has ended. -/
  | polling (deadline : Nat)
  /-- The time is over; the process is about to be killed. -/
  | killing
  /-- It is about to wait for the end of the process. -/
  | reaping
  /-- It is over. -/
  | done (result : Except IoError Exit)

/-- One call on a process, with its result. -/
inductive Call
  | polled (result : Except IoError (Option Exit))
  | terminated (result : Except IoError Unit)
  | looked (time : Nat)
  | killed (result : Except IoError Unit)
  | waited (result : Except IoError Exit)
  | logged (event : Log.Event)

/-- How long to wait between two questions, in milliseconds. -/
def pollInterval : Nat := 20

/-- The event of a process that does not end when it is asked to. -/
def ignoredEvent (id : InstanceId) (grace : Nat) : Log.Event :=
  ⟨.debug, supervisorTarget, "worker ignored termination request; killing",
    [("instance", .shown id.display), ("grace_ms", .number grace)]⟩

/-- The event of a process that cannot be asked to end. -/
def signalEvent (id : InstanceId) (error : IoError) : Log.Event :=
  ⟨.warn, supervisorTarget, "failed to signal worker",
    [("instance", .shown id.display), ("error", .shown error.message)]⟩

/-- The number of the error of a process that there is no longer. -/
def noSuchProcess : IoError := .system 3

/-- The events of asking a process to end: only a failure is told, and not that the process has
    ended already. -/
def terminationEvents (id : InstanceId) : Except IoError Unit → List Call
  | .ok () => []
  | .error error => if error = noSuchProcess then [] else [.logged (signalEvent id error)]

variable {σ : Type}

/-- The next call. -/
def Stopping.step (child : Child σ) (id : InstanceId) (grace : Nat) (stopping : Stopping)
    (place : σ) : Stopping × σ × List Call :=
  match stopping with
  | .checking =>
    match child.poll place with
    | (.ok (some exit), place) => (.done (.ok exit), place, [.polled (.ok (some exit))])
    | (.ok none, place) => (.terminating, place, [.polled (.ok none)])
    | (.error error, place) => (.done (.error error), place, [.polled (.error error)])
  | .terminating =>
    let (result, place) := child.terminate place
    (.granting, place, .terminated result :: terminationEvents id result)
  | .granting =>
    let (time, place) := child.now place
    (.timing (time + grace), place, [.looked time])
  | .timing deadline =>
    match child.now place with
    | (time, place) =>
      if time < deadline then (.polling deadline, place, [.looked time])
      else (.killing, place, [.looked time, .logged (ignoredEvent id grace)])
  | .polling deadline =>
    match child.poll place with
    | (.ok (some exit), place) => (.done (.ok exit), place, [.polled (.ok (some exit))])
    | (.ok none, place) => (.timing deadline, child.rest pollInterval place, [.polled (.ok none)])
    | (.error error, place) => (.done (.error error), place, [.polled (.error error)])
  | .killing =>
    match child.kill place with
    | (.ok (), place) => (.reaping, place, [.killed (.ok ())])
    | (.error error, place) =>
      if error.kind = .invalidInput then (.reaping, place, [.killed (.error error)])
      else (.done (.error error), place, [.killed (.error error)])
  | .reaping =>
    let (result, place) := child.wait place
    (.done result, place, [.waited result])
  | .done result => (.done result, place, [])

/-- A number of calls in a row. -/
def Stopping.steps (child : Child σ) (id : InstanceId) (grace : Nat) :
    (count : Nat) → Stopping → σ → Stopping × σ × List Call
  | 0, stopping, place => (stopping, place, [])
  | count + 1, stopping, place =>
    let (stopping, place, calls) := stopping.step child id grace place
    match stopping with
    | .done result => (.done result, place, calls)
    | stopping =>
      let (stopping, place, later) := steps child id grace count stopping place
      (stopping, place, calls ++ later)

/-- Stops a process, in at most `patience` calls; none where that is not enough. -/
def Child.stop (child : Child σ) (id : InstanceId) (grace patience : Nat) (place : σ) :
    Option (Except IoError Exit) × σ × List Call :=
  match Stopping.steps child id grace patience .checking place with
  | (.done result, place, calls) => (some result, place, calls)
  | (_, place, calls) => (none, place, calls)

end MountControl.Service
