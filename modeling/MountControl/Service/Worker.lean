/-
  MountControl — worker processes.

  Each volume is served by one worker process.  `Exit` is how a process
  ended, `SpawnError` why one could not be started.
-/
import MountControl.Host.IoError
import MountControl.Volume.Instance
import MountControl.Volume.Options

namespace MountControl.Service

open Host (IoError)

/-- How a worker ended. -/
inductive Exit
  /-- It exited with a status. -/
  | code (status : Int)
  /-- A signal ended it. -/
  | signal (number : Int)
  /-- The system tells neither. -/
  | unknown
  deriving DecidableEq, Repr

/-- An exit as it is displayed. -/
def Exit.display : Exit → String
  | .code status => "exit code " ++ String.ofList (Text.Numeral.signedDecimal status)
  | .signal number => "signal " ++ String.ofList (Text.Numeral.signedDecimal number)
  | .unknown => "unknown status"

/-- The exit in the system's status word: the low seven bits are zero for a process that exited,
    whose status is in the next byte, and otherwise the number of the signal; all ones are the
    mark of a process that was only stopped. -/
def Exit.ofStatusWord (word : Nat) : Exit :=
  let low := word % 128
  if low = 0 then .code (word / 256 % 256)
  else if low = 127 then .unknown
  else .signal low

/-- Why a worker could not be started: the program, and the system's error. -/
structure SpawnError where
  /-- The program to be launched. -/
  executable : String
  /-- What the system said. -/
  source : IoError
  deriving DecidableEq, Repr

/-- The text of a failed launch. -/
def SpawnError.message (error : SpawnError) : String :=
  match error.source.kind with
  | .notFound => "worker executable '" ++ error.executable ++ "' was not found"
  | .permissionDenied => "permission denied launching worker '" ++ error.executable ++ "'"
  | _ => "failed to launch worker '" ++ error.executable ++ "': " ++ error.source.message

/-- The text of a failed launch and of its cause. -/
def SpawnError.chain (error : SpawnError) : List String :=
  [error.message, error.source.message]

/-- A worker that was launched. -/
structure Worker where
  /-- How many workers were launched before it. -/
  number : Nat
  /-- Its process identifier. -/
  pid : Nat
  deriving DecidableEq, Repr

/-- What a launch comes to. -/
inductive Launch
  /-- A process of this identifier runs. -/
  | started (pid : Nat)
  /-- The process could not be started. -/
  | failed (error : SpawnError)
  /-- The launcher itself broke down. -/
  | panicked (message : String)
  deriving DecidableEq, Repr

/-- Where workers run: `σ` is the state of that place, which every call may change. -/
structure Workers (σ : Type) where
  /-- Starts the worker of a number for a volume. -/
  launch : Nat → Volume.InstanceId → Volume.Options → σ → Launch × σ
  /-- Asks whether a worker has ended. -/
  poll : Worker → σ → Except IoError (Option Exit) × σ
  /-- Stops a worker, giving it some milliseconds before it is killed. -/
  stop : Worker → Nat → σ → Except IoError Exit × σ

end MountControl.Service
