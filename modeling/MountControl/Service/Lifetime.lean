/-
  MountControl — the life of the service.

  After the service is prepared and listens, two threads run.  The listener
  takes its turns; the main thread announces the socket, waits for the end,
  tells the listener to stop, waits until it has, and then stops all workers
  that are left.  `Closing` is how far the main thread has come; a `Move` is
  one step of either thread, and any sequence of moves is a run.
-/
import MountControl.Service.Bootstrap
import MountControl.Service.Exchange
import MountControl.Service.Listener

namespace MountControl.Service

open Config (Endpoint Settings)
open Host (IoError)

/-! ## Failures -/

/-- Why waiting for the end fails. -/
inductive ShutdownError
  /-- Signals cannot be received. -/
  | install (source : IoError)
  /-- Somebody broke down while waiting. -/
  | poisoned
  deriving DecidableEq, Repr

/-- The text of a failure. -/
def ShutdownError.message : ShutdownError → String
  | .install source => "failed to install signal handlers: " ++ source.message
  | .poisoned => "shutdown signal state poisoned"

/-- The texts of a failure and of its cause. -/
def ShutdownError.chain (error : ShutdownError) : List String :=
  match error with
  | .install source => [error.message, source.message]
  | .poisoned => [error.message]

/-- Why the service did not run, or did not end well. -/
inductive LaunchError
  /-- Waiting for the end failed. -/
  | shutdown (source : ShutdownError)
  /-- It could not be prepared. -/
  | bootstrap (source : BootstrapError)
  /-- It could not listen, or no longer. -/
  | listener (source : ListenerError)
  deriving Repr

/-- The text of a failure. -/
def LaunchError.message : LaunchError → String
  | .shutdown source => "failed to await shutdown signal: " ++ source.message
  | .bootstrap source => "service bootstrap failed: " ++ source.message
  | .listener source => "control socket listener failed: " ++ source.message

/-- The texts of a failure and of its causes. -/
def LaunchError.chain (error : LaunchError) : List String :=
  error.message :: match error with
    | .shutdown source => source.chain
    | .bootstrap source => source.chain
    | .listener source => source.chain

/-- The exit status of a service that failed: one of its own for a fault while it ran. -/
def LaunchError.exitCode : LaunchError → UInt8
  | .listener source => if source.isInternalFault then 2 else 1
  | _ => 1

/-! ## Two threads -/

/-- How far the main thread has come. -/
inductive Closing
  /-- It is about to announce the socket. -/
  | starting
  /-- It waits for a signal, or for a fault of the listener. -/
  | waiting
  /-- Waiting is over. -/
  | woken
  /-- It has announced the end. -/
  | announced
  /-- It has told the listener to stop and waits until it has. -/
  | told
  /-- The listener has stopped. -/
  | joined
  /-- It has emptied the registry, of `count` entries, and some are left to be stopped. -/
  | stopping (left : List Entry) (count : Nat)
  /-- It is over. -/
  | over
  deriving DecidableEq, Repr

/-- A service that runs. -/
structure Running (σ : Type) where
  /-- The listener. -/
  loop : Loop Connection (Shared σ)
  /-- Was the listener told to stop? -/
  flag : Bool := false
  /-- How far the main thread has come. -/
  closing : Closing := .starting
  /-- How waiting has ended. -/
  waited : Except ShutdownError Unit := .ok ()

/-- What does not change while the service runs. -/
structure Plan (σ : Type) where
  /-- Where it listens. -/
  endpoint : Endpoint
  /-- What it dispatches with. -/
  dispatcher : Dispatcher σ

/-- The plan for some settings. -/
def Plan.of (settings : Settings) (workers : Workers σ) (ids : IdSource) (patience : Nat) :
    Plan σ where
  endpoint := settings.socket
  dispatcher := ⟨workers, ids, patience, settings.workerStopTimeout.toNat⟩

/-- One step of a thread. -/
inductive Move
  /-- The listener takes a turn; `accepted` is what accepting would give. -/
  | listener (accepted : Accepted Connection)
  /-- Waiting ends, by a signal or by a failure. -/
  | wake (waited : Except ShutdownError Unit)
  /-- The main thread goes on. -/
  | main

variable {σ : Type}

/-- The service when its listener has just been started. -/
def Running.start (plan : Plan σ) (place : σ) : Running σ where
  loop := .start plan.endpoint ⟨{ place }, false⟩

/-- Changes what the lock guards. -/
def Running.mapStage (running : Running σ) (change : Stage σ → Stage σ) : Running σ :=
  let shared := running.loop.state
  { running with loop :=
    { running.loop with state := { shared with stage := change shared.stage } } }

/-- Handles a connection. -/
def Plan.handle (plan : Plan σ) (connection : Connection) (shared : Shared σ) :
    Handled × Shared σ :=
  let (handled, _, shared) := shared.exchange plan.dispatcher connection
  (handled, shared)

/-- The next step of the main thread.  It waits on while nothing has woken it, and until the
    listener has stopped. -/
def Running.advance (plan : Plan σ) (running : Running σ) : Running σ :=
  match running.closing with
  | .starting =>
    { running with closing := .waiting }.mapStage (·.report (.listenerReady plan.endpoint))
  | .waiting => if running.loop.hooked then { running with closing := .woken } else running
  | .woken => { running with closing := .announced }.mapStage (·.report .shutdownStarted)
  | .announced => { running with closing := .told, flag := true }
  | .told =>
    if running.loop.ended.any (· ≠ .stuck) then { running with closing := .joined } else running
  | .joined =>
    let (entries, shared) := running.loop.state.drain
    { running with
      closing := .stopping entries entries.length
      loop := { running.loop with state := shared } }
  | .stopping (entry :: left) count =>
    { running with closing := .stopping left count }.mapStage
      (·.stopLast plan.dispatcher.workers plan.dispatcher.stopTimeout entry)
  | .stopping [] count =>
    { running with closing := .over }.mapStage (·.report (.shutdownCompleted count))
  | .over => running

/-- One move.  A signal counts only while the main thread waits. -/
def Running.step (plan : Plan σ) (running : Running σ) : Move → Running σ
  | .listener accepted =>
    { running with
      loop := running.loop.turn plan.endpoint plan.handle running.flag accepted }
  | .wake waited =>
    if running.closing = .waiting then { running with closing := .woken, waited } else running
  | .main => running.advance plan

/-- A sequence of moves. -/
def Running.run (plan : Plan σ) (moves : List Move) (running : Running σ) : Running σ :=
  moves.foldl (·.step plan) running

/-- The listener handles one connection: the bytes that are written to it, and the service after
    it. -/
def Running.visit (plan : Plan σ) (running : Running σ) (connection : Connection) :
    List UInt8 × Running σ :=
  ((running.loop.state.exchange plan.dispatcher connection).2.1,
    running.step plan (.listener (.connection connection)))

/-- Waiting ends; the listener takes one more turn when it was told to stop, and all workers are
    stopped. -/
def Running.finish (plan : Plan σ) (running : Running σ)
    (waited : Except ShutdownError Unit) : Running σ :=
  let entries := running.loop.state.stage.registry.entries.length
  running.run plan
    (.wake waited :: List.replicate 3 .main ++ .listener .nobody
      :: List.replicate (entries + 4) .main)

/-- The result of a service that is over. -/
def Running.result? (running : Running σ) : Option (Except LaunchError Unit) :=
  match running.closing, running.waited, running.loop.ended with
  | .over, .error error, _ => some (.error (.shutdown error))
  | .over, .ok (), some ended =>
    match ended.joined with
    | .error error => some (.error (.listener error))
    | .ok () => some (.ok ())
  | _, _, _ => none

/-- The volumes for which the launcher was called, the earliest first. -/
def Stage.called (stage : Stage σ) : List Volume.InstanceId :=
  stage.trace.filterMap fun
    | .launched id _ _ => some id
    | _ => none

/-- What the service has reported, the earliest first. -/
def Stage.reports (stage : Stage σ) : List Health :=
  stage.trace.filterMap fun
    | .reported health => some health
    | _ => none

end MountControl.Service
