/-
  MountControl — events in the life of the service.

  The service reports how it starts, how its workers come and go, and how it
  ends.  `Health.event` is the log event of a report.
-/
import MountControl.Config.Settings
import MountControl.Log.Event
import MountControl.Service.Worker

namespace MountControl.Service

open Volume (InstanceId)

/-- One report. -/
inductive Health
  /-- Before the settings are loaded. -/
  | bootstrapStarting
  /-- The service is prepared. -/
  | bootstrapSucceeded (settings : Config.Settings)
  /-- The service could not be prepared; the text says why. -/
  | bootstrapFailed (message : String)
  /-- The control socket accepts connections. -/
  | listenerReady (endpoint : Config.Endpoint)
  /-- A worker runs for a new volume. -/
  | workerStarted (id : InstanceId) (pid : Nat)
  /-- A worker could not be started. -/
  | workerFailed (error : SpawnError)
  /-- A worker was found to have ended, or was stopped. -/
  | workerExited (id : InstanceId) (exit : Exit)
  /-- The service begins to stop. -/
  | shutdownStarted
  /-- The service has stopped; so many workers were left to stop. -/
  | shutdownCompleted (stopped : Nat)
  deriving DecidableEq, Repr

/-- The name of a report. -/
def Health.name : Health → String
  | .bootstrapStarting => "bootstrap_starting"
  | .bootstrapSucceeded _ => "bootstrap_succeeded"
  | .bootstrapFailed _ => "bootstrap_failed"
  | .listenerReady _ => "listener_ready"
  | .workerStarted .. => "worker_started"
  | .workerFailed _ => "worker_failed"
  | .workerExited .. => "worker_exited"
  | .shutdownStarted => "shutdown_started"
  | .shutdownCompleted _ => "shutdown_completed"

/-- The text of a report. -/
def Health.message : Health → String
  | .bootstrapStarting => "starting service bootstrap"
  | .bootstrapSucceeded _ => "service bootstrap completed"
  | .bootstrapFailed _ => "service bootstrap failed"
  | .listenerReady _ => "control socket ready"
  | .workerStarted .. => "worker started"
  | .workerFailed _ => "worker failed to start"
  | .workerExited .. => "worker exited"
  | .shutdownStarted => "shutdown requested"
  | .shutdownCompleted _ => "shutdown sequence completed"

/-- The details of a report. -/
def Health.details : Health → List (String × Log.Value)
  | .bootstrapStarting => []
  | .bootstrapSucceeded settings =>
    [("socket", .shown settings.socket.display), ("log_filter", .shown settings.logFilter),
     ("log_format", .shown settings.logFormat.title),
     ("worker_binary", .shown settings.workerBinary)]
  | .bootstrapFailed message => [("error", .shown message)]
  | .listenerReady endpoint => [("endpoint", .shown endpoint.display)]
  | .workerStarted id pid => [("instance", .shown id.display), ("pid", .number pid)]
  | .workerFailed error => [("executable", .text error.executable), ("error", .shown error.message)]
  | .workerExited id exit => [("instance", .shown id.display), ("exit", .shown exit.display)]
  | .shutdownStarted => []
  | .shutdownCompleted stopped => [("stopped_workers", .number stopped)]

/-- How severe a report is. -/
def Health.level : Health → Log.Level
  | .bootstrapFailed _ => .error
  | .workerFailed _ => .error
  | _ => .info

/-- The log event of a report. -/
def Health.event (health : Health) : Log.Event where
  level := health.level
  target := "btrmountd::health"
  message := health.message
  fields := ("event", .text health.name) :: health.details

end MountControl.Service
