/-
  MountControl — preparing the service.

  Before the service listens, it loads its settings, sets up its log, makes
  sure that it knows which program to launch, and prepares the directory of
  its socket, in this order.  The first stage that fails ends it.  `Note` is
  what happens on the way.
-/
import MountControl.Config.Load
import MountControl.Config.Preparation
import MountControl.Service.Health
import MountControl.Service.Telemetry
import MountControl.Text.Blank

namespace MountControl.Service

open Config (LoadError PreparationError Settings)
open Host (FileTree Place)

/-- Why the service cannot be prepared. -/
inductive BootstrapError
  /-- Its settings cannot be loaded. -/
  | configuration (source : LoadError)
  /-- Its log cannot be set up. -/
  | telemetry (source : TelemetryError)
  /-- It does not know which program to launch. -/
  | missingWorkerBinary
  /-- The directory of its socket cannot be prepared. -/
  | socket (source : PreparationError)
  deriving Repr

/-- The text of a failure. -/
def BootstrapError.message : BootstrapError → String
  | .configuration source => "failed to load configuration: " ++ source.message
  | .telemetry source => "failed to initialise telemetry: " ++ source.message
  | .missingWorkerBinary => "no worker binary is configured"
  | .socket source => "failed to prepare control socket: " ++ source.message

/-- The texts of a failure and of its causes. -/
def BootstrapError.chain (error : BootstrapError) : List String :=
  error.message :: match error with
    | .configuration source => [source.message]
    | .telemetry source => [source.message]
    | .missingWorkerBinary => []
    | .socket source => source.chain

/-- What happens while the service is prepared. -/
inductive Note
  /-- A report was made. -/
  | reported (health : Health)
  /-- A log was set up. -/
  | installed (telemetry : Telemetry)
  /-- A log event was written. -/
  | logged (event : Log.Event)

/-- What a process has before the service is prepared in it. -/
structure Ground where
  /-- The files. -/
  files : FileTree
  /-- The directory from which relative paths start. -/
  cwd : Place
  /-- The log, if one was set up. -/
  telemetry : Option Telemetry := none

/-- The settings and the log of a prepared service. -/
structure Prepared where
  /-- The settings. -/
  settings : Settings
  /-- The log. -/
  telemetry : Telemetry
  deriving DecidableEq, Repr

/-- The log for the settings: the one that there is, or else a new one. -/
def Ground.log (ground : Ground) (settings : Settings) :
    Except TelemetryError Telemetry × List Note :=
  match ground.telemetry with
  | some telemetry =>
    (.ok telemetry,
      if telemetry.suits settings then [] else [.logged (telemetry.kept settings)])
  | none =>
    match Telemetry.install settings with
    | .error error => (.error error, [])
    | .ok telemetry => (.ok telemetry, [.installed telemetry, .logged telemetry.installed])

/-- The stages after the settings are loaded. -/
def Ground.prepare (ground : Ground) (settings : Settings) :
    Except BootstrapError Prepared × Ground × List Note :=
  match ground.log settings with
  | (.error error, notes) => (.error (.telemetry error), ground, notes)
  | (.ok telemetry, notes) =>
    let ground := { ground with telemetry := some telemetry }
    if (Text.trim settings.workerBinary.toList).isEmpty then
      (.error .missingWorkerBinary, ground, notes)
    else
      match settings.socket.prepare ground.cwd ground.files with
      | (.error error, files) => (.error (.socket error), { ground with files }, notes)
      | (.ok (), files) => (.ok ⟨settings, telemetry⟩, { ground with files }, notes)

/-- Prepares the service with what loading its settings gave. -/
def Ground.bootstrap (ground : Ground) (loaded : Except LoadError Settings) :
    Except BootstrapError Prepared × Ground × List Note :=
  let first := Note.reported .bootstrapStarting
  match loaded with
  | .error error =>
    let error := BootstrapError.configuration error
    (.error error, ground, [first, .reported (.bootstrapFailed error.message)])
  | .ok settings =>
    match ground.prepare settings with
    | (.error error, ground, notes) =>
      (.error error, ground, first :: notes ++ [.reported (.bootstrapFailed error.message)])
    | (.ok prepared, ground, notes) =>
      (.ok prepared, ground,
        first :: notes ++ [.reported (.bootstrapSucceeded prepared.settings)])

/-- The reports that were made. -/
def reports (notes : List Note) : List Health :=
  notes.filterMap fun
    | .reported health => some health
    | _ => none

/-- The lines that are written to the log, which is set up on the way or was so before.  Reports
    are written only where the service reports to its log. -/
def logLines (time thread : String) (reports : Bool) :
    Option Telemetry → List Note → List String
  | _, [] => []
  | _, .installed telemetry :: notes => logLines time thread reports (some telemetry) notes
  | telemetry, .logged event :: notes =>
    (telemetry.bind (·.line? time thread event)).toList
      ++ logLines time thread reports telemetry notes
  | telemetry, .reported health :: notes =>
    (if reports then (telemetry.bind (·.line? time thread health.event)).toList else [])
      ++ logLines time thread reports telemetry notes

end MountControl.Service
