/-
  MountControl — the service's log.

  The log is set up once in the life of a process, by the first settings
  whose filter can be read; later settings do not change it.
-/
import MountControl.Config.Settings
import MountControl.Log.Filter
import MountControl.Log.Line

namespace MountControl.Service

open Config (LogFormat Settings)

/-- A log that is set up. -/
structure Telemetry where
  /-- The filter as it was written. -/
  filter : String
  /-- The form of its lines. -/
  format : LogFormat
  /-- The filter. -/
  rules : Log.Filter
  deriving DecidableEq, Repr

/-- Why a log cannot be set up. -/
inductive TelemetryError
  /-- The filter cannot be read. -/
  | filter (directives message : String)
  /-- Somebody else has set up a log. -/
  | subscriber (message : String)
  deriving DecidableEq, Repr

/-- The text of a failure. -/
def TelemetryError.message : TelemetryError → String
  | .filter directives message => "invalid log filter '" ++ directives ++ "': " ++ message
  | .subscriber message => "failed to install telemetry subscriber: " ++ message

/-- An event of the log itself. -/
def telemetryEvent (message : String) (fields : List (String × Log.Value)) : Log.Event :=
  ⟨.debug, "btrmountd::telemetry", message, fields⟩

/-- Sets up a log. -/
def Telemetry.install (settings : Settings) : Except TelemetryError Telemetry :=
  match Log.Filter.parse settings.logFilter with
  | .error error => .error (.filter settings.logFilter error.message)
  | .ok rules => .ok ⟨settings.logFilter, settings.logFormat, rules⟩

/-- The event that tells that a log was set up. -/
def Telemetry.installed (telemetry : Telemetry) : Log.Event :=
  telemetryEvent "telemetry installed"
    [("filter", .text telemetry.filter), ("format", .shown telemetry.format.name)]

/-- Is the log the one that the settings ask for? -/
def Telemetry.suits (telemetry : Telemetry) (settings : Settings) : Bool :=
  telemetry.filter = settings.logFilter && telemetry.format = settings.logFormat

/-- The event that tells that a log is not the one that the settings ask for. -/
def Telemetry.kept (telemetry : Telemetry) (settings : Settings) : Log.Event :=
  telemetryEvent "telemetry already installed; keeping the first configuration"
    [("installed_filter", .text telemetry.filter), ("requested_filter", .text settings.logFilter),
     ("installed_format", .shown telemetry.format.name),
     ("requested_format", .shown settings.logFormat.name)]

/-- The line of an event, if the event is logged. -/
def Telemetry.line? (telemetry : Telemetry) (time thread : String) (event : Log.Event) :
    Option String :=
  if telemetry.rules.admits event then
    match telemetry.format with
    | .json => some (event.object time thread)
    | .compact => some (event.compact time thread)
  else none

end MountControl.Service
