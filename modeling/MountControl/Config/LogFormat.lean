/-
  MountControl — the form of the service's log.
-/

namespace MountControl.Config

/-- How log events are written. -/
inductive LogFormat
  /-- Each event is an object on a line of its own. -/
  | json
  /-- Each event is a line for people. -/
  | compact
  deriving DecidableEq, Repr

/-- The spelling of a format. -/
def LogFormat.name : LogFormat → String
  | .json => "json"
  | .compact => "compact"

/-- The capitalised name of a format, as the log shows it. -/
def LogFormat.title : LogFormat → String
  | .json => "Json"
  | .compact => "Compact"

/-- The formats. -/
def LogFormat.all : List LogFormat := [.json, .compact]

/-- Reads a spelling in letters of any case. -/
def LogFormat.parse? (text : List Char) : Option LogFormat :=
  all.find? fun format => text.map Char.toLower = format.name.toList

/-- What is said of a text that is no format. -/
def LogFormat.parseError : String := "Matching variant not found"

end MountControl.Config
