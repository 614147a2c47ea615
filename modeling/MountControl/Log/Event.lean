/-
  MountControl — log events.

  A log event has a level, the component that writes it, a message and
  further fields in a fixed order.  Functions that log return their events;
  writing them out is left to the outermost layer.
-/
import MountControl.Text.Numeral

namespace MountControl.Log

/-- How severe an event is, the most severe first. -/
inductive Level
  | error
  | warn
  | info
  | debug
  | trace
  deriving DecidableEq, Repr

/-- The rank of a level; a more severe level has the lower one. -/
def Level.rank : Level → Nat
  | .error => 1
  | .warn => 2
  | .info => 3
  | .debug => 4
  | .trace => 5

/-- The name under which a level is shown. -/
def Level.name : Level → String
  | .error => "ERROR"
  | .warn => "WARN"
  | .info => "INFO"
  | .debug => "DEBUG"
  | .trace => "TRACE"

/-- The value of a field.  Formats that quote texts quote `text` only. -/
inductive Value
  /-- A text of the program's own. -/
  | text (value : String)
  /-- A value by the way it is displayed. -/
  | shown (value : String)
  /-- A count or another number. -/
  | number (value : Nat)
  /-- A truth value. -/
  | flag (value : Bool)
  deriving DecidableEq, Repr

/-- The bare text of a value. -/
def Value.plain : Value → String
  | .text value => value
  | .shown value => value
  | .number value => Text.Numeral.decimalString value
  | .flag true => "true"
  | .flag false => "false"

/-- One event. -/
structure Event where
  /-- How severe it is. -/
  level : Level
  /-- The component that writes it. -/
  target : String
  /-- What happened. -/
  message : String
  /-- Details, each with its name. -/
  fields : List (String × Value)
  deriving DecidableEq, Repr

/-- Is the event at the given level or a more severe one? -/
def Event.reaches (event : Event) (level : Level) : Bool :=
  event.level.rank ≤ level.rank

end MountControl.Log
