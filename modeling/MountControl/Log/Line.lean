/-
  MountControl — log events as lines.

  A line has the time, the level, the component, the thread, the message and
  the fields of an event: as an object, or as text for people.
-/
import MountControl.Log.Event
import MountControl.Text.Quoted

namespace MountControl.Log

/-! ## Lines that are objects -/

/-- A character within the quotes of an object's text. -/
def escapeMember (c : Char) : List Char :=
  match c with
  | '"' => ['\\', '"']
  | '\\' => ['\\', '\\']
  | '\n' => ['\\', 'n']
  | '\r' => ['\\', 'r']
  | '\t' => ['\\', 't']
  | '\x08' => ['\\', 'b']
  | '\x0c' => ['\\', 'f']
  | _ => if c.toNat < 0x20 then ['\\', 'u'] ++ Text.Numeral.padded 16 4 c.toNat else [c]

/-- A text as part of an object. -/
def member (text : String) : String :=
  String.ofList ('"' :: text.toList.flatMap escapeMember ++ ['"'])

/-- A value as part of an object: numbers and truth values stand without quotes. -/
def Value.member : Value → String
  | .text value => Log.member value
  | .shown value => Log.member value
  | .number value => Text.Numeral.decimalString value
  | .flag true => "true"
  | .flag false => "false"

/-- An event as an object. -/
def Event.object (event : Event) (time thread : String) : String :=
  let members := [("timestamp", Log.member time), ("level", Log.member event.level.name),
      ("message", Log.member event.message)]
    ++ event.fields.map (fun (name, value) => (name, value.member))
    ++ [("target", Log.member event.target), ("threadName", Log.member thread)]
  "\x7b" ++ ",".intercalate (members.map fun (name, value) => Log.member name ++ ":" ++ value)
    ++ "\x7d"

/-! ## Lines for people -/

/-- A value for people: a text of the program's own is quoted. -/
def Value.plainQuoted : Value → String
  | .text value => Text.Quoted.quoteString value
  | value => value.plain

/-- The name of a level, filled up to five places on the left. -/
def Level.aligned (level : Level) : String :=
  "".pushn ' ' (5 - level.name.length) ++ level.name

/-- An event as text for people. -/
def Event.compact (event : Event) (time thread : String) : String :=
  time ++ " " ++ event.level.aligned ++ " " ++ thread ++ " " ++ event.target ++ ": "
    ++ " ".intercalate (event.message :: event.fields.map fun (name, value) =>
      name ++ "=" ++ value.plainQuoted)

end MountControl.Log
