/-
  MountControl — settings before they are understood.

  A source of settings gives a `Value`: a tree of maps, lists and plain
  values.  Layers of settings are laid over each other by `Value.over`.
-/
import MountControl.Text.Shortest

namespace MountControl.Config

/-- A tree of settings. -/
inductive Value
  /-- Nothing. -/
  | null
  /-- A truth value. -/
  | bool (value : Bool)
  /-- A whole number. -/
  | integer (value : Int)
  /-- A fraction. -/
  | fraction (value : Text.Decimal)
  /-- A text. -/
  | string (value : String)
  /-- A list. -/
  | list (items : List Value)
  /-- Values by their keys. -/
  | map (entries : List (String × Value))
  deriving Repr, Inhabited

/-- A number as a value; one that cannot be held is nothing. -/
def Value.ofDecimal (d : Text.Decimal) : Value :=
  if d.isInfinite then .null else .fraction d

/-- The value of a key. -/
def Value.get? (key : String) : Value → Option Value
  | .map entries => (entries.find? (·.1 = key)).map (·.2)
  | _ => none

/-- Gives a key a value in a list of entries. -/
def putEntry (key : String) (value : Value) : List (String × Value) → List (String × Value)
  | [] => [(key, value)]
  | (name, old) :: entries =>
    if name = key then (key, value) :: entries else (name, old) :: putEntry key value entries

mutual

/-- Lays a value over another one: maps are joined, of all else the upper one counts. -/
def Value.over (upper lower : Value) : Value :=
  match upper, lower with
  | .map top, .map bottom => .map (overEntries top bottom)
  | value, _ => value
termination_by sizeOf upper

/-- Lays entries over others. -/
def overEntries (top bottom : List (String × Value)) : List (String × Value) :=
  match top with
  | [] => bottom
  | (key, value) :: entries =>
    let joined := match (bottom.find? (·.1 = key)).map (·.2) with
      | some old => value.over old
      | none => value
    overEntries entries (putEntry key joined bottom)
termination_by sizeOf top

end

/-- The value of keys within keys. -/
def Value.nested : List String → Value → Value
  | [], value => value
  | key :: keys, value => .map [(key, nested keys value)]

end MountControl.Config
