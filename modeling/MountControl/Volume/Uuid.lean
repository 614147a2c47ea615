/-
  MountControl — filesystem identifiers.

  A filesystem is named by 128 bits.  They are displayed as 32 hexadecimal
  digits in groups of 8, 4, 4, 4 and 12, and read in four forms: grouped,
  grouped in braces, grouped after `urn:uuid:`, or the digits alone.
-/
import MountControl.Text.Numeral

namespace MountControl.Volume

/-- The identifier of a filesystem. -/
structure Uuid where
  /-- The identifier as a number. -/
  value : BitVec 128
  deriving DecidableEq, Repr

/-- The sizes of the groups of digits. -/
def Uuid.groups : List Nat := [8, 4, 4, 4, 12]

/-- Writes hyphens between groups of the given sizes. -/
def Uuid.hyphenate : (sizes : List Nat) → List Char → List Char
  | [], _ => []
  | [size], digits => digits.take size
  | size :: sizes, digits => digits.take size ++ '-' :: hyphenate sizes (digits.drop size)

/-- Takes the hyphens between groups of the given sizes out again. -/
def Uuid.dehyphenate? : (sizes : List Nat) → List Char → Option (List Char)
  | [], _ => none
  | [size], text => if text.length = size then some text else none
  | size :: sizes, text =>
    match text.drop size with
    | '-' :: rest => (dehyphenate? sizes rest).map (text.take size ++ ·)
    | _ => none

/-- The grouped digits of an identifier. -/
def Uuid.chars (id : Uuid) : List Char :=
  hyphenate groups (Text.Numeral.padded 16 32 id.value.toNat)

/-- The identifier as it is displayed. -/
def Uuid.display (id : Uuid) : String := String.ofList id.chars

/-- Reads 32 hexadecimal digits. -/
def Uuid.ofDigits? (digits : List Char) : Option Uuid :=
  if digits.length = 32 then
    (Text.Numeral.value? 16 digits).map fun n => ⟨BitVec.ofNat 128 n⟩
  else none

/-- Reads grouped digits. -/
def Uuid.ofGrouped? (text : List Char) : Option Uuid :=
  (dehyphenate? groups text).bind ofDigits?

/-- The text between braces. -/
def Uuid.unbrace? (text : List Char) : Option (List Char) :=
  match text, text.getLast? with
  | '\x7b' :: rest, some '\x7d' => some rest.dropLast
  | _, _ => none

/-- The text after `urn:uuid:`, whose letters may be of either case. -/
def Uuid.afterUrn? (text : List Char) : Option (List Char) :=
  let urn := "urn:uuid:".toList
  if (text.take urn.length).map Char.toLower = urn then some (text.drop urn.length) else none

/-- Reads any of the four forms, told apart by their lengths. -/
def Uuid.parse? (text : List Char) : Option Uuid :=
  match text.length with
  | 32 => ofDigits? text
  | 36 => ofGrouped? text
  | 38 => (unbrace? text).bind ofGrouped?
  | 45 => (afterUrn? text).bind ofGrouped?
  | _ => none

end MountControl.Volume
