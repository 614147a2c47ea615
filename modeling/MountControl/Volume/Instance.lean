/-
  MountControl — instance identifiers.

  A volume is named by a 64-bit number for as long as its worker lives.  It
  is displayed as sixteen hexadecimal digits and read from one to sixteen
  digits of either case.
-/
import MountControl.Text.Numeral

namespace MountControl.Volume

/-- The identifier of one volume. -/
structure InstanceId where
  /-- The identifier as a number. -/
  value : UInt64
  deriving DecidableEq, Repr

/-- Sixteen lower-case hexadecimal digits. -/
def InstanceId.chars (id : InstanceId) : List Char :=
  Text.Numeral.padded 16 16 id.value.toNat

/-- The identifier as it is displayed. -/
def InstanceId.display (id : InstanceId) : String :=
  String.ofList id.chars

/-- Reads one to sixteen hexadecimal digits. -/
def InstanceId.parse? (text : List Char) : Option InstanceId :=
  if text.length ≤ 16 then
    (Text.Numeral.value? 16 text).map fun n => ⟨UInt64.ofNat n⟩
  else none

/-- What is said of a text that is no identifier. -/
def InstanceId.parseError (text : String) : String :=
  s!"invalid instance identifier '{text}'"

end MountControl.Volume
