/-
  MountControl — numbers as digits.

  * `digits base n` is the shortest spelling of `n`, `padded base width n`
    the one of a fixed width;
  * `value? base` reads digits back;
  * `unsigned?` is the decimal syntax of every number field: an optional
    plus sign, at least one digit, and a value below a bound.
-/

namespace MountControl.Text.Numeral

/-- The shortest spelling of a number in a base of at least two. -/
def digits (base n : Nat) : List Char :=
  if _h : 2 ≤ base ∧ base ≤ n then digits base (n / base) ++ [Nat.digitChar (n % base)]
  else [Nat.digitChar n]
termination_by n
decreasing_by exact Nat.div_lt_self (by omega) (by omega)

/-- The last `width` digits of a number, with leading zeros. -/
def padded (base : Nat) : (width n : Nat) → List Char
  | 0, _ => []
  | width + 1, n => padded base width (n / base) ++ [Nat.digitChar (n % base)]

/-- The value of a digit of either case. -/
def digitValue? (c : Char) : Option Nat :=
  if '0' ≤ c ∧ c ≤ '9' then some (c.toNat - '0'.toNat)
  else if 'a' ≤ c ∧ c ≤ 'f' then some (c.toNat - 'a'.toNat + 10)
  else if 'A' ≤ c ∧ c ≤ 'F' then some (c.toNat - 'A'.toNat + 10)
  else none

/-- The digit's value, if it is a digit of the base. -/
def digitIn? (base : Nat) (c : Char) : Option Nat :=
  (digitValue? c).filter (· < base)

/-- The number that the digits continue from `value`; none where a character is no digit. -/
def continue? (base : Nat) : (value : Nat) → List Char → Option Nat
  | value, [] => some value
  | value, c :: rest =>
    match digitIn? base c with
    | some d => continue? base (value * base + d) rest
    | none => none

/-- The number spelled by at least one digit of the base. -/
def value? (base : Nat) (text : List Char) : Option Nat :=
  if text.isEmpty then none else continue? base 0 text

/-- An unsigned decimal number below `bound`, with an optional plus sign. -/
def unsigned? (bound : Nat) (text : List Char) : Option Nat :=
  let bare := match text with
    | '+' :: rest => rest
    | _ => text
  (value? 10 bare).filter (· < bound)

/-- The decimal spelling of a number. -/
def decimal (n : Nat) : List Char := digits 10 n

/-- The decimal spelling of a number as a string. -/
def decimalString (n : Nat) : String := String.ofList (decimal n)

/-- The decimal spelling of a signed number. -/
def signedDecimal : Int → List Char
  | .ofNat n => decimal n
  | .negSucc n => '-' :: decimal (n + 1)

end MountControl.Text.Numeral
