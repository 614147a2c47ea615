/-
  MountControl — the fewest digits of a fraction.

  A fraction is held with 53 binary digits.  It is written with the fewest
  decimal digits that are read back as the same fraction, and of those with
  the ones nearest to it.

  * `Decimal` is a number as it was written, `Binary` the nearest one with 53
    binary digits;
  * `Binary.shortest` finds the digits;
  * `Decimal.display` writes them: with a point where that takes at most 16
    places, with an exponent otherwise.
-/
import MountControl.Text.Numeral

namespace MountControl.Text

/-- A decimal number, `mantissa` times ten to the `exponent`. -/
structure Decimal where
  /-- Is it below zero? -/
  negative : Bool
  /-- Its digits. -/
  mantissa : Nat
  /-- The power of ten of the last digit. -/
  exponent : Int
  deriving DecidableEq, Repr, Inhabited

namespace Shortest

/-- A positive fraction with 53 binary digits: `mantissa` times two to the `exponent`. -/
structure Binary where
  /-- Its digits, fewer than 54. -/
  mantissa : Nat
  /-- The power of two of the last digit. -/
  exponent : Int
  deriving DecidableEq, Repr

/-- A number times a power of a base, as numerator and denominator. -/
def scale (n base : Nat) (power : Int) : Nat × Nat :=
  if 0 ≤ power then (n * Nat.pow base power.toNat, 1)
  else (n, Nat.pow base (-power).toNat)

/-- Is one quotient at most the other? -/
def atMost (a b : Nat × Nat) : Bool := a.1 * b.2 ≤ b.1 * a.2

/-- Is one quotient below the other? -/
def below (a b : Nat × Nat) : Bool := a.1 * b.2 < b.1 * a.2

/-- A quotient rounded to a whole number, ties to the even one. -/
def roundEven (q : Nat × Nat) : Nat :=
  let whole := q.1 / q.2
  let rest := 2 * (q.1 % q.2)
  if q.2 < rest ∨ (rest = q.2 ∧ whole % 2 = 1) then whole + 1 else whole

/-- The least exponent. -/
def leastExponent : Int := -1074

/-- The number of values a mantissa has. -/
def mantissaBound : Nat := 0x20000000000000

/-- The nearest fraction to a positive quotient. -/
def Binary.nearest (q : Nat × Nat) : Binary :=
  let guess : Int := max ((Nat.log2 q.1 : Int) - Nat.log2 q.2 - 53) leastExponent
  let divided (e : Int) : Nat × Nat :=
    let power := scale 1 2 e
    (q.1 * power.2, q.2 * power.1)
  let exponent := if atMost (mantissaBound, 1) (divided guess) then guess + 1 else guess
  let mantissa := roundEven (divided exponent)
  if mantissa = mantissaBound then ⟨mantissa / 2, exponent + 1⟩ else ⟨mantissa, exponent⟩

/-- Is the fraction too large to be held? -/
def Binary.isInfinite (b : Binary) : Bool := 971 < b.exponent

/-- Is a quotient read back as the fraction?  The bounds lie halfway to the neighbours and belong
    to a fraction with an even mantissa; below a power of two the neighbour is nearer. -/
def Binary.owns (b : Binary) (q : Nat × Nat) : Bool :=
  let step := if b.mantissa * 2 = mantissaBound ∧ leastExponent < b.exponent then 1 else 2
  let low := scale (4 * b.mantissa - step) 2 (b.exponent - 2)
  let high := scale (4 * b.mantissa + 2) 2 (b.exponent - 2)
  if b.mantissa % 2 = 0 then atMost low q && atMost q high else below low q && below q high

/-- The power of ten just above a quotient, searched upwards or downwards from a guess. -/
def magnitude (q : Nat × Nat) : (fuel : Nat) → Int → Int
  | 0, k => k
  | fuel + 1, k =>
    if atMost (scale 1 10 k) q then magnitude q fuel (k + 1)
    else if below q (scale 1 10 (k - 1)) then magnitude q fuel (k - 1)
    else k

/-- The digits on a decimal grid that are read back as the fraction, if there are any. -/
def Binary.onGrid (b : Binary) (power : Int) : Option Nat :=
  let value := scale b.mantissa 2 b.exponent
  let unit := scale 1 10 power
  let floor := (value.1 * unit.2) / (value.2 * unit.1)
  let first := b.owns (scale floor 10 power) && 0 < floor
  let second := b.owns (scale (floor + 1) 10 power)
  if first && second then
    let rest := (value.1 * unit.2) % (value.2 * unit.1)
    some (if 2 * rest ≤ value.2 * unit.1 then floor else floor + 1)
  else if first then some floor
  else if second then some (floor + 1)
  else none

/-- The fewest digits of a fraction, and the power of ten of the last one. -/
def Binary.shortest (b : Binary) : Nat × Int :=
  let value := scale b.mantissa 2 b.exponent
  let k := magnitude value 700 ((b.exponent + Nat.log2 b.mantissa) * 3 / 10)
  let grids := (List.range 18).map fun (n : Nat) => k - n - 1
  (grids.findSome? fun power => (b.onGrid power).map fun digits => (digits, power)).getD (0, 0)

/-- A number without zeros at its end, and how many there were. -/
def trimZeros : (fuel : Nat) → (n : Nat) → (power : Int) → Nat × Int
  | 0, n, power => (n, power)
  | fuel + 1, n, power =>
    if n % 10 = 0 ∧ n ≠ 0 then trimZeros fuel (n / 10) (power + 1) else (n, power)

/-- Digits with the power of ten of the last one as text. -/
def layout (digits : List Char) (power : Int) : List Char :=
  let point := digits.length + power
  if 0 ≤ power ∧ point ≤ 16 then digits ++ List.replicate power.toNat '0' ++ ['.', '0']
  else if 0 < point ∧ point ≤ 16 then
    digits.take point.toNat ++ '.' :: digits.drop point.toNat
  else if -5 < point ∧ point ≤ 0 then
    ['0', '.'] ++ List.replicate (-point).toNat '0' ++ digits
  else
    let tail := digits.drop 1
    digits.take 1 ++ (if tail.isEmpty then [] else '.' :: tail)
      ++ 'e' :: Numeral.signedDecimal (point - 1)

end Shortest

open Shortest

/-- A positive decimal number as a quotient. -/
def Decimal.quotient (d : Decimal) : Nat × Nat := scale d.mantissa 10 d.exponent

/-- How many places in front of the point a number has; below zero, how many zeros follow it. -/
def Decimal.places (d : Decimal) : Int := (Numeral.decimal d.mantissa).length + d.exponent

/-- From so many places on, a number is too large to be held, or too small to be told from
    zero. -/
def maxPlaces : Int := 400

/-- Is the number too large to be held as a fraction? -/
def Decimal.isInfinite (d : Decimal) : Bool :=
  d.mantissa ≠ 0 && -maxPlaces < d.places
    && (maxPlaces < d.places || (Binary.nearest d.quotient).isInfinite)

/-- The fraction as which a number is held that is not too large. -/
def Decimal.held (d : Decimal) : Binary :=
  if d.mantissa = 0 ∨ d.places ≤ -maxPlaces then ⟨0, 0⟩ else Binary.nearest d.quotient

/-- The number as the fraction that it is held as. -/
def Decimal.display (d : Decimal) : List Char :=
  let sign := if d.negative then ['-'] else []
  if d.held.mantissa = 0 then sign ++ ['0', '.', '0']
  else
    let (digits, power) := d.held.shortest
    let (digits, power) := trimZeros 20 digits power
    sign ++ layout (Numeral.decimal digits) power

end MountControl.Text
