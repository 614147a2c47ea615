/-
  MountControl — IPv6 addresses.

  An address is eight numbers of 16 bits.  As text they are hexadecimal and
  stand between colons; one run of zeros may be left out (`::`), and the last
  two numbers may be written as four octets.
-/
import MountControl.Text.Numeral
import MountControl.Text.Split

namespace MountControl.Net.Ipv6

/-! ## Reading -/

/-- An octet without leading zeros. -/
def octet? (text : List Char) : Option Nat :=
  match Text.Numeral.value? 10 text with
  | some n => if n < 256 ∧ text = Text.Numeral.decimal n then some n else none
  | none => none

/-- The two numbers that four octets make. -/
def octets? (text : List Char) : Option (List Nat) :=
  match (Text.fields '.' text).mapM octet? with
  | some [a, b, c, d] => some [a * 256 + b, c * 256 + d]
  | _ => none

/-- One to four hexadecimal digits. -/
def piece? (text : List Char) : Option Nat :=
  if text.length ≤ 4 then Text.Numeral.value? 16 text else none

/-- Numbers between colons, the last of them perhaps as octets. -/
def pieces? : List (List Char) → Option (List Nat)
  | [] => some []
  | [last] => if '.' ∈ last then octets? last else (piece? last).map fun n => [n]
  | first :: rest => do
    let n ← piece? first
    let more ← pieces? rest
    some (n :: more)

/-- Numbers between colons; none for an empty text. -/
def group? (text : List Char) : Option (List Nat) :=
  if text.isEmpty then some [] else pieces? (Text.fields ':' text)

/-- The texts before and after the first `::`. -/
def cutGap : List Char → Option (List Char × List Char)
  | ':' :: ':' :: rest => some ([], rest)
  | c :: rest => (cutGap rest).map fun (front, back) => (c :: front, back)
  | [] => none

/-- The eight numbers of an address. -/
def parse? (text : List Char) : Option (List Nat) :=
  match cutGap text with
  | none => (group? text).filter fun numbers => numbers.length = 8
  | some (front, back) => do
    if '.' ∈ front then none
    let high ← group? front
    let low ← group? back
    if high.length + low.length ≤ 7 then
      some (high ++ List.replicate (8 - high.length - low.length) 0 ++ low)
    else none

/-! ## Writing -/

/-- The number of zeros at the front. -/
def zeros (numbers : List Nat) : Nat := (numbers.takeWhile (· = 0)).length

/-- The first longest run of at least two zeros: its place and length. -/
def longestGap (numbers : List Nat) : Option (Nat × Nat) :=
  let runs := (List.range numbers.length).map fun i => (i, zeros (numbers.drop i))
  runs.foldl (fun best (i, n) =>
    match best with
    | none => if 2 ≤ n then some (i, n) else none
    | some (_, m) => if m < n then some (i, n) else best) none

/-- Numbers between colons. -/
def writeGroup (numbers : List Nat) : List Char :=
  [':'].intercalate (numbers.map (Text.Numeral.digits 16))

/-- The shortest text of an address. -/
def write (numbers : List Nat) : List Char :=
  match longestGap numbers with
  | none => writeGroup numbers
  | some (i, n) =>
    writeGroup (numbers.take i) ++ [':', ':'] ++ writeGroup (numbers.drop (i + n))

end MountControl.Net.Ipv6
