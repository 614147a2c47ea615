/-
  MountControl — percent encoding.

  A character that may not stand in a part of a URL is written as its UTF-8
  bytes, each as a percent sign and two hexadecimal digits.  Which these are
  depends on the part.
-/
import MountControl.Text.Numeral
import MountControl.Text.Utf8

namespace MountControl.Net.Percent

/-- Control characters and everything beyond ASCII. -/
def isControl (c : Char) : Bool := c.toNat < 0x20 || 0x7F ≤ c.toNat

/-- The characters that are encoded in a path. -/
def inPath (c : Char) : Bool :=
  isControl c || c ∈ [' ', '"', '<', '>', '\x60', '#', '?', '\x7b', '\x7d']

/-- A byte in its encoded form. -/
def encodeByte (b : UInt8) : List Char :=
  '%' :: (Text.Numeral.padded 16 2 b.toNat).map Char.toUpper

/-- A text in which the characters of a class are encoded. -/
def encode (p : Char → Bool) (text : List Char) : List Char :=
  text.flatMap fun c =>
    if p c then (String.utf8EncodeChar c).flatMap encodeByte else [c]

/-- The bytes of a text in which encoded bytes are decoded. -/
def decode : List Char → List UInt8
  | '%' :: a :: b :: rest =>
    match Text.Numeral.value? 16 [a, b] with
    | some n => UInt8.ofNat n :: decode rest
    | none => '%'.toUInt8 :: decode (a :: b :: rest)
  | c :: rest => String.utf8EncodeChar c ++ decode rest
  | [] => []

end MountControl.Net.Percent
