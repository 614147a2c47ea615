/-
  MountControl — white space and control characters.

  `isBlank` is the Unicode white space property, `isControl` the general
  category of control characters.  Trimming is of blanks unless another
  class is named.
-/

namespace MountControl.Text

/-- Unicode white space. -/
def isBlank (c : Char) : Bool :=
  let n := c.toNat
  (0x09 ≤ n && n ≤ 0x0D) || n == 0x20 || n == 0x85 || n == 0xA0 || n == 0x1680
    || (0x2000 ≤ n && n ≤ 0x200A) || n == 0x2028 || n == 0x2029 || n == 0x202F || n == 0x205F
    || n == 0x3000

/-- Control characters: the first 32, delete, and the 32 above it. -/
def isControl (c : Char) : Bool :=
  c.toNat < 0x20 || (0x7F ≤ c.toNat && c.toNat < 0xA0)

/-- The text without the characters of a class at its end. -/
def trimEndOf (p : Char → Bool) (text : List Char) : List Char :=
  (text.reverse.dropWhile p).reverse

/-- The text without blanks at its end. -/
def trimEnd (text : List Char) : List Char := trimEndOf isBlank text

/-- The text without blanks at either end. -/
def trim (text : List Char) : List Char := trimEnd (text.dropWhile isBlank)

end MountControl.Text
