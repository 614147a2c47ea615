/-
  MountControl — sets of characters given as ranges of code points.

  A property of characters that a standard lists (printable, extending,
  wide, ...) is a table of inclusive ranges; `CharRanges.has` looks a
  character up.  Characters below the first range of a table are rejected
  at once, so plain text costs one comparison.
-/

namespace MountControl.Text

/-- A set of characters as inclusive ranges of code points, in ascending order. -/
structure CharRanges where
  /-- The ranges, each from its first to its last code point. -/
  ranges : Array (Nat × Nat)

/-- Does the set hold the character? -/
def CharRanges.has (set : CharRanges) (c : Char) : Bool :=
  set.ranges.any fun (first, last) => first ≤ c.toNat && c.toNat ≤ last

end MountControl.Text
