/-
  MountControl — cutting texts at a separator.

  `cut sep` splits at the first separator, `cutLast sep` at the last one;
  both fail where there is none.  `line` is the text up to the first line
  feed and `afterLine` what follows it.
-/

namespace MountControl.Text

/-- The parts before and after the first separator. -/
def cut (sep : Char) (text : List Char) : Option (List Char × List Char) :=
  let (before, rest) := text.span (· != sep)
  match rest with
  | _ :: after => some (before, after)
  | [] => none

/-- The parts before and after the last separator. -/
def cutLast (sep : Char) (text : List Char) : Option (List Char × List Char) :=
  (cut sep text.reverse).map fun (suffix, front) => (front.reverse, suffix.reverse)

/-- The text up to its first line feed. -/
def line (text : List Char) : List Char :=
  text.takeWhile (· != '\n')

/-- The text after its first line feed; nothing where there is none. -/
def afterLine (text : List Char) : List Char :=
  (text.dropWhile (· != '\n')).drop 1

/-- What follows a prefix of the text. -/
def stripPrefix? (front text : List Char) : Option (List Char) :=
  if front.isPrefixOf text then some (text.drop front.length) else none

/-- The texts between separators; one empty text for an empty one. -/
def fields (sep : Char) (text : List Char) : List (List Char) :=
  text.splitOn sep

end MountControl.Text
