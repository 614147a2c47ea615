/-
  MountControl — paths as text.

  A path is a text of components between slashes.  Empty components and
  components `.` say nothing, except that a relative path may begin with
  one; `parent?` and `ancestors` look past them at the end of a path.
-/
import MountControl.Text.Split

namespace MountControl.Host.Path

/-- Does the path start at the root? -/
def isAbsolute (path : List Char) : Bool := path.head? = some '/'

/-- The texts between the slashes. -/
def components (path : List Char) : List (List Char) := Text.fields '/' path

/-- Drops what says nothing from the end of a path, which is given from its end: slashes, and
    components `.` after a slash.  The slash of the root stays. -/
def tidyReversed : List Char → List Char
  | ['/'] => ['/']
  | '/' :: rest => tidyReversed rest
  | '.' :: '/' :: rest => tidyReversed ('/' :: rest)
  | text => text
termination_by text => text.length

/-- The path without what says nothing at its end. -/
def tidy (path : List Char) : List Char := (tidyReversed path.reverse).reverse

/-- The path without its last component; none for the root and for the empty path.  The parent of
    a single relative component is the empty path. -/
def parent? (path : List Char) : Option (List Char) :=
  match (tidy path).reverse with
  | [] => none
  | ['/'] => none
  | text => some (tidyReversed (text.dropWhile (· != '/'))).reverse

/-- The path and the paths above it, up to the root or the empty path; `steps` bounds their
    number. -/
def ancestors.loop : (steps : Nat) → List Char → List (List Char)
  | 0, _ => []
  | steps + 1, path =>
    match parent? path with
    | none => [path]
    | some up => path :: loop steps up

/-- The path and the paths above it, up to the root or the empty path. -/
def ancestors (path : List Char) : List (List Char) :=
  ancestors.loop (path.length + 1) path

/-- Puts a relative path behind a directory; an absolute path stands on its own. -/
def join (directory path : List Char) : List Char :=
  if isAbsolute path || directory.isEmpty then path
  else if directory.getLast? = some '/' then directory ++ path
  else directory ++ '/' :: path

/-- The last component; none where the path ends in `..` or has no components. -/
def fileName? (path : List Char) : Option (List Char) :=
  (((components (tidy path)).getLast?).filter fun name => name ≠ [] ∧ name ≠ ['.', '.'])

/-- What follows the last dot of the last component, unless that dot begins it. -/
def extension? (path : List Char) : Option (List Char) :=
  match (fileName? path).bind (Text.cutLast '.') with
  | some (_ :: _, extension) => some extension
  | _ => none

/-- The absolute path of components. -/
def absolute (names : List (List Char)) : List Char :=
  if names.isEmpty then ['/'] else names.flatMap ('/' :: ·)

end MountControl.Host.Path
