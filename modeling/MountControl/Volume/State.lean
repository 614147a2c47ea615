/-
  MountControl — the progress of a volume.
-/

namespace MountControl.Volume

/-- How far a volume has come. -/
inductive State
  /-- The worker runs but has not reported the filesystem yet. -/
  | starting
  /-- The worker has reported the filesystem. -/
  | mounted
  deriving DecidableEq, Repr

/-- The spelling of a state. -/
def State.name : State → String
  | .starting => "Starting"
  | .mounted => "Mounted"

/-- Reads the spelling of a state. -/
def State.parse? (text : List Char) : Option State :=
  if text = State.starting.name.toList then some .starting
  else if text = State.mounted.name.toList then some .mounted
  else none

/-- What is said of a text that names no state. -/
def State.parseError (text : String) : String :=
  s!"unknown volume state '{text}'"

end MountControl.Volume
