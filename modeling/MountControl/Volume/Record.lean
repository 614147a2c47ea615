/-
  MountControl — what is said of one volume.
-/
import MountControl.Volume.Instance
import MountControl.Volume.Options
import MountControl.Volume.State
import MountControl.Volume.Uuid

namespace MountControl.Volume

/-- The description of one volume in a reply; any part may be absent. -/
structure Record where
  /-- The volume's identifier. -/
  id : Option InstanceId := none
  /-- How far it has come. -/
  state : Option State := none
  /-- The filesystem, once its worker has reported it. -/
  fsUuid : Option Uuid := none
  /-- The filesystem's label. -/
  label : Option String := none
  /-- The options it was mounted with. -/
  options : RawOptions := {}
  deriving DecidableEq, Repr, Inhabited

end MountControl.Volume
