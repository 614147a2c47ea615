/-
  MountControl — mount options.

  `RawOptions` are the fields of a mount request as they come in, any of
  them absent; `Options` are those that passed validation.  `validate` is
  the gate between the two and `Options.raw` the way back.
-/
import MountControl.Text.Numeral

namespace MountControl.Volume

/-- Which subvolume of a filesystem is mounted. -/
inductive Subvolume
  /-- The one that the filesystem marks as its default. -/
  | default
  /-- The one of this name. -/
  | byName (name : String)
  /-- The one of this number; `0` is the top-level tree. -/
  | byId (id : UInt64)
  deriving DecidableEq, Repr

/-- Mount options that passed validation. -/
structure Options where
  /-- The directory at which the volume is mounted. -/
  mountPoint : String
  /-- The member devices, in the order given. -/
  devices : List String
  /-- The subvolume to mount. -/
  subvolume : Subvolume
  /-- A file to which the worker writes the filesystem's metadata. -/
  dumpTarget : Option String
  /-- Should the worker check the filesystem without mounting it? -/
  testRun : Bool
  deriving DecidableEq, Repr

/-- Mount options before validation. -/
structure RawOptions where
  /-- The directory at which to mount. -/
  mountPoint : Option String := none
  /-- The member devices, in the order given. -/
  devices : List String := []
  /-- The subvolume's name. -/
  subvolName : Option String := none
  /-- The subvolume's number. -/
  subvolId : Option UInt64 := none
  /-- A file for the filesystem's metadata. -/
  dumpTarget : Option String := none
  /-- Only check the filesystem? -/
  testRun : Bool := false
  deriving DecidableEq, Repr, Inhabited

/-- Why mount options are rejected. -/
inductive OptionsError
  /-- The mount point is absent or empty. -/
  | missingMountPoint
  /-- There is no device. -/
  | noDevices
  /-- A device is empty. -/
  | emptyDevice
  /-- A subvolume is selected by name and by number. -/
  | conflictingSubvolume
  /-- The number is that of an internal tree. -/
  | impossibleSubvolumeId (id : UInt64)
  deriving DecidableEq, Repr

/-- The text of a rejection. -/
def OptionsError.message : OptionsError → String
  | .missingMountPoint => "a mount point is required"
  | .noDevices => "at least one device is required"
  | .emptyDevice => "device paths must not be empty"
  | .conflictingSubvolume => "a subvolume may be selected by name or by ID, not both"
  | .impossibleSubvolumeId id =>
    Text.Numeral.decimalString id.toNat ++ " is an impossible subvolume ID"

/-- Numbers that belong to a filesystem's internal trees: `1` to `255`, and the 254 numbers below
    the greatest one. -/
def isInternalTree (id : UInt64) : Bool :=
  (1 ≤ id && id ≤ 0xFF) || (0xFFFFFFFFFFFFFF01 ≤ id && id ≤ 0xFFFFFFFFFFFFFFFE)

/-- The selector that a name and a number make together. -/
def Subvolume.select : Option String → Option UInt64 → Except OptionsError Subvolume
  | some _, some _ => .error .conflictingSubvolume
  | some name, none => .ok (.byName name)
  | none, some id =>
    if isInternalTree id then .error (.impossibleSubvolumeId id) else .ok (.byId id)
  | none, none => .ok .default

/-- Validates mount options; the first rule that is broken is reported. -/
def RawOptions.validate (raw : RawOptions) : Except OptionsError Options :=
  match raw.mountPoint with
  | none => .error .missingMountPoint
  | some mountPoint =>
    if mountPoint = "" then .error .missingMountPoint
    else if raw.devices = [] then .error .noDevices
    else if raw.devices.any (· = "") then .error .emptyDevice
    else
      match Subvolume.select raw.subvolName raw.subvolId with
      | .error e => .error e
      | .ok subvolume =>
        .ok ⟨mountPoint, raw.devices, subvolume, raw.dumpTarget, raw.testRun⟩

/-- The fields of validated options. -/
def Options.raw (options : Options) : RawOptions where
  mountPoint := some options.mountPoint
  devices := options.devices
  subvolName := match options.subvolume with
    | .byName name => some name
    | _ => none
  subvolId := match options.subvolume with
    | .byId id => some id
    | _ => none
  dumpTarget := options.dumpTarget
  testRun := options.testRun

end MountControl.Volume
