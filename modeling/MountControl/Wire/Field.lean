/-
  MountControl — fields of a message.

  A message is a header line and a body of records.  A record carries one
  field: either on a plain line (`Key|value`, or a bare marker such as
  `Entry`), or counted (`Key|length|value`), in which case the value is as
  many bytes as the length says and may hold bars and line feeds.

  * `Field.render` is the record of a field;
  * `Field.ofLine` reads a plain line;
  * `countedKey?` finds a counted record's key, older spellings included.
-/
import MountControl.Text.Quoted
import MountControl.Text.Split
import MountControl.Text.Utf8
import MountControl.Volume.Record
import MountControl.Wire.Issue

namespace MountControl.Wire

open Volume (InstanceId State Uuid)

/-- What one record says, whatever message it stands in. -/
inductive Field
  /-- The subvolume's name. -/
  | subvol (name : String)
  /-- The subvolume's number. -/
  | subvolId (id : UInt64)
  /-- The file for the filesystem's metadata. -/
  | dump (target : String)
  /-- Is the filesystem only checked? -/
  | testRun (flag : Bool)
  /-- The mount point. -/
  | mountPoint (path : String)
  /-- One device. -/
  | device (path : String)
  /-- A volume. -/
  | instanceId (id : InstanceId)
  /-- A volume's state. -/
  | state (progress : State)
  /-- The filesystem. -/
  | fsUuid (id : Uuid)
  /-- The filesystem's label. -/
  | label (text : String)
  /-- The start of a volume in a listing. -/
  | entry
  /-- The mark of an empty listing. -/
  | noEntries
  deriving DecidableEq, Repr

/-! ## Spellings -/

/-- Keys and markers. -/
def keySubvol := "Option|Subvol"
@[inherit_doc keySubvol] def keySubvolId := "Option|SubvolID"
@[inherit_doc keySubvol] def keyDump := "Option|Dump"
@[inherit_doc keySubvol] def keyTestRun := "Option|TestRun"
@[inherit_doc keySubvol] def keyMountPoint := "MountPoint"
@[inherit_doc keySubvol] def keyDevice := "Device"
@[inherit_doc keySubvol] def keyInstanceId := "InstanceID"
@[inherit_doc keySubvol] def keyState := "State"
@[inherit_doc keySubvol] def keyFsUuid := "FSUUID"
@[inherit_doc keySubvol] def keyLabel := "Label"
@[inherit_doc keySubvol] def markerEntry := "Entry"
@[inherit_doc keySubvol] def markerNoEntries := "No Entries"

/-- The fields whose values are counted. -/
inductive CountedKey
  | subvol
  | dump
  | mountPoint
  | device
  | label
  deriving DecidableEq, Repr

/-- The field of a counted value. -/
def CountedKey.field : CountedKey → String → Field
  | .subvol => .subvol
  | .dump => .dump
  | .mountPoint => .mountPoint
  | .device => .device
  | .label => .label

/-- The spellings of counted keys.  The last three are older ones, which are read but never
    written. -/
def countedKeys : List (String × CountedKey) :=
  [(keySubvol, .subvol), (keyDump, .dump), (keyMountPoint, .mountPoint), (keyDevice, .device),
   (keyLabel, .label), ("mountData|mountPoint", .mountPoint), ("mountData|devices", .device),
   ("label", .label)]

/-- The counted key at the front of a text, and what follows its bar. -/
def countedKey? (text : List Char) : Option (CountedKey × List Char) :=
  countedKeys.findSome? fun (name, key) =>
    (Text.stripPrefix? (name.toList ++ ['|']) text).map fun rest => (key, rest)

/-! ## Plain lines -/

/-- Reads an unsigned 64-bit number. -/
def number? (text : List Char) : Option UInt64 :=
  (Text.Numeral.unsigned? UInt64.size text).map UInt64.ofNat

/-- Reads the spelling of a truth value. -/
def flag? (text : List Char) : Option Bool :=
  if text = "True".toList then some true
  else if text = "False".toList then some false
  else none

/-- The value that was read, or a complaint where there is none. -/
def orIssue {α : Type} (kind : IssueKind) : Option α → Except IssueKind α
  | some a => .ok a
  | none => .error kind

/-- The field on a plain line: a marker, or a key and a value with the last bar between them. -/
def Field.ofLine (line : List Char) : Except IssueKind Field :=
  if line = markerEntry.toList then .ok .entry
  else if line = markerNoEntries.toList then .ok .noEntries
  else if line = keyTestRun.toList then .ok (.testRun true)
  else
    match Text.cutLast '|' line with
    | none => .error .unknownField
    | some (key, value) =>
      if key = keySubvolId.toList then (orIssue .badNumber (number? value)).map .subvolId
      else if key = keyTestRun.toList then (orIssue .badValue (flag? value)).map .testRun
      else if key = keyInstanceId.toList then
        (orIssue .badValue (InstanceId.parse? value)).map .instanceId
      else if key = keyState.toList then (orIssue .badValue (State.parse? value)).map .state
      else if key = keyFsUuid.toList ∨ key = "fsUUID".toList then
        (orIssue .badValue (Uuid.parse? value)).map .fsUuid
      else .error .unknownField

/-! ## Writing -/

/-- A line that is only a marker. -/
def markerLine (marker : String) : List Char := marker.toList ++ ['\n']

/-- A plain record. -/
def plainRecord (key : String) (value : List Char) : List Char :=
  key.toList ++ '|' :: value ++ ['\n']

/-- A counted record. -/
def countedRecord (key : String) (value : String) : List Char :=
  key.toList ++ '|' :: Text.Numeral.decimal value.utf8ByteSize ++ '|' :: value.toList ++ ['\n']

/-- The record of a field. -/
def Field.render : Field → List Char
  | .subvol name => countedRecord keySubvol name
  | .subvolId id => plainRecord keySubvolId (Text.Numeral.decimal id.toNat)
  | .dump target => countedRecord keyDump target
  | .testRun true => markerLine keyTestRun
  | .testRun false => plainRecord keyTestRun "False".toList
  | .mountPoint path => countedRecord keyMountPoint path
  | .device path => countedRecord keyDevice path
  | .instanceId id => plainRecord keyInstanceId id.chars
  | .state progress => plainRecord keyState progress.name.toList
  | .fsUuid id => plainRecord keyFsUuid id.chars
  | .label text => countedRecord keyLabel text
  | .entry => markerLine markerEntry
  | .noEntries => markerLine markerNoEntries

/-- A field as a diagnostic shows it. -/
def Field.describe : Field → List Char
  | .subvol name => wrap "Subvol" (Text.Quoted.quote name.toList)
  | .subvolId id => wrap "SubvolId" (Text.Numeral.decimal id.toNat)
  | .dump target => wrap "Dump" (Text.Quoted.quote target.toList)
  | .testRun flag => wrap "TestRun" (if flag then "true" else "false").toList
  | .mountPoint path => wrap "MountPoint" (Text.Quoted.quote path.toList)
  | .device path => wrap "Device" (Text.Quoted.quote path.toList)
  | .instanceId id =>
    wrap "InstanceId" (wrap "InstanceId" (Text.Numeral.decimal id.value.toNat))
  | .state progress => wrap "State" progress.name.toList
  | .fsUuid id => wrap "FsUuid" id.chars
  | .label text => wrap "Label" (Text.Quoted.quote text.toList)
  | .entry => "Entry".toList
  | .noEntries => "NoEntries".toList
where
  /-- A name and a value in parentheses. -/
  wrap (name : String) (value : List Char) : List Char :=
    name.toList ++ '(' :: value ++ [')']

end MountControl.Wire
