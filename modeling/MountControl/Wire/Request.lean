/-
  MountControl — requests.

  A request is what a client or a worker asks of the service.  On the wire
  it is a header line with its kind, and the records of its fields.

  * `Request.encode` is the wire form;
  * `Request.decode` reads any text: a body's unusable records are skipped
    with an issue, and of a field given twice the first value counts.
-/
import MountControl.Wire.Reader

namespace MountControl.Volume

open Wire (Field IssueKind setOnce)

/-- The fields of mount options, in the order in which they are written. -/
def RawOptions.fields (options : RawOptions) : List Field :=
  options.subvolName.toList.map .subvol
    ++ options.subvolId.toList.map .subvolId
    ++ options.dumpTarget.toList.map .dump
    ++ (if options.testRun then [.testRun true] else [])
    ++ options.mountPoint.toList.map .mountPoint
    ++ options.devices.map .device

/-- Takes a field of mount options.  Devices add up, and of flags the last one counts. -/
def RawOptions.accept (options : RawOptions) : Field → Except IssueKind RawOptions
  | .subvol name => (setOnce options.subvolName name).map ({ options with subvolName := · })
  | .subvolId id => (setOnce options.subvolId id).map ({ options with subvolId := · })
  | .dump target => (setOnce options.dumpTarget target).map ({ options with dumpTarget := · })
  | .testRun flag => .ok { options with testRun := flag }
  | .mountPoint path => (setOnce options.mountPoint path).map ({ options with mountPoint := · })
  | .device path => .ok { options with devices := options.devices ++ [path] }
  | _ => .error .unexpectedField

end MountControl.Volume

namespace MountControl.Wire

open Volume (InstanceId Uuid RawOptions Options)

/-- A message to the service. -/
inductive Request
  /-- Start a worker for a new volume. -/
  | mount (options : RawOptions)
  /-- List the volumes. -/
  | list
  /-- A worker asks for the options it was started with. -/
  | mountData (id : Option InstanceId)
  /-- A worker reports the filesystem that it mounted. -/
  | mounted (id : Option InstanceId) (fsUuid : Option Uuid) (label : Option String)
  /-- Stop a volume's worker and forget the volume. -/
  | unmount (id : Option InstanceId) (mountPoint : Option String)
  /-- A kind that is not understood. -/
  | unknown (kind : String)
  deriving DecidableEq, Repr

/-! ## Construction -/

/-- The request to mount validated options. -/
def Request.ofOptions (options : Options) : Request := .mount options.raw

/-- A worker's question for its options. -/
def Request.ofWorker (id : InstanceId) : Request := .mountData (some id)

/-- A worker's report. -/
def Request.ofFilesystem (id : InstanceId) (fsUuid : Uuid) (label : Option String) : Request :=
  .mounted (some id) (some fsUuid) label

/-- The request to unmount a mount point. -/
def Request.ofMountPoint (path : String) : Request := .unmount none (some path)

/-! ## Wire form -/

/-- The kind on the header line. -/
def Request.kind : Request → String
  | .mount _ => "Mount"
  | .list => "List"
  | .mountData _ => "DrvMountData"
  | .mounted .. => "DrvMounted"
  | .unmount .. => "Unmount"
  | .unknown kind => kind

/-- The fields of the body. -/
def Request.fields : Request → List Field
  | .mount options => options.fields
  | .list => []
  | .mountData id => id.toList.map .instanceId
  | .mounted id fsUuid label =>
    id.toList.map .instanceId ++ fsUuid.toList.map .fsUuid ++ label.toList.map .label
  | .unmount id mountPoint =>
    id.toList.map .instanceId ++ mountPoint.toList.map .mountPoint
  | .unknown _ => []

/-- The wire form of a request. -/
def Request.encode (request : Request) : List Char :=
  markerLine request.kind ++ request.fields.flatMap Field.render

/-! ## Reading -/

/-- The request of a kind with all fields absent. -/
def Request.ofKind (kind : List Char) : Request :=
  if kind = "Mount".toList then .mount {}
  else if kind = "List".toList then .list
  else if kind = "DrvMountData".toList then .mountData none
  else if kind = "DrvMounted".toList then .mounted none none none
  else if kind = "Unmount".toList then .unmount none none
  else .unknown (String.ofList kind)

/-- Takes a field into a request, if it has a place there that is still free. -/
def Request.accept (request : Request) (field : Field) : Except IssueKind Request :=
  match request, field with
  | .mount options, _ => (options.accept field).map .mount
  | .mountData id, .instanceId new => (setOnce id new).map .mountData
  | .mounted id fsUuid label, .instanceId new => (setOnce id new).map (.mounted · fsUuid label)
  | .mounted id fsUuid label, .fsUuid new => (setOnce fsUuid new).map (.mounted id · label)
  | .mounted id fsUuid label, .label new => (setOnce label new).map (.mounted id fsUuid ·)
  | .unmount id mountPoint, .instanceId new => (setOnce id new).map (.unmount · mountPoint)
  | .unmount id mountPoint, .mountPoint new => (setOnce mountPoint new).map (.unmount id ·)
  | _, _ => .error .unexpectedField

/-- Reads a request.  The body of an unknown kind is not looked at. -/
def Request.decode (text : List Char) : Decoded Request :=
  match Request.ofKind (Text.line text) with
  | .unknown kind => ⟨.unknown kind, []⟩
  | blank => readBody Request.accept blank (Text.afterLine text)

end MountControl.Wire
