/-
  MountControl — replies.

  The service answers each request with one reply: success, a failure with
  a text for people, the description of one volume, or a listing.

  * `Reply.encode` is the wire form;
  * `Reply.decode` reads any text, and fails only where not even the kind of
    reply can be told.
-/
import MountControl.Wire.Request

namespace MountControl.Volume

open Wire (Field IssueKind setOnce)

/-- The fields of a volume's description, in the order in which they are written. -/
def Record.fields (record : Record) : List Field :=
  record.id.toList.map .instanceId
    ++ record.state.toList.map .state
    ++ record.fsUuid.toList.map .fsUuid
    ++ record.label.toList.map .label
    ++ record.options.fields

/-- Takes a field of a volume's description. -/
def Record.accept (record : Record) (field : Field) : Except IssueKind Record :=
  match field with
  | .instanceId id => (setOnce record.id id).map ({ record with id := · })
  | .state state => (setOnce record.state state).map ({ record with state := · })
  | .fsUuid id => (setOnce record.fsUuid id).map ({ record with fsUuid := · })
  | .label text => (setOnce record.label text).map ({ record with label := · })
  | field => (record.options.accept field).map ({ record with options := · })

end MountControl.Volume

namespace MountControl.Wire

open Volume (Record)

/-- A message from the service. -/
inductive Reply
  /-- The request succeeded; there is nothing to tell. -/
  | ok
  /-- The volumes that there are. -/
  | listing (records : List Record)
  /-- One volume. -/
  | detail (record : Record)
  /-- The request failed. -/
  | error (description : String)
  deriving DecidableEq, Repr

/-- Why a text is no reply. -/
inductive ReplyError
  /-- There is no text. -/
  | empty
  /-- The header names no kind of reply. -/
  | unknownKind (kind : String)
  /-- A data reply has no body. -/
  | emptyData
  deriving DecidableEq, Repr

/-- The text of a reading failure. -/
def ReplyError.message : ReplyError → String
  | .empty => "the reply was empty"
  | .unknownKind kind => "unrecognised reply kind '" ++ kind ++ "'"
  | .emptyData => "the data reply carried no data"

/-- The header of a successful reply without data. -/
def kindOk := "OK"

/-- The header of a reply with data. -/
def kindData := "Data"

/-- The header of a failure. -/
def kindError := "Error"

/-! ## Wire form -/

/-- The fields of a listing: each volume after its mark, or the mark of an empty listing. -/
def listingFields : List Record → List Field
  | [] => [.noEntries]
  | records => records.flatMap fun record => .entry :: record.fields

/-- A description that ends in a line feed. -/
def endLine (text : List Char) : List Char :=
  if text.getLast? = some '\n' then text else text ++ ['\n']

/-- The wire form of a reply. -/
def Reply.encode : Reply → List Char
  | .ok => markerLine kindOk
  | .listing records => markerLine kindData ++ (listingFields records).flatMap Field.render
  | .detail record => markerLine kindData ++ record.fields.flatMap Field.render
  | .error description => markerLine kindError ++ endLine description.toList

/-! ## Reading data -/

/-- A data body as far as it has been read. -/
structure DataBody where
  /-- The volumes that are complete, the last one first. -/
  complete : List Record := []
  /-- The volume being read. -/
  current : Record := {}
  /-- Has an entry mark been read? -/
  entryOpen : Bool := false
  /-- Has a field of the current volume been read? -/
  touched : Bool := false
  /-- Has the mark of an empty listing been read? -/
  denied : Bool := false
  deriving DecidableEq, Repr

/-- Takes a field into a data body.  A field of a volume is refused only if it repeats one of the
    volume, so some field of the volume has been read before, and the body may stay as it is. -/
def DataBody.accept (body : DataBody) (field : Field) : Except IssueKind DataBody :=
  match field with
  | .entry =>
    .ok { body with
      complete := if body.entryOpen || body.touched then body.current :: body.complete
        else body.complete
      current := if body.entryOpen || body.touched then {} else body.current
      entryOpen := true
      touched := false }
  | .noEntries =>
    if body.entryOpen || body.touched || !body.complete.isEmpty then .error .unexpectedField
    else .ok { body with denied := true }
  | field => (body.current.accept field).map ({ body with current := ·, touched := true })

/-- The reply that a whole body makes. -/
def DataBody.reply (body : DataBody) : Reply :=
  if body.entryOpen || body.denied then
    if body.entryOpen || body.touched then .listing (body.current :: body.complete).reverse
    else .listing body.complete.reverse
  else .detail body.current

/-- Reads the body of a data reply. -/
def decodeData (body : List Char) : Decoded Reply :=
  let decoded := readBody DataBody.accept {} body
  ⟨decoded.message.reply, decoded.issues⟩

/-- A text without a line feed at its end. -/
def dropLineEnd (text : List Char) : List Char :=
  if text.getLast? = some '\n' then text.dropLast else text

/-- Reads a reply. -/
def Reply.decode (text : List Char) : Except ReplyError (Decoded Reply) :=
  if text.isEmpty then .error .empty
  else
    let kind := Text.line text
    let body := Text.afterLine text
    if kind = kindOk.toList then .ok ⟨.ok, []⟩
    else if kind = kindError.toList then .ok ⟨.error (String.ofList (dropLineEnd body)), []⟩
    else if kind = kindData.toList then
      if body.isEmpty then .error .emptyData else .ok (decodeData body)
    else .error (.unknownKind (String.ofList kind))

end MountControl.Wire
