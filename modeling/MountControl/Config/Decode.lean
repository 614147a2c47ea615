/-
  MountControl — understanding settings.

  Each setting takes values of one kind; `DecodeError` says what was found
  and what was expected.  Settings that are absent keep their defaults, and
  keys that name no setting are passed over.
-/
import MountControl.Config.Settings
import MountControl.Config.Value
import MountControl.Text.Quoted

namespace MountControl.Config

/-- Why a value is not understood. -/
inductive DecodeError
  /-- It is of the wrong kind. -/
  | invalidType (found expected : String)
  /-- It is of the right kind but out of range. -/
  | invalidValue (found expected : String)
  /-- A list has the wrong number of items. -/
  | invalidLength (length : Nat) (expected : String)
  /-- It is none of the known names. -/
  | unknownVariant (found : String) (expected : String)
  /-- It has none of the forms of an endpoint. -/
  | noEndpoint
  /-- It is a text that names no endpoint. -/
  | endpoint (error : EndpointError)
  deriving DecidableEq, Repr

/-- The text of a failure. -/
def DecodeError.message : DecodeError → String
  | .invalidType found expected => "invalid type: " ++ found ++ ", expected " ++ expected
  | .invalidValue found expected => "invalid value: " ++ found ++ ", expected " ++ expected
  | .invalidLength length expected =>
    "invalid length " ++ Text.Numeral.decimalString length ++ ", expected " ++ expected
  | .unknownVariant found expected =>
    "unknown variant \x60" ++ found ++ "\x60, expected " ++ expected
  | .noEndpoint => "data did not match any variant of untagged enum EndpointRepr"
  | .endpoint error => error.message

/-- A text between backquotes. -/
def backquoted (text : List Char) : String := String.ofList ('\x60' :: text ++ ['\x60'])

/-- What a value is, in words. -/
def Value.describe : Value → String
  | .null => "null"
  | .bool b => "boolean " ++ backquoted (if b then "true" else "false").toList
  | .integer n => "integer " ++ backquoted (Text.Numeral.signedDecimal n)
  | .fraction d => "floating point " ++ backquoted d.display
  | .string s => "string " ++ Text.Quoted.quoteString s
  | .list _ => "sequence"
  | .map _ => "map"

/-! ## Plain settings -/

/-- A text. -/
def Value.asText : Value → Except DecodeError String
  | .string s => .ok s
  | value => .error (.invalidType value.describe "a string")

/-- A number of 64 bits. -/
def Value.asCount (value : Value) : Except DecodeError UInt64 :=
  match value with
  | .integer n =>
    if 0 ≤ n ∧ n < UInt64.size then .ok (UInt64.ofNat n.toNat)
    else .error (.invalidValue value.describe "u64")
  | _ => .error (.invalidType value.describe "u64")

/-- The format of a name. -/
def LogFormat.named (name : String) : Except DecodeError LogFormat :=
  match LogFormat.all.find? (·.name = name) with
  | some format => .ok format
  | none => .error (.unknownVariant name "\x60json\x60 or \x60compact\x60")

/-- A format, as a name or as a map from its name to nothing. -/
def Value.asLogFormat (value : Value) : Except DecodeError LogFormat :=
  match value with
  | .string name => LogFormat.named name
  | .map [(name, content)] =>
    match LogFormat.named name, content with
    | .ok format, .null => .ok format
    | .ok _, other => .error (.invalidType other.describe "unit")
    | .error error, _ => .error error
  | .map _ => .error (.invalidValue value.describe "map with a single key")
  | _ => .error (.invalidType value.describe "string or map")

/-! ## Endpoints -/

/-- The transports of an endpoint. -/
inductive Transport
  | unix
  | tcp
  deriving DecidableEq, Repr

/-- A transport by its name or its number. -/
def Value.asTransport? : Value → Option Transport
  | .string "unix" => some .unix
  | .string "tcp" => some .tcp
  | .integer 0 => some .unix
  | .integer 1 => some .tcp
  | _ => none

/-- A port. -/
def Value.asPort? : Value → Option UInt16
  | .integer n => if 0 ≤ n ∧ n < 65536 then some (UInt16.ofNat n.toNat) else none
  | _ => none

/-- The endpoint of a map or a list. -/
def Value.asTable? (value : Value) : Option Endpoint :=
  match value with
  | .map _ =>
    match (value.get? "transport").bind Value.asTransport? with
    | some .unix =>
      match value.get? "path" with
      | some (.string path) => some (.unix path)
      | _ => none
    | some .tcp =>
      match value.get? "host", (value.get? "port").bind Value.asPort? with
      | some (.string host), some port => some (.tcp host port)
      | _, _ => none
    | none => none
  | .list (tag :: rest) =>
    match tag.asTransport?, rest with
    | some .unix, [.string path] => some (.unix path)
    | some .tcp, [.string host, port] => port.asPort?.map (.tcp host)
    | _, _ => none
  | _ => none

/-- An endpoint, as a text, a map or a list. -/
def Value.asEndpoint (value : Value) : Except DecodeError Endpoint :=
  match value with
  | .string text =>
    match Endpoint.parse text with
    | .ok endpoint => .ok endpoint
    | .error error => .error (.endpoint error)
  | _ =>
    match value.asTable? with
    | some endpoint => .ok endpoint
    | none => .error .noEndpoint

/-- An endpoint as a value. -/
def Endpoint.value : Endpoint → Value
  | .unix path => .map [("transport", .string "unix"), ("path", .string path)]
  | .tcp host port =>
    .map [("transport", .string "tcp"), ("host", .string host), ("port", .integer port.toNat)]

/-! ## All settings -/

/-- The key of a setting, and how its value is taken. -/
structure Setting where
  /-- The key. -/
  key : String
  /-- Takes a value into the settings. -/
  take : Value → Settings → Except DecodeError Settings

/-- The settings, in the order in which a list gives their values. -/
def Setting.all : List Setting := [
  ⟨"daemon_socket", fun v s => v.asEndpoint.map ({ s with socket := · })⟩,
  ⟨"log_filter", fun v s => v.asText.map ({ s with logFilter := · })⟩,
  ⟨"log_format", fun v s => v.asLogFormat.map ({ s with logFormat := · })⟩,
  ⟨"worker_binary", fun v s => v.asText.map ({ s with workerBinary := · })⟩,
  ⟨"connect_timeout_ms", fun v s => v.asCount.map ({ s with connectTimeout := · })⟩,
  ⟨"reply_timeout_ms", fun v s => v.asCount.map ({ s with replyTimeout := · })⟩,
  ⟨"exchange_timeout_ms", fun v s => v.asCount.map ({ s with exchangeTimeout := · })⟩,
  ⟨"worker_stop_timeout_ms", fun v s => v.asCount.map ({ s with workerStopTimeout := · })⟩]

/-- The settings, in the order of their keys. -/
def Setting.sorted : List Setting :=
  ["connect_timeout_ms", "daemon_socket", "exchange_timeout_ms", "log_filter", "log_format",
   "reply_timeout_ms", "worker_binary", "worker_stop_timeout_ms"].filterMap fun key =>
    all.find? (·.key = key)

/-- Understands settings, in the order of their keys; `defaults` holds for those that are
    absent. -/
def Value.asSettings (value : Value) (defaults : Settings) : Except DecodeError Settings :=
  match value with
  | .map _ =>
    Setting.sorted.foldlM (fun settings setting =>
      match value.get? setting.key with
      | some given => setting.take given settings
      | none => .ok settings) defaults
  | .list items =>
    if Setting.all.length < items.length then
      match (Setting.all.zip items).foldlM (fun s (setting, given) => setting.take given s)
          defaults with
      | .error error => .error error
      | .ok _ => .error (.invalidLength items.length "fewer elements in array")
    else (Setting.all.zip items).foldlM (fun s (setting, given) => setting.take given s) defaults
  | _ => .error (.invalidType value.describe "struct Config")

/-- Settings as a value. -/
def Settings.value (s : Settings) : Value :=
  .map [("daemon_socket", s.socket.value), ("log_filter", .string s.logFilter),
    ("log_format", .string s.logFormat.name), ("worker_binary", .string s.workerBinary),
    ("connect_timeout_ms", .integer s.connectTimeout.toNat),
    ("reply_timeout_ms", .integer s.replyTimeout.toNat),
    ("exchange_timeout_ms", .integer s.exchangeTimeout.toNat),
    ("worker_stop_timeout_ms", .integer s.workerStopTimeout.toNat)]

end MountControl.Config
