/-
  MountControl — the address of the control socket.

  An endpoint is a socket file, or a host and a port.  `Endpoint.display` is
  its URL; `Endpoint.parse` reads a URL, or the absolute path of a socket
  file.
-/
import MountControl.Net.Url

namespace MountControl.Config

/-- Where the service listens. -/
inductive Endpoint
  /-- A socket file. -/
  | unix (path : String)
  /-- A host and a port. -/
  | tcp (host : String) (port : UInt16)
  deriving DecidableEq, Repr

/-- An endpoint as a URL. -/
def Endpoint.display : Endpoint → String
  | .unix path => "unix://" ++ path
  | .tcp host port => "tcp://" ++ host ++ ":" ++ Text.Numeral.decimalString port.toNat

/-- The socket file, if the endpoint is one. -/
def Endpoint.unixPath? : Endpoint → Option String
  | .unix path => some path
  | .tcp .. => none

/-- Why a text is no endpoint. -/
inductive EndpointError
  /-- The scheme names no transport. -/
  | unsupportedScheme (scheme : String)
  /-- There is no host. -/
  | missingHost (text : String)
  /-- There is no port. -/
  | missingPort (text : String)
  /-- There is no path. -/
  | missingUnixPath (text : String)
  /-- The text is no URL. -/
  | url (error : Net.UrlError)
  deriving DecidableEq, Repr

/-- The text of a failure. -/
def EndpointError.message : EndpointError → String
  | .unsupportedScheme scheme => "unsupported socket scheme '" ++ scheme ++ "'"
  | .missingHost text => "missing TCP host in '" ++ text ++ "'"
  | .missingPort text => "missing TCP port in '" ++ text ++ "'"
  | .missingUnixPath text => "missing Unix socket path in '" ++ text ++ "'"
  | .url error => error.message

/-- The endpoint that a URL names; `text` is the URL as it was written. -/
def Endpoint.ofUrl (text : String) (url : Net.Url) : Except EndpointError Endpoint :=
  if url.scheme = "unix".toList then
    if url.path.isEmpty then .error (.missingUnixPath text)
    else .ok (.unix (String.ofList url.path))
  else if url.scheme = "tcp".toList then
    match url.host, url.port with
    | none, _ => .error (.missingHost text)
    | some _, none => .error (.missingPort text)
    | some host, some port => .ok (.tcp (String.ofList host) (UInt16.ofNat port))
  else .error (.unsupportedScheme (String.ofList url.scheme))

/-- Reads an endpoint. -/
def Endpoint.parse (text : String) : Except EndpointError Endpoint :=
  if text.toList.head? = some '/' then .ok (.unix text)
  else
    match Net.Url.parse text.toList with
    | .error error => .error (.url error)
    | .ok url => Endpoint.ofUrl text url

end MountControl.Config
