/-
  MountControl — one run of the client.

  A run reads the command, loads the settings, sends one request, reads the
  reply and shows it.  The first failure ends it and gives its exit status.
  The service is a function from the bytes of the request to how the
  connection behaves.
-/
import MountControl.Client.Arguments
import MountControl.Client.Failure
import MountControl.Client.Table
import MountControl.Host.Network

namespace MountControl.Client

open Config (Argument Endpoint Environment LoadError Settings)
open Host (FileTree IoError Network Place)
open Volume (Record)
open Wire (Decoded Read Reply Write readReply writeMessage)

/-! ## Reaching the service -/

/-- The files and the network among which the client runs. -/
structure Surroundings where
  /-- The environment. -/
  env : Environment
  /-- The files. -/
  files : FileTree
  /-- The directory from which relative paths start. -/
  cwd : Place
  /-- The network. -/
  network : Network := {}

/-- Connects to an endpoint. -/
def Surroundings.connect (around : Surroundings) (endpoint : Endpoint) (timeout : Nat) :
    Except Failure Unit :=
  match endpoint with
  | .unix path =>
    match around.files.connect around.cwd path.toList with
    | .ok _ => .ok ()
    | .error source => .error (.connect endpoint.display source)
  | .tcp host port =>
    match around.network.resolve host with
    | .error source => .error (.resolve endpoint.display source)
    | .ok address =>
      match around.network.connect address port.toNat timeout with
      | .ok () => .ok ()
      | .error source => .error (.connect endpoint.display source)

/-- How a connection to the service behaves. -/
structure Line where
  /-- The successive writes. -/
  writes : List Write := []
  /-- Flushing. -/
  flush : Except IoError Unit := .ok ()
  /-- Closing the side that writes. -/
  closing : Except IoError Unit := .ok ()
  /-- The successive reads, each with the time that has passed since the request. -/
  reads : List (Nat × Read)

/-- Sends a request and reads the reply. -/
def Line.exchange (line : Line) (request : List UInt8) (window : Nat) :
    Except Failure (List Char) :=
  match (writeMessage request line.writes line.flush).result, line.closing with
  | .error source, _ => .error (.send source)
  | .ok (), .error source => .error (.send source)
  | .ok (), .ok () =>
    match readReply window line.reads with
    | .error failure => .error (.ofReading window failure)
    | .ok bytes => .ok (Text.decodeLossy bytes)

/-! ## Showing the reply -/

/-- What a run has shown. -/
structure Shown where
  /-- On the standard output. -/
  out : String := ""
  /-- On the standard error. -/
  err : String := ""
  deriving DecidableEq, Repr

/-- Where a run shows things: an output that is broken takes nothing. -/
structure Outlets where
  /-- Why the standard output is broken. -/
  out : Option IoError := none
  /-- Why the standard error is broken. -/
  err : Option IoError := none
  deriving DecidableEq, Repr

/-- The warning about a line of the reply that could not be understood. -/
def warning (issue : Wire.Issue) : String :=
  "warning: skipped unintelligible reply " ++ issue.display ++ "\n"

/-- Shows warnings; the first that cannot be shown is a failure. -/
def Outlets.warn (outlets : Outlets) (issues : List Wire.Issue) (shown : Shown) :
    Except Failure Unit × Shown :=
  match issues, outlets.err with
  | [], _ => (.ok (), shown)
  | _ :: _, some source => (.error (.output source), shown)
  | issues, none => (.ok (), { shown with err := shown.err ++ String.join (issues.map warning) })

/-- Shows a listing. -/
def Outlets.list (outlets : Outlets) (records : List Record) (shown : Shown) :
    Except Failure Unit × Shown :=
  match outlets.out with
  | some source => (.error (.output source), shown)
  | none =>
    (.ok (), { shown with out := shown.out ++ String.ofList (Table.render records) })

/-- The kind of a reply, as failures name it. -/
def replyKind : Reply → String
  | .ok => "OK"
  | .listing _ => "Data"
  | .detail _ => "Data"
  | .error _ => "Error"

/-- Shows the reply to a command. -/
def Outlets.present (outlets : Outlets) (command : Command) (reply : Reply) (shown : Shown) :
    Except Failure Unit × Shown :=
  match command, reply with
  | _, .error description => (.error (.service description), shown)
  | .list, .listing records => outlets.list records shown
  | .list, .detail record => outlets.list [record] shown
  | .mount _, .ok => (.ok (), shown)
  | .unmount _, .ok => (.ok (), shown)
  | command, reply => (.error (.unexpected command.name (replyKind reply)), shown)

/-! ## A whole run -/

/-- What a run comes to. -/
structure Outcome where
  /-- The exit status. -/
  status : Nat
  /-- What was shown. -/
  shown : Shown
  /-- The bytes of the request, if the service was reached. -/
  sent : Option (List UInt8) := none
  deriving DecidableEq, Repr

/-- Runs a command with settings: also the bytes of the request, if the service was reached. -/
def execute (around : Surroundings) (outlets : Outlets) (service : List UInt8 → Line)
    (command : Command) (settings : Settings) :
    Except Failure Unit × Shown × Option (List UInt8) :=
  match command.request with
  | .error source => (.error (.options source), {}, none)
  | .ok request =>
    match around.connect settings.socket settings.connectTimeout.toNat with
    | .error failure => (.error failure, {}, none)
    | .ok () =>
      let bytes := Text.encode request.encode
      match (service bytes).exchange bytes settings.replyTimeout.toNat with
      | .error failure => (.error failure, {}, some bytes)
      | .ok text =>
        match Reply.decode text with
        | .error source => (.error (.ofDecoding source), {}, some bytes)
        | .ok decoded =>
          match outlets.warn decoded.issues {} with
          | (.error failure, shown) => (.error failure, shown, some bytes)
          | (.ok (), shown) =>
            let (result, shown) := outlets.present command decoded.message shown
            (result, shown, some bytes)

/-- Ends a run: a failure is shown, if it can be, and gives the exit status. -/
def Outlets.finish (outlets : Outlets) (result : Except Failure Unit) (shown : Shown)
    (sent : Option (List UInt8)) : Outcome :=
  match result with
  | .ok () => ⟨0, shown, sent⟩
  | .error failure =>
    let text := if outlets.err.isSome then "" else failure.message ++ "\n"
    ⟨failure.status, { shown with err := shown.err ++ text }, sent⟩

/-- A text for the standard output that is not missed if it cannot be shown. -/
def Outlets.tell (outlets : Outlets) (text : String) : Outcome :=
  ⟨0, { out := if outlets.out.isSome then "" else text }, none⟩

/-- Runs the client. -/
def run (around : Surroundings) (outlets : Outlets) (service : List UInt8 → Line)
    (arguments : List Argument) : Outcome :=
  let parts := Arguments.split arguments
  match Asked.parse (parts.command.drop 1) with
  | .error source => outlets.finish (.error (.usage source)) {} none
  | .ok .help => outlets.tell help
  | .ok .version => outlets.tell version
  | .ok (.run command) =>
    match Config.load parts.settings around.env around.files around.cwd with
    | .error source => outlets.finish (.error (.configuration source)) {} none
    | .ok settings =>
      let (result, shown, sent) := execute around outlets service command settings
      outlets.finish result shown sent

end MountControl.Client
