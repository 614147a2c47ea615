/-
  MountControl — listening on the control socket.

  `bind` claims the endpoint.  The serve loop then takes connections one
  after another until it is told to stop; a fault in the handling of a
  connection ends it at once.  `Loop.turn` is one turn of the loop, which
  first looks whether to stop and then takes what accepting gives.
-/
import MountControl.Config.Endpoint
import MountControl.Host.Network
import MountControl.Service.Fault
import MountControl.Service.SocketFile

namespace MountControl.Service

open Config (Endpoint)
open Host (ErrorKind FileTree IoError Network Place)

/-- Why the service does not listen, or no longer. -/
inductive ListenerError
  /-- The host has no address that could be found. -/
  | resolve (endpoint : String) (source : IoError)
  /-- The host has no address. -/
  | noAddress (endpoint : String)
  /-- A file is in the way. -/
  | staleSocket (endpoint : String) (stale : StaleSocket)
  /-- The system refuses the endpoint. -/
  | bind (endpoint : String) (source : IoError)
  /-- The socket cannot be set up. -/
  | configure (source : IoError)
  /-- The listener cannot be started. -/
  | spawn (source : IoError)
  /-- A fault ended the listener. -/
  | fault (fault : Fault)
  /-- The listener itself broke down. -/
  | threadPanic
  deriving DecidableEq, Repr

/-- The text of a listener's failure. -/
def ListenerError.message : ListenerError → String
  | .resolve endpoint source => "failed to resolve " ++ endpoint ++ ": " ++ source.message
  | .noAddress endpoint => endpoint ++ " resolved to no addresses"
  | .staleSocket endpoint stale => "cannot reuse " ++ endpoint ++ ": " ++ stale.message
  | .bind endpoint source => "failed to bind " ++ endpoint ++ ": " ++ source.message
  | .configure source => "failed to configure the listening socket: " ++ source.message
  | .spawn source => "failed to spawn listener thread: " ++ source.message
  | .fault reason => "listener stopped after an internal fault: " ++ reason.message
  | .threadPanic => "listener thread panicked"

/-- The texts of a listener's failure and of its causes. -/
def ListenerError.chain (error : ListenerError) : List String :=
  error.message :: match error with
    | .resolve _ source | .bind _ source | .configure source | .spawn source => [source.message]
    | .noAddress _ | .threadPanic => []
    | .staleSocket _ stale => stale.chain
    | .fault reason => [reason.message]

/-- Did the listener run before it failed? -/
def ListenerError.isInternalFault : ListenerError → Bool
  | .fault _ | .threadPanic => true
  | _ => false

/-! ## Binding -/

/-- The files and the network among which a service runs. -/
structure Surroundings where
  /-- The files. -/
  files : FileTree
  /-- The directory from which relative paths start. -/
  cwd : Place
  /-- The network. -/
  network : Network := {}
  deriving DecidableEq, Repr

/-- Claims an endpoint for a service that is named by a number. -/
def bind (service : Nat) (endpoint : Endpoint) (around : Surroundings) :
    Except ListenerError Unit × Surroundings × List Log.Event :=
  match endpoint with
  | .unix path =>
    match bindFile around.cwd path.toList service around.files with
    | (.ok (), files, events) => (.ok (), { around with files }, events)
    | (.error (.stale stale), files, events) =>
      (.error (.staleSocket endpoint.display stale), { around with files }, events)
    | (.error (.refused source), files, events) =>
      (.error (.bind endpoint.display source), { around with files }, events)
  | .tcp host port =>
    match around.network.resolve host with
    | .error source => (.error (.resolve endpoint.display source), around, [])
    | .ok address =>
      match around.network.listen address port.toNat with
      | .error source => (.error (.bind endpoint.display source), around, [])
      | .ok network => (.ok (), { around with network }, [])

/-- Gives an endpoint up. -/
def release (service : Nat) (endpoint : Endpoint) (around : Surroundings) :
    Surroundings × List Log.Event :=
  match endpoint with
  | .unix path =>
    let (files, events) := releaseFile around.cwd path.toList service around.files
    ({ around with files }, events)
  | .tcp host port =>
    let taken := match around.network.resolve host with
      | .ok address => around.network.taken.erase (address, port.toNat)
      | .error _ => around.network.taken
    ({ around with network := { around.network with taken } }, [])

/-! ## The serve loop -/

/-- What accepting gives. -/
inductive Accepted (κ : Type)
  /-- A connection. -/
  | connection (connection : κ)
  /-- Nobody is waiting. -/
  | nobody
  /-- Accepting failed. -/
  | failed (error : IoError)
  deriving DecidableEq, Repr

/-- What a serve loop does. -/
inductive LoopEffect (κ : Type)
  /-- It asked for a connection. -/
  | accepted (result : Accepted κ)
  /-- It had a connection handled. -/
  | handled (connection : κ) (result : Handled)
  /-- It wrote a log event. -/
  | logged (event : Log.Event)
  /-- It called the hook for faults. -/
  | hooked
  deriving DecidableEq, Repr

/-- How a serve loop has ended. -/
inductive LoopEnd
  /-- It was told to stop. -/
  | stopped
  /-- A fault ended it. -/
  | fault (fault : Fault)
  /-- A connection's handler never ends. -/
  | stuck
  deriving DecidableEq, Repr

/-- A serve loop: `τ` is the state that handling connections changes. -/
structure Loop (κ τ : Type) where
  /-- The state of the handler. -/
  state : τ
  /-- How many connections were handled. -/
  served : Nat := 0
  /-- The kind of the last failure to accept, if no connection came since. -/
  lastFailure : Option ErrorKind := none
  /-- How the loop has ended. -/
  ended : Option LoopEnd := none
  /-- All that it has done, the earliest first. -/
  trace : List (LoopEffect κ) := []

variable {κ τ : Type}

/-- Adds effects to the trace. -/
def Loop.note (loop : Loop κ τ) (effects : List (LoopEffect κ)) : Loop κ τ :=
  { loop with trace := loop.trace ++ effects }

/-- An event of the listener. -/
def transportEvent (level : Log.Level) (message : String) (fields : List (String × Log.Value)) :
    LoopEffect κ :=
  .logged ⟨level, transportTarget, message, fields⟩

/-- A loop before its first turn. -/
def Loop.start (endpoint : Endpoint) (state : τ) : Loop κ τ where
  state
  trace := [transportEvent .info "control socket accepting connections"
    [("endpoint", .shown endpoint.display)]]

/-- Has one connection handled.  A fault or a breakdown ends the loop, and the hook is called. -/
def Loop.serve (handle : κ → τ → Handled × τ) (loop : Loop κ τ) (connection : κ) : Loop κ τ :=
  let number := loop.served + 1
  let (result, state) := handle connection loop.state
  let loop := { loop with state, served := number, lastFailure := none }.note
    [transportEvent .debug "serving connection" [("connection", .number number)],
     .handled connection result]
  match result with
  | .done => loop
  | .stuck => { loop with ended := some .stuck }
  | .faulted fault => stop loop number fault
  | .panicked panic => stop loop number (.ofPanic panic)
where
  /-- Ends the loop after a fault. -/
  stop (loop : Loop κ τ) (number : Nat) (fault : Fault) : Loop κ τ :=
    { loop with ended := some (.fault fault) }.note
      [transportEvent .error "stopping listener after internal fault"
        [("connection", .number number), ("error", .shown fault.message)],
       .hooked]

/-- Notes a failure to accept.  Of failures of one kind in a row only the first is logged. -/
def Loop.fail (loop : Loop κ τ) (error : IoError) : Loop κ τ :=
  let logged : List (LoopEffect κ) :=
    if loop.lastFailure = some error.kind then []
    else [transportEvent .warn "failed to accept a connection" [("error", .shown error.message)]]
  { loop with lastFailure := some error.kind }.note logged

/-- One turn: `stop` tells whether the loop was told to stop, `accepted` what accepting would
    give.  A loop that has ended takes no more turns. -/
def Loop.turn (endpoint : Endpoint) (handle : κ → τ → Handled × τ) (loop : Loop κ τ)
    (stop : Bool) (accepted : Accepted κ) : Loop κ τ :=
  if loop.ended.isSome then loop
  else if stop then
    { loop with ended := some .stopped }.note
      [transportEvent .info "control socket closed"
        [("endpoint", .shown endpoint.display), ("connections", .number loop.served)]]
  else
    let loop := loop.note [.accepted accepted]
    match accepted with
    | .connection connection => loop.serve handle connection
    | .nobody => loop
    | .failed error => loop.fail error

/-- All turns of a loop. -/
def Loop.run (endpoint : Endpoint) (handle : κ → τ → Handled × τ)
    (turns : List (Bool × Accepted κ)) (loop : Loop κ τ) : Loop κ τ :=
  turns.foldl (fun loop (stop, accepted) => loop.turn endpoint handle stop accepted) loop

/-- Did the loop call the hook for faults? -/
def Loop.hooked (loop : Loop κ τ) : Bool :=
  loop.trace.any fun
    | .hooked => true
    | _ => false

/-- The result of waiting for a loop that has ended. -/
def LoopEnd.joined : LoopEnd → Except ListenerError Unit
  | .fault reason => .error (.fault reason)
  | _ => .ok ()

end MountControl.Service
