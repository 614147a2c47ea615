/-
  MountControl — the file of the control socket.

  The service owns its socket file from the moment it listens on it until it
  stops.  A file that a dead service has left is replaced, but only after
  nobody has answered on it.  Binding and releasing the file are sequences
  of single calls of the system: `Phase` is how far a service has come, and
  `Phase.step` the next call.
-/
import MountControl.Host.FileTree
import MountControl.Log.Event

namespace MountControl.Service

open Host (FileTree IoError Node Place)

/-- Why a file that is in the way cannot be replaced. -/
inductive StaleSocket
  /-- Somebody answers on it. -/
  | inUse
  /-- It is no socket. -/
  | notSocket
  /-- It cannot be examined. -/
  | inspect (source : IoError)
  /-- Whether anybody answers cannot be told. -/
  | connect (source : IoError)
  /-- It cannot be removed. -/
  | remove (source : IoError)
  deriving DecidableEq, Repr

/-- The text of a file that is in the way. -/
def StaleSocket.message : StaleSocket → String
  | .inUse => "another process is already listening"
  | .notSocket => "the path exists and is not a socket"
  | .inspect source => "failed to inspect the existing path: " ++ source.message
  | .connect source => "failed to connect to the existing socket: " ++ source.message
  | .remove source => "failed to remove the dead socket: " ++ source.message

/-- The text of a file that is in the way and of its cause. -/
def StaleSocket.chain (stale : StaleSocket) : List String :=
  match stale with
  | .inUse | .notSocket => [stale.message]
  | .inspect source | .connect source | .remove source => [stale.message, source.message]

/-- Why a socket file cannot be bound. -/
inductive BindError
  /-- A file is in the way. -/
  | stale (stale : StaleSocket)
  /-- The system refuses. -/
  | refused (source : IoError)
  deriving DecidableEq, Repr

/-- How far a service has come with its socket file. -/
inductive Phase
  /-- It is about to look what is at the path. -/
  | inspecting
  /-- It has found a socket and is about to connect to it. -/
  | connecting
  /-- Nobody has answered; it is about to remove the file. -/
  | removing
  /-- It is about to listen at the path. -/
  | binding
  /-- It listens. -/
  | bound
  /-- It is about to stop listening. -/
  | closing
  /-- It no longer listens and is about to remove the file. -/
  | unlinking
  /-- It has stopped. -/
  | released
  /-- It could not bind the file. -/
  | failed (error : BindError)
  deriving DecidableEq, Repr

/-- The component that logs what happens to the socket. -/
def transportTarget : String := "btrmountd::transport"

/-- The log event about a path. -/
def pathEvent (level : Log.Level) (message : String) (path : List Char)
    (more : List (String × Log.Value)) : Log.Event :=
  ⟨level, transportTarget, message, ("path", .shown (String.ofList path)) :: more⟩

/-- Is the node a socket of any kind? -/
def isSocket : Node → Bool
  | .socket _ | .datagram => true
  | _ => false

/-- The next call of a service that is named by a number: how far it has come then, what has
    become of the files, and what it logs.  A service that listens, has stopped or has failed
    does nothing on its own. -/
def Phase.step (cwd : Place) (path : List Char) (service : Nat) (phase : Phase)
    (tree : FileTree) : Phase × FileTree × List Log.Event :=
  match phase with
  | .inspecting =>
    match tree.stat false cwd path with
    | .error error =>
      if error.kind = .notFound then (.binding, tree, [])
      else (.failed (.stale (.inspect error)), tree, [])
    | .ok (_, node) =>
      if isSocket node then (.connecting, tree, []) else (.failed (.stale .notSocket), tree, [])
  | .connecting =>
    match tree.connect cwd path with
    | .ok _ => (.failed (.stale .inUse), tree, [])
    | .error error =>
      if error.kind = .connectionRefused ∨ error.kind = .notFound then
        (.removing, tree, [pathEvent .debug "replacing dead control socket" path []])
      else (.failed (.stale (.connect error)), tree, [])
  | .removing =>
    match tree.unlink cwd path with
    | .ok tree => (.binding, tree, [])
    | .error error => (.failed (.stale (.remove error)), tree, [])
  | .binding =>
    match tree.listen cwd service path with
    | .ok tree => (.bound, tree, [])
    | .error error => (.failed (.refused error), tree, [])
  | .closing => (.unlinking, tree.hangUp service, [])
  | .unlinking =>
    match tree.unlink cwd path with
    | .ok tree => (.released, tree, [pathEvent .debug "removed control socket" path []])
    | .error error =>
      if error.kind = .notFound then (.released, tree, [])
      else
        (.released, tree, [pathEvent .warn "failed to remove control socket" path
          [("error", .shown error.message)]])
  | .bound | .released | .failed _ => (phase, tree, [])

/-- A number of steps in a row. -/
def Phase.steps (cwd : Place) (path : List Char) (service : Nat) :
    (count : Nat) → Phase → FileTree → Phase × FileTree × List Log.Event
  | 0, phase, tree => (phase, tree, [])
  | count + 1, phase, tree =>
    let (phase, tree, events) := phase.step cwd path service tree
    let (phase, tree, later) := steps cwd path service count phase tree
    (phase, tree, events ++ later)

/-- Binds a socket file, which takes no more than four calls. -/
def bindFile (cwd : Place) (path : List Char) (service : Nat) (tree : FileTree) :
    Except BindError Unit × FileTree × List Log.Event :=
  match Phase.steps cwd path service 4 .inspecting tree with
  | (.failed error, tree, events) => (.error error, tree, events)
  | (_, tree, events) => (.ok (), tree, events)

/-- Stops listening and removes the socket file. -/
def releaseFile (cwd : Place) (path : List Char) (service : Nat) (tree : FileTree) :
    FileTree × List Log.Event :=
  (Phase.steps cwd path service 2 .closing tree).2

end MountControl.Service
