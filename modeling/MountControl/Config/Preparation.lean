/-
  MountControl — the directory of the control socket.

  Before the service listens on a socket file, the directory of the file has
  to exist.  `prepare` makes it, open to its owner only, and leaves whatever
  exists as it is.
-/
import MountControl.Config.Endpoint
import MountControl.Host.FileTree

namespace MountControl.Config

open Host (FileTree IoError Place)

/-- Why a directory cannot be prepared. -/
inductive PreparationError
  /-- The path of the socket names no directory. -/
  | missingParent (path : String)
  /-- Something other than a directory is in the way. -/
  | notADirectory (path : String)
  /-- The directory could not be made. -/
  | createDirectory (path : String) (source : IoError)
  deriving DecidableEq, Repr

/-- The text of a failed preparation. -/
def PreparationError.message : PreparationError → String
  | .missingParent path => "socket path '" ++ path ++ "' has no parent directory"
  | .notADirectory path => "socket directory '" ++ path ++ "' exists and is not a directory"
  | .createDirectory path source =>
    "failed to create socket directory '" ++ path ++ "': " ++ source.message

/-- The text of a failed preparation and of its cause. -/
def PreparationError.chain (error : PreparationError) : List String :=
  match error with
  | .createDirectory _ source => [error.message, source.message]
  | _ => [error.message]

/-- The directory of a socket file. -/
def socketDirectory? (path : String) : Option (List Char) :=
  (Host.Path.parent? path.toList).filter (!·.isEmpty)

/-- The permissions of a directory that is open to its owner only. -/
def privateMode : Nat := 0o700

/-- Prepares the directory of a socket file; a network endpoint needs none. -/
def Endpoint.prepare (endpoint : Endpoint) (cwd : Place) (tree : FileTree) :
    Except PreparationError Unit × FileTree :=
  match endpoint with
  | .tcp .. => (.ok (), tree)
  | .unix path =>
    match socketDirectory? path with
    | none => (.error (.missingParent path), tree)
    | some directory =>
      if tree.isDirectory cwd directory then (.ok (), tree)
      else if tree.has cwd directory then
        (.error (.notADirectory (String.ofList directory)), tree)
      else
        match tree.mkdirAll cwd privateMode directory with
        | (.ok (), tree) => (.ok (), tree)
        | (.error error, tree) =>
          (.error (.createDirectory (String.ofList directory) error), tree)

end MountControl.Config
