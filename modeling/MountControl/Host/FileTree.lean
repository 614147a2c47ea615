/-
  MountControl — a tree of files.

  A `FileTree` tells what is at each place; a place is the list of names on
  the way down from the root.  A path leads to a place by `walk`, which goes
  through links, `.` and `..` as the system does, and every call of the
  system is a function on trees: it fails with the system's error, or gives
  the tree after it.
-/
import MountControl.Host.IoError
import MountControl.Host.Path
import MountControl.Text.Utf8

namespace MountControl.Host

/-- The names on the way down from the root. -/
abbrev Place := List (List Char)

/-- What is at a place. -/
inductive Node
  /-- A file. -/
  | file (content : List UInt8) (mode : Nat)
  /-- A directory. -/
  | directory (mode : Nat)
  /-- A symbolic link. -/
  | link (target : List Char)
  /-- A socket, and who listens on it. -/
  | socket (listener : Option Nat)
  /-- A socket for single datagrams. -/
  | datagram
  /-- A device. -/
  | device
  deriving DecidableEq, Repr

/-- Type and permissions of a node as one number. -/
def Node.modeWord : Node → Nat
  | .file _ mode => 0o100000 + mode
  | .directory mode => 0o040000 + mode
  | .link _ => 0o120777
  | .socket _ => 0o140755
  | .datagram => 0o140755
  | .device => 0o020666

/-- What is at each place but the root, which is always a directory. -/
structure FileTree where
  /-- The places in the order in which they came to be. -/
  nodes : List (Place × Node)
  deriving DecidableEq, Repr

/-- What is at a place. -/
def FileTree.node? (tree : FileTree) (place : Place) : Option Node :=
  if place = [] then some (.directory 0o755)
  else (tree.nodes.find? (·.1 = place)).map (·.2)

/-- Puts a node where nothing is. -/
def FileTree.add (tree : FileTree) (place : Place) (node : Node) : FileTree :=
  ⟨tree.nodes ++ [(place, node)]⟩

/-- Takes a place away. -/
def FileTree.erase (tree : FileTree) (place : Place) : FileTree :=
  ⟨tree.nodes.filter (·.1 ≠ place)⟩

/-! ## From paths to places -/

/-- Error numbers. -/
def noEntry : IoError := .system 2
@[inherit_doc noEntry] def alreadyThere : IoError := .system 17
@[inherit_doc noEntry] def notDirectory : IoError := .system 20
@[inherit_doc noEntry] def isADirectory : IoError := .system 21
@[inherit_doc noEntry] def nameTooLong : IoError := .system 36
@[inherit_doc noEntry] def tooManyLinks : IoError := .system 40
@[inherit_doc noEntry] def wrongProtocol : IoError := .system 91
@[inherit_doc noEntry] def addressInUse : IoError := .system 98
@[inherit_doc noEntry] def connectionRefused : IoError := .system 111

/-- The most bytes of a name. -/
def maxNameBytes : Nat := 255

/-- The number of bytes from which on a path is too long. -/
def maxPathBytes : Nat := 4096

/-- The most bytes of a socket's path, with its end. -/
def maxSocketPathBytes : Nat := 108

/-- How many links are followed on one way. -/
def maxLinks : Nat := 40

/-- Goes down from a place along some components.  The last name need not exist; of a link there,
    `follow` says whether to go on. -/
def FileTree.walk (tree : FileTree) (follow : Bool) (links : Nat) (place : Place)
    (todo : List (List Char)) : Except IoError Place :=
  match todo with
  | [] => .ok place
  | name :: rest =>
    match tree.node? place with
    | none => .error noEntry
    | some (.directory _) =>
      if name = [] ∨ name = ['.'] then walk tree follow links place rest
      else if name = ['.', '.'] then walk tree follow links place.dropLast rest
      else if maxNameBytes < Text.byteLength name then .error nameTooLong
      else
        match tree.node? (place ++ [name]) with
        | some (.link target) =>
          if rest = [] ∧ follow = false then .ok (place ++ [name])
          else if _h : links = 0 then .error tooManyLinks
          else
            walk tree follow (links - 1) (if Path.isAbsolute target then [] else place)
              (Path.components target ++ rest)
        | _ => walk tree follow links (place ++ [name]) rest
    | some _ => .error notDirectory
termination_by (links, todo.length)

/-- The place to which a path leads from a directory. -/
def FileTree.locate (tree : FileTree) (follow : Bool) (cwd : Place) (path : List Char) :
    Except IoError Place :=
  if '\x00' ∈ path then
    .error (.described .invalidInput "file name contained an unexpected NUL byte")
  else if path = [] then .error noEntry
  else if maxPathBytes ≤ Text.byteLength path then .error nameTooLong
  else
    tree.walk follow maxLinks (if Path.isAbsolute path then [] else cwd) (Path.components path)

/-- What a path leads to. -/
def FileTree.stat (tree : FileTree) (follow : Bool) (cwd : Place) (path : List Char) :
    Except IoError (Place × Node) :=
  match tree.locate follow cwd path with
  | .error error => .error error
  | .ok place =>
    match tree.node? place with
    | none => .error noEntry
    | some node => .ok (place, node)

/-- Does a path lead to anything? -/
def FileTree.has (tree : FileTree) (cwd : Place) (path : List Char) : Bool :=
  (tree.stat true cwd path).toBool

/-- Does a path lead to a directory? -/
def FileTree.isDirectory (tree : FileTree) (cwd : Place) (path : List Char) : Bool :=
  match tree.stat true cwd path with
  | .ok (_, .directory _) => true
  | _ => false

/-- The content of a file. -/
def FileTree.read (tree : FileTree) (cwd : Place) (path : List Char) :
    Except IoError (List UInt8) :=
  match tree.stat true cwd path with
  | .error error => .error error
  | .ok (_, .file content _) => .ok content
  | .ok (_, .directory _) => .error isADirectory
  | .ok (_, .device) => .ok []
  | .ok _ => .error (.system 6)

/-! ## Changes -/

/-- The permissions that no new file or directory has. -/
def umask : Nat := 0o022

/-- Makes a directory. -/
def FileTree.mkdir (tree : FileTree) (cwd : Place) (mode : Nat) (path : List Char) :
    Except IoError FileTree :=
  match tree.locate false cwd path with
  | .error error => .error error
  | .ok place =>
    match tree.node? place with
    | some _ => .error alreadyThere
    | none => .ok (tree.add place (.directory (mode - (mode &&& umask))))

/-- Makes the first of some directories that can be made, looking upwards; also the directories
    below it that are still to be made, the uppermost first. -/
def FileTree.climb (tree : FileTree) (cwd : Place) (mode : Nat) :
    List (List Char) → (pending : List (List Char)) →
      Except IoError (FileTree × List (List Char))
  | [], pending => .ok (tree, pending)
  | path :: above, pending =>
    if path = [] ∨ (Path.parent? path).isNone then .ok (tree, pending)
    else
      match tree.mkdir cwd mode path with
      | .ok tree => .ok (tree, pending)
      | .error error =>
        if error.kind = .notFound then climb tree cwd mode above (path :: pending)
        else if error.kind = .alreadyExists ∧ tree.isDirectory cwd path then .ok (tree, pending)
        else .error error

/-- Makes some directories, each below the one before it. -/
def FileTree.descend (tree : FileTree) (cwd : Place) (mode : Nat) :
    List (List Char) → Except IoError Unit × FileTree
  | [] => (.ok (), tree)
  | path :: below =>
    match tree.mkdir cwd mode path with
    | .ok tree => descend tree cwd mode below
    | .error error =>
      if error.kind = .alreadyExists ∧ tree.isDirectory cwd path then descend tree cwd mode below
      else (.error error, tree)

/-- Makes a directory and those above it that are missing. -/
def FileTree.mkdirAll (tree : FileTree) (cwd : Place) (mode : Nat) (path : List Char) :
    Except IoError Unit × FileTree :=
  match tree.climb cwd mode (Path.ancestors path) [] with
  | .error error => (.error error, tree)
  | .ok (tree, pending) => tree.descend cwd mode pending

/-- Removes a file, a link or a socket. -/
def FileTree.unlink (tree : FileTree) (cwd : Place) (path : List Char) : Except IoError FileTree :=
  match tree.stat false cwd path with
  | .error error => .error error
  | .ok (_, .directory _) => .error isADirectory
  | .ok (place, _) => .ok (tree.erase place)

/-! ## Sockets -/

/-- Paths of sockets must be shorter than other paths; a name that is no path has no end to be
    marked. -/
def checkSocketPath (path : List Char) : Except IoError Unit :=
  let length := Text.byteLength path + (if path.head? = some '\x00' then 0 else 1)
  if maxSocketPathBytes < length then
    .error (.described .invalidInput "path must be shorter than SUN_LEN")
  else .ok ()

/-- Makes a socket on which `owner` listens.  The system chooses a name of its own, which is no
    file, where none is given. -/
def FileTree.listen (tree : FileTree) (cwd : Place) (owner : Nat) (path : List Char) :
    Except IoError FileTree :=
  match checkSocketPath path with
  | .error error => .error error
  | .ok () =>
    if path.isEmpty then .ok tree
    else match tree.locate false cwd path with
    | .error error => .error error
    | .ok place =>
      match tree.node? place with
      | some _ => .error addressInUse
      | none => .ok (tree.add place (.socket (some owner)))

/-- Connects to the socket at a path: the one who listens there.  Only what stands before a NUL
    counts; a path that starts with one names no file, and nobody listens there. -/
def FileTree.connect (tree : FileTree) (cwd : Place) (path : List Char) : Except IoError Nat :=
  match checkSocketPath path, path.takeWhile (· ≠ '\x00') with
  | .error error, _ => .error error
  | .ok (), [] => if path.isEmpty then .error (.system 22) else .error connectionRefused
  | .ok (), named =>
    match tree.stat true cwd named with
    | .error error => .error error
    | .ok (_, .socket (some owner)) => .ok owner
    | .ok (_, .datagram) => .error wrongProtocol
    | .ok _ => .error connectionRefused

/-- Lets `owner` stop listening, wherever it does. -/
def FileTree.hangUp (tree : FileTree) (owner : Nat) : FileTree :=
  ⟨tree.nodes.map fun (place, node) =>
    (place, if node = .socket (some owner) then .socket none else node)⟩

end MountControl.Host
