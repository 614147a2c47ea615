/-
  MountControl — the client as a program.

  This layer collects what a run needs — the arguments, the variables, and
  the settings files that may be read — and writes what the run shows.  It
  has no sockets: a run here sees an unreachable network and no socket file,
  so it ends where it would connect.
-/
import MountControl.Client.Session

namespace MountControl.Terminal

open Config (Argument Environment)
open Host (FileTree Place)

/-- Reads a file as bytes; nothing where that fails. -/
def readBytes (path : String) : IO (List UInt8) := do
  try return (← IO.FS.readBinFile path).toList
  catch _ => return []

/-- The variables of the process, from their listing: each has a name, a sign, and a text. -/
def variablesOf (listing : List UInt8) : List (String × String) :=
  (Text.fields '\x00' (Text.decodeLossy listing)).filterMap fun entry =>
    (Text.cut '=' entry).map fun (name, text) => (String.ofList name, String.ofList text)

/-- The number of the user, from the description of the process: the first of several on a line of
    their own. -/
def userOf (description : List UInt8) : Nat :=
  let numbers := (Text.fields '\n' (Text.decodeLossy description)).filterMap fun line =>
    match Text.fields '\t' line with
    | name :: number :: _ =>
      if name = "Uid:".toList then Text.Numeral.value? 10 number else none
    | _ => none
  numbers.headD 0

/-- The place of an absolute path. -/
def placeOf (path : List Char) : Place := (Text.fields '/' path).filter (!·.isEmpty)

/-- Adds a place and the directories above it, where nothing is yet. -/
def addPlace (tree : FileTree) (place : Place) (node : Host.Node) : FileTree :=
  let add (tree : FileTree) (place : Place) (node : Host.Node) :=
    if (tree.node? place).isSome then tree else tree.add place node
  let tree := (List.range place.length).foldl
    (fun tree count => add tree (place.take count) (.directory 0o755)) tree
  add tree place node

/-- Adds a settings file as it is on the disk, and those that it extends, `steps` at most. -/
def addFile (cwd : String) : (steps : Nat) → FileTree → (path : List Char) → IO FileTree
  | 0, tree, _ => return tree
  | steps + 1, tree, path => do
    let path := Host.Path.join cwd.toList path
    let place := placeOf path
    let file := (← IO.currentDir) / String.ofList path
    if ← file.isDir then return addPlace tree place (.directory 0o755)
    if !(← file.pathExists) then return tree
    let content ← readBytes (String.ofList path)
    let tree := addPlace tree place (.file content 0o644)
    match Config.parseFile place content with
    | .error _ => return tree
    | .ok value =>
      match value.get? Config.extendsKey with
      | some (.string base) => addFile cwd steps tree (Config.basePath place base)
      | _ => return tree

/-- How many settings files may extend each other. -/
def maxFiles : Nat := 64

/-- What a run of these arguments needs to know. -/
def surroundings (arguments : List Argument) : IO Client.Surroundings := do
  let env : Environment :=
    ⟨variablesOf (← readBytes "/proc/self/environ"), userOf (← readBytes "/proc/self/status")⟩
  let directory := (← IO.currentDir).toString
  let cwd := placeOf directory.toList
  let named := match Config.FlagSettings.parse ((Client.Arguments.split arguments).settings.drop 1)
    with
    | .ok flags => flags.path
    | .error _ => none
  let paths := match named with
    | some path => [path.toList]
    | none => env.candidates cwd
  let tree ← paths.foldlM (addFile directory maxFiles) (addPlace ⟨[]⟩ cwd (.directory 0o755))
  return ⟨env, tree, cwd, { reachable := false }⟩

end MountControl.Terminal

open MountControl in
/-- Runs the client with the arguments that follow the name of the program. -/
def main (arguments : List String) : IO UInt32 := do
  let arguments := ("btrmount" :: arguments).map Config.Argument.ofText
  let outcome := Client.run (← Terminal.surroundings arguments) {} (fun _ => { reads := [] })
    arguments
  (← IO.getStdout).putStr outcome.shown.out
  (← IO.getStderr).putStr outcome.shown.err
  return UInt32.ofNat outcome.status
