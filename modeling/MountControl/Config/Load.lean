/-
  MountControl — loading settings.

  Settings come in layers: defaults, a settings file, the environment, the
  command line; of each setting the last layer that has it counts.

  * `candidates` are the places where a settings file is looked for when
    none is named; the first that can be read is taken;
  * `loadFile` reads a settings file, under which it lays the one that it
    extends;
  * `load` is the whole.
-/
import MountControl.Config.Environment
import MountControl.Config.Flags
import MountControl.Config.Toml.Document
import MountControl.Host.FileTree

namespace MountControl.Config

open Host (FileTree IoError Place)

/-! ## Failures -/

/-- What is wrong with a settings file. -/
inductive FileFault
  /-- It was named but does not exist. -/
  | missing
  /-- It was named but is no file. -/
  | notRegular
  /-- It cannot be read. -/
  | unreadable (source : IoError)
  /-- It is not well formed. -/
  | malformed
  /-- It is of a format that is not supported. -/
  | unsupported (format : String)
  /-- The file to extend is named by something other than a text. -/
  | baseNotText (kind : String)
  /-- The file to extend has no name. -/
  | baseEmpty
  /-- The file to extend does not exist. -/
  | baseMissing (base referrer : String)
  /-- The file to extend is no file. -/
  | baseNotRegular
  deriving DecidableEq, Repr

/-- The text of a fault. -/
def FileFault.message : FileFault → String
  | .missing => "required configuration file not found"
  | .notRegular => "configuration path is not a regular file"
  | .unreadable source => source.message
  | .malformed => "TOML parse error\nthe file is not a TOML document"
  | .unsupported format =>
    format ++ " feature disabled: enable the '" ++ format ++ "' feature to support this file format"
  | .baseNotText kind => "'extends' key must be a string, but found type: " ++ kind
  | .baseEmpty => "'extends' key must be a non-empty string"
  | .baseMissing base referrer =>
    "extended configuration file '" ++ base ++ "' does not exist (referenced from '" ++ referrer
      ++ "')"
  | .baseNotRegular => "extended path is not a regular file"

/-- Why settings cannot be loaded. -/
inductive LoadError
  /-- The command line is not understood. -/
  | flags (error : FlagError)
  /-- A settings file cannot be used. -/
  | file (path : String) (fault : FileFault)
  /-- Settings files extend each other in a circle. -/
  | cyclicExtends (cycle : List String)
  /-- The layers together are not understood. -/
  | merge (error : DecodeError)
  /-- Several things are wrong. -/
  | aggregate (errors : List LoadError)
  deriving Repr, Inhabited

mutual

/-- The text of a failure. -/
def LoadError.message : LoadError → String
  | .flags error => "Failed to parse command-line arguments: " ++ error.message
  | .file path fault => "Configuration file error in '" ++ path ++ "': " ++ fault.message
  | .cyclicExtends cycle => "Cyclic extends detected: " ++ " -> ".intercalate cycle
  | .merge error => "Failed to merge CLI with configuration: " ++ error.message
  | .aggregate errors => "multiple configuration errors:" ++ numbered 1 errors

/-- The texts of failures on lines of their own, with their numbers. -/
def numbered (first : Nat) : List LoadError → String
  | [] => ""
  | error :: errors =>
    "\n" ++ Text.Numeral.decimalString first ++ ": " ++ error.message ++ numbered (first + 1) errors

end

/-- Some failures as one. -/
def LoadError.ofList? : List LoadError → Option LoadError
  | [] => none
  | [error] => some error
  | errors => some (.aggregate errors)

/-! ## Settings files -/

/-- The absolute path of a place. -/
def placeName (place : Place) : String := String.ofList (Host.Path.absolute place)

/-- The kind of a value that should have been a text. -/
def Value.kindName : Value → String
  | .null => "null"
  | .bool _ => "bool"
  | .integer _ => "number"
  | .fraction _ => "number"
  | .string _ => "string"
  | .list _ => "array"
  | .map _ => "object"

/-- The key under which a settings file names the one that it extends. -/
def extendsKey : String := "extends"

/-- Understands the content of a settings file, whose format its name tells. -/
def parseFile (place : Place) (content : List UInt8) : Except FileFault Value :=
  match Text.decode? content with
  | none => .error (.unreadable (.described .invalidData "stream did not contain valid UTF-8"))
  | some text =>
    let extension := (Host.Path.extension? (Host.Path.absolute place)).map fun e =>
      String.ofList (e.map Char.toLower)
    if extension ∈ [some "json", some "json5"] then .error (.unsupported "json5")
    else if extension ∈ [some "yaml", some "yml"] then .error (.unsupported "yaml")
    else
      match Toml.parse text with
      | some value => .ok value
      | none => .error .malformed

/-- The path of a file that is named in the settings file at a place. -/
def basePath (place : Place) (base : String) : List Char :=
  Host.Path.join (Host.Path.absolute place.dropLast) base.toList

/-- The place of the file that another one extends. -/
def baseOf (tree : FileTree) (place : Place) (value : Value) : Except LoadError (Option Place) :=
  let fail (path : String) (fault : FileFault) := Except.error (LoadError.file path fault)
  match value.get? extendsKey with
  | none => .ok none
  | some (.string "") => fail (placeName place) .baseEmpty
  | some (.string base) =>
    let path := basePath place base
    match tree.stat true [] path with
    | .ok (base, .file ..) => .ok (some base)
    | .ok (base, _) => fail (placeName base) .baseNotRegular
    | .error error =>
      if error.kind = .notFound then
        fail (String.ofList path) (.baseMissing (String.ofList path) (placeName place))
      else fail (String.ofList path) (.unreadable error)
  | some other => fail (placeName place) (.baseNotText other.kindName)

/-- Reads the settings file at a place, laid over the one that it extends; `front` are the places
    of those that extend it, and `steps` bounds how many more there are. -/
def loadPlace (tree : FileTree) : (steps : Nat) → (front : List Place) → Place →
    Except LoadError Value
  | 0, front, place => .error (.cyclicExtends ((front ++ [place]).map placeName))
  | steps + 1, front, place =>
    if place ∈ front then .error (.cyclicExtends ((front ++ [place]).map placeName))
    else
      match tree.read [] (Host.Path.absolute place) with
      | .error error => .error (.file (placeName place) (.unreadable error))
      | .ok content =>
        match parseFile place content with
        | .error fault => .error (.file (placeName place) fault)
        | .ok value =>
          match baseOf tree place value with
          | .error error => .error error
          | .ok none => .ok value
          | .ok (some base) => (loadPlace tree steps (front ++ [place]) base).map value.over

/-- Reads a settings file; nothing where there is no file. -/
def loadFile (tree : FileTree) (cwd : Place) (path : List Char) :
    Except LoadError (Option Value) :=
  match tree.stat true cwd path with
  | .ok (place, .file ..) => (loadPlace tree (tree.nodes.length + 1) [] place).map some
  | _ => .ok none

/-- Reads a settings file that has to exist. -/
def loadRequired (tree : FileTree) (cwd : Place) (path : String) : Except LoadError Value :=
  match loadFile tree cwd path.toList with
  | .error error => .error error
  | .ok (some value) => .ok value
  | .ok none =>
    .error (.file path (if tree.has cwd path.toList then .notRegular else .missing))

/-! ## Where settings files are looked for -/

/-- The two paths of a settings file below a directory for settings. -/
def below (directory : List Char) : List (List Char) :=
  [Host.Path.join (Host.Path.join directory "btrmount".toList) "config.toml".toList,
   Host.Path.join directory ".btrmount.toml".toList]

/-- The path of a settings file in a directory. -/
def hidden (directory : List Char) : List Char :=
  Host.Path.join directory ".btrmount.toml".toList

/-- The paths where a settings file is looked for, in order. -/
def Environment.candidates (env : Environment) (cwd : Place) : List (List Char) :=
  ((env.get? "BTRMOUNT_CONFIG_PATH").map String.toList).toList
    ++ ((env.get? "XDG_CONFIG_HOME").toList.flatMap fun base => below base.toList)
    ++ ((Text.fields ':' ((env.get? "XDG_CONFIG_DIRS").getD "/etc/xdg").toList).flatMap below)
    ++ ((env.get? "HOME").toList.flatMap fun home =>
      (below (Host.Path.join home.toList ".config".toList)).take 1 ++ [hidden home.toList])
    ++ [hidden (Host.Path.absolute cwd)]

/-- The first settings file that can be read; the failures count only where there is none. -/
def loadFirst (tree : FileTree) (cwd : Place) :
    List (List Char) → List LoadError → Except LoadError (Option Value)
  | [], errors =>
    match LoadError.ofList? errors with
    | some error => .error error
    | none => .ok none
  | path :: paths, errors =>
    match loadFile tree cwd path with
    | .ok (some value) => .ok (some value)
    | .ok none => loadFirst tree cwd paths errors
    | .error error => loadFirst tree cwd paths (errors ++ [error])

/-- The settings file that is named, or else the first that is found. -/
def chooseFile (named : Option String) (env : Environment) (tree : FileTree) (cwd : Place) :
    Except LoadError (Option Value) :=
  match named with
  | some path => (loadRequired tree cwd path).map some
  | none => loadFirst tree cwd (env.candidates cwd) []

/-! ## All layers -/

/-- Loads settings; the first argument is the name of the program. -/
def load (arguments : List Argument) (env : Environment) (tree : FileTree) (cwd : Place) :
    Except LoadError Settings :=
  let (flags, flagErrors) := match FlagSettings.parse (arguments.drop 1) with
    | .ok flags => (flags, [])
    | .error error => ({}, [LoadError.flags error])
  let (file, fileErrors) := match chooseFile flags.path env tree cwd with
    | .ok file => (file.toList, [])
    | .error error => ([], [error])
  let layers := env.defaults.value :: file ++ [env.settings, .map flags.entries]
  let merged := layers.foldl (fun lower upper => upper.over lower) (.map [])
  match merged.asSettings env.defaults with
  | .ok settings =>
    match LoadError.ofList? (flagErrors ++ fileErrors) with
    | none => .ok settings
    | some error => .error error
  | .error error =>
    .error ((LoadError.ofList? (flagErrors ++ fileErrors ++ [.merge error])).getD (.merge error))

end MountControl.Config
