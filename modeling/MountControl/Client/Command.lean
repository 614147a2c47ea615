/-
  MountControl — the client's commands.

  A command has a name, flags, and words: `mount` a mount point and at least
  one device, `list` none, `unmount` a mount point.  Arguments are taken one
  after the other, so of two mistakes, or of a mistake and a call for help,
  the first counts; only what is missing, and flags that exclude each other,
  are found at the end.
-/
import MountControl.Config.Flags
import MountControl.Volume.Options
import MountControl.Wire.Request

namespace MountControl.Client

open Config (Argument)
open Volume (OptionsError RawOptions)
open Wire (Request)

/-- A command. -/
inductive Command
  /-- Mount a volume. -/
  | mount (options : RawOptions)
  /-- List the volumes. -/
  | list
  /-- Unmount a volume. -/
  | unmount (mountPoint : String)
  deriving DecidableEq, Repr

/-- The name of a command. -/
def Command.name : Command → String
  | .mount _ => "mount"
  | .list => "list"
  | .unmount _ => "unmount"

/-- The request that a command sends; mount options are validated before. -/
def Command.request : Command → Except OptionsError Request
  | .mount raw =>
    match raw.validate with
    | .error error => .error error
    | .ok options => .ok (.ofOptions options)
  | .list => .ok .list
  | .unmount mountPoint => .ok (.ofMountPoint mountPoint)

/-- Why a command line is no command. -/
inductive UsageError
  /-- There is no command. -/
  | noCommand
  /-- There is no command of this name. -/
  | unknownCommand (name : String)
  /-- An argument is not expected. -/
  | unexpected (argument : String)
  /-- A flag has no value. -/
  | missingValue (flag : String)
  /-- A flag takes no value but has one. -/
  | extraValue (flag : String)
  /-- A flag is given more than once. -/
  | repeated (flag : String)
  /-- The value of a flag cannot be read. -/
  | invalidValue (flag : String)
  /-- An argument is no text. -/
  | notText
  /-- A word is missing. -/
  | missingWord (name : String)
  /-- Two flags exclude each other. -/
  | excluded (flag other : String)
  deriving DecidableEq, Repr

/-- The text of a mistake. -/
def UsageError.message : UsageError → String
  | .noCommand => "error: a command is required"
  | .unknownCommand name => "error: unrecognized command '" ++ name ++ "'"
  | .unexpected argument => "error: unexpected argument '" ++ argument ++ "' found"
  | .missingValue flag => "error: a value is required for '" ++ flag ++ "'"
  | .extraValue flag => "error: '" ++ flag ++ "' takes no value"
  | .repeated flag => "error: the argument '" ++ flag ++ "' cannot be used multiple times"
  | .invalidValue flag => "error: invalid value for '" ++ flag ++ "'"
  | .notText => "error: an argument is not valid UTF-8"
  | .missingWord name => "error: the required argument " ++ name ++ " was not provided"
  | .excluded flag other =>
    "error: the argument '" ++ flag ++ "' cannot be used with '" ++ other ++ "'"

/-- What a command line asks for. -/
inductive Asked
  /-- To run a command. -/
  | run (command : Command)
  /-- For help. -/
  | help
  /-- For the version. -/
  | version
  deriving DecidableEq, Repr

/-! ## Arguments of a command -/

/-- What has been read of a command's arguments. -/
structure Words where
  /-- The flags and words as mount options. -/
  options : RawOptions := {}
  /-- The words, in the order given. -/
  words : List String := []
  deriving DecidableEq, Repr

/-- A command's own syntax. -/
structure Grammar where
  /-- Its flags with values: a name, and how a value is taken. -/
  valued : List (String × (String → RawOptions → Except UsageError RawOptions))
  /-- Its flags without values. -/
  plain : List (String × (RawOptions → Except UsageError RawOptions))
  /-- The most words that it takes; none for any number. -/
  most : Option Nat

/-- Takes a value for a flag that may be given once. -/
def once {α : Type} (flag : String) (old : Option α) (new : α) : Except UsageError (Option α) :=
  match old with
  | some _ => .error (.repeated flag)
  | none => .ok (some new)

/-- The syntax of `mount`. -/
def Grammar.mount : Grammar where
  valued := [
    ("--subvol", fun value o =>
      (once "--subvol" o.subvolName value).map ({ o with subvolName := · })),
    ("--subvol-id", fun value o =>
      match Text.Numeral.unsigned? UInt64.size value.toList with
      | none => .error (.invalidValue "--subvol-id")
      | some n =>
        (once "--subvol-id" o.subvolId (UInt64.ofNat n)).map ({ o with subvolId := · })),
    ("--dump", fun value o =>
      (once "--dump" o.dumpTarget value).map ({ o with dumpTarget := · }))]
  plain := [
    ("--test-run", fun o =>
      if o.testRun then .error (.repeated "--test-run") else .ok { o with testRun := true })]
  most := none

/-- The syntax of a command without flags. -/
def Grammar.wordsOnly (most : Nat) : Grammar := ⟨[], [], some most⟩

/-- Takes a word. -/
def Words.add (grammar : Grammar) (so : Words) (argument : Argument) :
    Except UsageError Words :=
  match Text.decode? argument with
  | none => .error .notText
  | some text =>
    if grammar.most.any (· ≤ so.words.length) then .error (.unexpected (String.ofList text))
    else .ok { so with words := so.words ++ [String.ofList text] }

/-- Takes the value of a flag. -/
def Words.set (take : String → RawOptions → Except UsageError RawOptions) (so : Words)
    (value : Argument) : Except UsageError Words :=
  match Text.decode? value with
  | none => .error .notText
  | some text => (take (String.ofList text) so.options).map ({ so with options := · })

/-- How reading arguments ends. -/
inductive Reading
  /-- All are read. -/
  | words (words : Words)
  /-- Help is asked for. -/
  | help
  deriving DecidableEq, Repr

/-- Reads words only. -/
def readWords (grammar : Grammar) (so : Words) (arguments : List Argument) :
    Except UsageError Reading :=
  (arguments.foldlM (Words.add grammar) so).map .words

/-- What an argument with the form of a flag is. -/
inductive FlagKind
  /-- A flag with a value, and the value if it is in the same argument. -/
  | valued (name : String) (take : String → RawOptions → Except UsageError RawOptions)
    (inline? : Option Argument)
  /-- A flag without a value. -/
  | plain (take : RawOptions → Except UsageError RawOptions)
  /-- A call for help. -/
  | help
  /-- A mistake. -/
  | wrong (error : UsageError)

/-- What an argument with the form of a flag is. -/
def Grammar.flag (grammar : Grammar) (argument : Argument) : FlagKind :=
  let name := argument.takeWhile (· != Config.equals)
  let inline? := if name = argument then none else some (argument.drop (name.length + 1))
  match grammar.valued.find? (Argument.ofText ·.1 = name),
      grammar.plain.find? (Argument.ofText ·.1 = name), inline? with
  | some (flag, take), _, inline? => .valued flag take inline?
  | none, some (_, take), none => .plain take
  | none, some (flag, _), some _ => .wrong (.extraValue flag)
  | none, none, _ =>
    if argument = .ofText "--help" ∨ (Argument.ofText "-h").isPrefixOf argument then .help
    else .wrong (.unexpected argument.lossy)

/-- Reads the arguments of a command. -/
def readArguments (grammar : Grammar) (so : Words) : List Argument → Except UsageError Reading
  | [] => .ok (.words so)
  | argument :: rest =>
    if argument.isEnd then readWords grammar so rest
    else if !argument.isFlag then
      match so.add grammar argument with
      | .error error => .error error
      | .ok so => readArguments grammar so rest
    else
      match grammar.flag argument with
      | .wrong error => .error error
      | .help => .ok .help
      | .plain take =>
        match take so.options with
        | .error error => .error error
        | .ok options => readArguments grammar { so with options } rest
      | .valued _ take (some value) =>
        match so.set take value with
        | .error error => .error error
        | .ok so => readArguments grammar so rest
      | .valued name take none =>
        match rest with
        | [] => .error (.missingValue name)
        | value :: rest =>
          if value.isFlag then .error (.missingValue name)
          else
            match so.set take value with
            | .error error => .error error
            | .ok so => readArguments grammar so rest

/-- The mount command of its flags and words. -/
def Words.mount (so : Words) : Except UsageError Command :=
  match so.words with
  | [] => .error (.missingWord "<MOUNT_POINT>")
  | [_] => .error (.missingWord "<DEVICE>...")
  | mountPoint :: devices =>
    if so.options.subvolName.isSome ∧ so.options.subvolId.isSome then
      .error (.excluded "--subvol" "--subvol-id")
    else .ok (.mount { so.options with mountPoint := some mountPoint, devices })

/-- The unmount command of its words. -/
def Words.unmount (so : Words) : Except UsageError Command :=
  match so.words with
  | [mountPoint] => .ok (.unmount mountPoint)
  | _ => .error (.missingWord "<MOUNT_POINT>")

/-- A command from its arguments. -/
def readCommand (grammar : Grammar) (make : Words → Except UsageError Command)
    (arguments : List Argument) : Except UsageError Asked :=
  match readArguments grammar {} arguments with
  | .error error => .error error
  | .ok .help => .ok .help
  | .ok (.words so) => (make so).map .run

/-! ## Whole command lines -/

/-- Reads a command line after the name of the program. -/
def Asked.parse : List Argument → Except UsageError Asked
  | [] => .error .noCommand
  | argument :: rest =>
    if argument = .ofText "mount" then readCommand .mount Words.mount rest
    else if argument = .ofText "list" then readCommand (.wordsOnly 0) (fun _ => .ok .list) rest
    else if argument = .ofText "unmount" then readCommand (.wordsOnly 1) Words.unmount rest
    else if argument = .ofText "--help" then .ok .help
    else if argument = .ofText "--version" then .ok .version
    else if (Argument.ofText "-h").isPrefixOf argument then .ok .help
    else if (Argument.ofText "-V").isPrefixOf argument then .ok .version
    else if argument.isFlag then .error (.unexpected argument.lossy)
    else .error (.unknownCommand argument.lossy)

/-- How to use the client. -/
def usageLine : String :=
  "Usage: btrmount [SETTINGS] <COMMAND>\n"

/-- What is said to a call for help. -/
def help : String :=
  "Mounts and lists btrfs volumes served by btrmountd\n\n" ++ usageLine ++ "\nCommands:\n"
    ++ "  mount    Starts a worker that mounts a volume\n"
    ++ "  list     Lists the volumes known to the service\n"
    ++ "  unmount  Stops the worker serving a mount point\n"

/-- What is said to a question for the version. -/
def version : String := "btrmount 0.1.0\n"

end MountControl.Client
