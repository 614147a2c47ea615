/-
  MountControl — settings from the command line.

  Every setting has a flag, which is followed by its value: `--flag value`
  or `--flag=value`, or the same with a letter.  A flag may be given once,
  and nothing else may stand between flags.

  An argument is a list of bytes: the system does not promise that it is
  text.
-/
import MountControl.Config.Decode
import MountControl.Text.Utf8

namespace MountControl.Config

/-- An argument of a command line. -/
abbrev Argument := List UInt8

/-- An argument that is a text. -/
def Argument.ofText (text : String) : Argument := Text.encode text.toList

/-- The text of an argument; what is no text in it is replaced. -/
def Argument.lossy (argument : Argument) : String := String.ofList (Text.decodeLossy argument)

/-- Why a command line is not understood. -/
inductive FlagError
  /-- The argument is none that may stand there. -/
  | unexpected (argument : String)
  /-- A flag has no value. -/
  | missingValue (flag : String)
  /-- A flag is given more than once. -/
  | repeated (flag : String)
  /-- The value of a flag cannot be read. -/
  | invalidValue (flag value : String)
  deriving DecidableEq, Repr

/-- The text of a failure. -/
def FlagError.message : FlagError → String
  | .unexpected argument => "unexpected argument '" ++ argument ++ "'"
  | .missingValue flag => "a value is required for '" ++ flag ++ "'"
  | .repeated flag => "the argument '" ++ flag ++ "' cannot be used multiple times"
  | .invalidValue flag value => "invalid value '" ++ value ++ "' for '" ++ flag ++ "'"

/-! ## Single flags -/

/-- A flag of a setting. -/
structure Flag where
  /-- Its name, with its hyphens. -/
  name : String
  /-- The letter that stands for it, if there is one. -/
  letter : Option Char
  /-- The key of the setting; none for the path of the settings file. -/
  key : Option String
  /-- Reads its value. -/
  read : Argument → Option Value

/-- Reads a text. -/
def readText (argument : Argument) : Option Value :=
  (Text.decode? argument).map fun text => .string (String.ofList text)

/-- Reads a number of 64 bits. -/
def readCount (argument : Argument) : Option Value :=
  ((Text.decode? argument).bind (Text.Numeral.unsigned? UInt64.size)).map fun n => .integer n

/-- Reads the name of a format. -/
def readFormat (argument : Argument) : Option Value :=
  ((Text.decode? argument).bind LogFormat.parse?).map fun format => .string format.name

/-- Reads an endpoint. -/
def readEndpoint (argument : Argument) : Option Value :=
  (Text.decode? argument).bind fun text =>
    match Endpoint.parse (String.ofList text) with
    | .ok endpoint => some endpoint.value
    | .error _ => none

/-- Reads a path, which may be any bytes but not none. -/
def readPath (argument : Argument) : Option Value :=
  if argument.isEmpty then none else some (.string argument.lossy)

/-- The flag that names the settings file. -/
def Flag.path : Flag := ⟨"--config-path", none, none, readPath⟩

/-- All flags. -/
def Flag.all : List Flag := [
  Flag.path,
  ⟨"--daemon-socket", 'd', "daemon_socket", readEndpoint⟩,
  ⟨"--log-filter", 'l', "log_filter", readText⟩,
  ⟨"--log-format", 'L', "log_format", readFormat⟩,
  ⟨"--worker-binary", 'w', "worker_binary", readText⟩,
  ⟨"--connect-timeout-ms", 'c', "connect_timeout_ms", readCount⟩,
  ⟨"--reply-timeout-ms", 'r', "reply_timeout_ms", readCount⟩,
  ⟨"--exchange-timeout-ms", 'e', "exchange_timeout_ms", readCount⟩,
  ⟨"--worker-stop-timeout-ms", 'W', "worker_stop_timeout_ms", readCount⟩]

/-- The flag of a name. -/
def Flag.named? (name : Argument) : Option Flag := all.find? fun flag => .ofText flag.name = name

/-- The flag of a letter. -/
def Flag.lettered? (letter : Char) : Option Flag := all.find? (·.letter = some letter)

/-! ## Whole command lines -/

/-- The byte of a character in ASCII. -/
def hyphen : UInt8 := 0x2D
@[inherit_doc hyphen] def equals : UInt8 := 0x3D

/-- Has the argument the form of a flag? -/
def Argument.isFlag (argument : Argument) : Bool :=
  argument.head? = some hyphen && argument != [hyphen]

/-- The flag of an argument, and the value if it is in the same argument. -/
def Argument.flag? (argument : Argument) : Option (Flag × Option Argument) :=
  match argument with
  | 0x2D :: 0x2D :: _ =>
    let name := argument.takeWhile (· != equals)
    let inline? := match argument.drop name.length with
      | _ :: value => some value
      | [] => none
    (Flag.named? name).map (·, inline?)
  | 0x2D :: letter :: rest =>
    let inline? := match rest with
      | [] => none
      | 0x3D :: value => some value
      | value => some value
    (Flag.lettered? (Char.ofNat letter.toNat)).map (·, inline?)
  | _ => none

/-- Two hyphens, after which no flags follow. -/
def Argument.isEnd (argument : Argument) : Bool := argument = [hyphen, hyphen]

/-- The flags of a command line, each with its value. -/
def pairFlags : List Argument → Except FlagError (List (Flag × Argument))
  | [] => .ok []
  | argument :: rest =>
    if argument.isEnd then
      match rest with
      | [] => .ok []
      | other :: _ => .error (.unexpected other.lossy)
    else
      match argument.flag?, rest with
      | none, _ => .error (.unexpected argument.lossy)
      | some (flag, some value), rest => (pairFlags rest).map ((flag, value) :: ·)
      | some (flag, none), value :: rest =>
        if value.isFlag then .error (.missingValue flag.name)
        else (pairFlags rest).map ((flag, value) :: ·)
      | some (flag, none), [] => .error (.missingValue flag.name)

/-- What a command line says. -/
structure FlagSettings where
  /-- The path of the settings file. -/
  path : Option String := none
  /-- The settings. -/
  entries : List (String × Value) := []
  deriving Inhabited

/-- Takes one flag. -/
def FlagSettings.take (given : FlagSettings) (flag : Flag) (argument : Argument) :
    Except FlagError FlagSettings :=
  match flag.read argument, flag.key with
  | none, _ => .error (.invalidValue flag.name argument.lossy)
  | some (.string path), none =>
    if given.path.isSome then .error (.repeated flag.name) else .ok { given with path }
  | some _, none => .error (.invalidValue flag.name argument.lossy)
  | some value, some key =>
    if given.entries.any (·.1 = key) then .error (.repeated flag.name)
    else .ok { given with entries := given.entries ++ [(key, value)] }

/-- Reads a command line without the name of the program. -/
def FlagSettings.parse (arguments : List Argument) : Except FlagError FlagSettings :=
  match pairFlags arguments with
  | .error error => .error error
  | .ok pairs => pairs.foldlM (fun given (flag, argument) => given.take flag argument) {}

end MountControl.Config
