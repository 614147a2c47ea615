/-
  MountControl — the two parts of the client's command line.

  Flags for settings stand before the command and are not the command's
  own.  `Arguments.split` takes as many of them off the front as there are,
  each with its value.
-/
import MountControl.Config.Flags

namespace MountControl.Client

open Config (Argument)

/-- What an argument is to the part before the command. -/
inductive Role
  /-- A flag for a setting, with its value. -/
  | complete
  /-- A flag for a setting, whose value is the next argument. -/
  | needsValue
  /-- None of these; the command begins. -/
  | command
  deriving DecidableEq, Repr

/-- The flags for settings. -/
def settingFlags : List (List Char) := Config.Flag.all.map fun flag => flag.name.toList

/-- What an argument is to the part before the command.  Of an argument that is no text, what is
    text in it counts. -/
def roleOf (argument : Argument) : Role :=
  let text := Text.decodeLossy argument
  match Text.cut '=' text with
  | some (name, _) => if settingFlags.contains name then .complete else .command
  | none => if settingFlags.contains text then .needsValue else .command

/-- A command line in two parts. -/
structure Arguments where
  /-- The name of the program and the flags for settings. -/
  settings : List Argument
  /-- The name of the program and the command. -/
  command : List Argument
  deriving DecidableEq, Repr

/-- Takes the flags for settings off the front of the arguments after the program's name. -/
def splitTail : List Argument → List Argument × List Argument
  | [] => ([], [])
  | argument :: rest =>
    match roleOf argument with
    | .command => ([], argument :: rest)
    | .complete =>
      let (front, back) := splitTail rest
      (argument :: front, back)
    | .needsValue =>
      match rest with
      | [] => ([argument], [])
      | value :: rest =>
        let (front, back) := splitTail rest
        (argument :: value :: front, back)

/-- Splits a command line; one without even the name of a program has two empty parts. -/
def Arguments.split : List Argument → Arguments
  | [] => ⟨[], []⟩
  | program :: rest =>
    let (front, back) := splitTail rest
    ⟨program :: front, program :: back⟩

end MountControl.Client
