/-
  MountControl — worker processes from scripts.

  A program is found among the files and read as a script; the process then
  runs in the script's own time.  `process` gives the calls on it.
-/
import MountControl.Host.FileTree
import MountControl.Host.Script.Performance
import MountControl.Service.Child

namespace MountControl.Service.Rehearsal

open Host (FileTree IoError)
open Host.Script (Command Part Performance Setting)

/-! ## Programs -/

/-- The shells, which read scripts. -/
def shells : List String := ["sh", "dash", "bash"]

/-- Other programs that are always there. -/
def commonPrograms : List String := ["true", "false", "echo", "cat", "sleep"]

/-- The directories in which programs are, each with its last slash. -/
def programDirectories : List String := ["/bin/", "/usr/bin/"]

/-- The name of a program from its path. -/
def programName? (path : List Char) : Option String :=
  (programDirectories.find? fun directory => directory.toList.isPrefixOf path).map fun directory =>
    String.ofList (path.drop directory.length)

/-- The script that only runs a program, with some words and then the arguments that it is
    given. -/
def callOf (program : List Char) (words : List (List Part)) : List Command :=
  [.plain ([.text program] :: words ++ [[.arguments]]) (.stream 1) (.stream 2)]

/-- The script of a program that is always there; a shell knows no long options. -/
def commonScript? (name : String) (program : List Char) : Option (List Command) :=
  if name ∈ shells then
    some (Host.Script.parse "echo \"$0: 0: Illegal option --\" >&2; exit 2".toList)
  else if name ∈ commonPrograms then some (callOf program [])
  else none

/-- The words of a script's first line, which name the interpreter; a program that finds others
    may be put before its name. -/
def interpreterOf (line : List Char) : List (List Char) :=
  let words := (Text.fields ' ' (Text.trim line)).filter (!·.isEmpty)
  match words with
  | first :: second :: rest =>
    if programName? first = some "env" then ("/bin/".toList ++ second) :: rest else words
  | _ => words

/-- The script of a file: its first line names the interpreter. -/
def scriptOf (content : List UInt8) : Except IoError (List Command) :=
  match Text.decodeLossy content with
  | '#' :: '!' :: text =>
    match interpreterOf (Text.line text) with
    | [] => .error (.system 8)
    | interpreter :: options =>
      let name := (programName? interpreter).getD ""
      if name ∈ shells then .ok (Host.Script.parse (Text.afterLine text))
      else if name ∈ commonPrograms then
        .ok (callOf interpreter ((options.map fun option => [.text option]) ++ [[.argument 0]]))
      else .error (.system 2)
  | _ => .error (.system 8)

/-- May anybody run a file with such permissions? -/
def isExecutable (mode : Nat) : Bool := mode % 2 = 1 || mode / 8 % 2 = 1 || mode / 64 % 2 = 1

/-- The script of a program. -/
def findProgram (tree : FileTree) (cwd : Host.Place) (executable : String) :
    Except IoError (List Command) :=
  let path := executable.toList
  if '\x00' ∈ path then .error (.described .invalidInput "nul byte found in provided data")
  else if '/' ∈ path then
    match tree.stat true cwd path with
    | .ok (_, .file content mode) =>
      if isExecutable mode then scriptOf content else .error (.system 13)
    | .ok _ => .error (.system 13)
    | .error error =>
      match (programName? path).bind (commonScript? · path) with
      | some script => .ok script
      | none => .error error
  else
    match commonScript? executable path with
    | some script => .ok script
    | none => .error (.system 2)

/-! ## Processes -/

/-- A process that runs a script. -/
structure Process where
  /-- The script. -/
  script : List Command
  /-- Its arguments and its number. -/
  setting : Setting
  /-- The time, in milliseconds since it was launched. -/
  clock : Nat := 0
  /-- Its whole life as far as it is known. -/
  life : Performance
  /-- When it was killed. -/
  killed : Option Nat := none

/-- How many commands of a script are run at most. -/
def maxCommands : Nat := 20000

/-- Starts a process. -/
def Process.start (script : List Command) (setting : Setting) : Process where
  script
  setting
  life := Host.Script.perform setting none maxCommands script

/-- The exit of a script's end. -/
def exitOf : Host.Script.End → Exit
  | .status code => .code code
  | .signal number => .signal number

/-- When and how the process ends, if it does. -/
def Process.finish? (process : Process) : Option (Nat × Exit) :=
  let own := process.life.ended.map fun ended => (process.life.time, exitOf ended)
  match own, process.killed with
  | some (time, exit), some killed =>
    if time ≤ killed then some (time, exit) else some (killed, .signal 9)
  | some ending, none => some ending
  | none, some killed => some (killed, .signal 9)
  | none, none => none

/-- How the process has ended by now. -/
def Process.exit? (process : Process) : Option Exit :=
  (process.finish?.filter (·.1 ≤ process.clock)).map (·.2)

/-- Lets the time pass until a number of lines was written in all. -/
def Process.awaitLines (process : Process) (count : Nat) : Process :=
  let times := process.life.outputs.flatMap fun output =>
    (output.bytes.filter (· = 0x0A)).map fun _ => output.time
  if count = 0 then process
  else
    match times[count - 1]? with
    | some time => { process with clock := max process.clock time }
    | none => process

/-- Lets the time pass until the process has ended. -/
def Process.awaitExit (process : Process) : Option Exit × Process :=
  match process.finish? with
  | some (time, exit) => (some exit, { process with clock := max process.clock time })
  | none => (none, process)

/-- What the process has written to one of its streams, until it was killed. -/
def Process.written (process : Process) (stream : Nat) : List UInt8 :=
  (process.life.outputs.filter fun output =>
    output.stream = stream ∧ process.killed.all (output.time ≤ ·)).flatMap (·.bytes)

/-- The lines that the process has written to one of its streams, as they are logged. -/
def Process.lines (process : Process) (stream : Nat) : List (List Char) :=
  (outputLines (process.written stream)).map lineText

/-- What is in a file that the process has written, if it has. -/
def Process.content? (process : Process) (path : List Char) : Option (List UInt8) :=
  (process.life.writings.filter (·.path = path)).foldl (fun held writing =>
    match held with
    | some bytes => some (if writing.append then bytes ++ writing.bytes else writing.bytes)
    | none => some writing.bytes) none

/-- The error of a process that is not known. -/
def unknownProcess : IoError := .system 10

/-- The calls on a process. -/
def process : Child Process where
  poll p := (.ok p.exit?, p)
  terminate p :=
    (.ok (), { p with life := Host.Script.perform p.setting (some p.clock) maxCommands p.script })
  now p := (p.clock, p)
  rest duration p := { p with clock := p.clock + duration }
  kill p := (.ok (), { p with killed := p.killed.or (some p.clock) })
  wait p :=
    match p.awaitExit with
    | (some exit, p) => (.ok exit, p)
    | (none, p) => (.error unknownProcess, p)

/-- How many calls on a process are made at most, to stop it. -/
def maxStopCalls : Nat := 1000000

/-- Stops a process. -/
def Process.stop (p : Process) (id : Volume.InstanceId) (grace : Nat) :
    Except IoError Exit × Process :=
  let (result, p, _) := process.stop id grace maxStopCalls p
  (result.getD (.error unknownProcess), p)

end MountControl.Service.Rehearsal
