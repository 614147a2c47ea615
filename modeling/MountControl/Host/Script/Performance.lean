/-
  MountControl — scripts, as they run.

  A script runs in a time of its own, which only sleeping and looping take.
  One request to end may reach it at a given time.

  * `Performance` is what a script has written and when, and when and how it
    has ended;
  * `perform` runs a script.
-/
import MountControl.Host.Script.Command
import MountControl.Text.Utf8

namespace MountControl.Host.Script

/-- How a script ends. -/
inductive End
  /-- With a status. -/
  | status (code : Nat)
  /-- By a signal. -/
  | signal (number : Nat)
  deriving DecidableEq, Repr

/-- What a request to end does to a script. -/
inductive Response
  /-- It ends the script. -/
  | ends
  /-- Nothing. -/
  | ignored
  /-- It makes the script run some commands. -/
  | runs (text : List Char)
  deriving DecidableEq, Repr

/-- Bytes that a script has written. -/
structure Output where
  /-- When. -/
  time : Nat
  /-- To which of its streams. -/
  stream : Nat
  /-- The bytes. -/
  bytes : List UInt8
  deriving DecidableEq, Repr

/-- Bytes that a script has written into a file. -/
structure Writing where
  /-- The file. -/
  path : List Char
  /-- At its end, or in place of what it held? -/
  append : Bool
  /-- The bytes. -/
  bytes : List UInt8
  deriving DecidableEq, Repr

/-- A script that runs. -/
structure Performance where
  /-- The time that has passed, in milliseconds. -/
  time : Nat := 0
  /-- The variables, the last one set first. -/
  bindings : List (List Char × List Char) := []
  /-- What it has written, the earliest first. -/
  outputs : List Output := []
  /-- What it has written into files. -/
  writings : List Writing := []
  /-- Where its first stream goes. -/
  out : Outlet := .stream 1
  /-- Where its second stream goes. -/
  err : Outlet := .stream 2
  /-- When the commands that are not waited for have ended. -/
  idle : Nat := 0
  /-- The status of its last command. -/
  status : Nat := 0
  /-- What a request to end does. -/
  response : Response := .ends
  /-- When it is asked to end, unless it has been. -/
  request : Option Nat := none
  /-- How it has ended. -/
  ended : Option End := none
  deriving Repr

/-- What a script finds when it starts. -/
structure Setting where
  /-- The path of the script. -/
  script : String
  /-- Its arguments. -/
  arguments : List String
  /-- The number of its process. -/
  self : Nat
  /-- The directory in which it starts. -/
  directory : List Char

/-! ## Words -/

/-- The text of a variable; one that was not set is empty. -/
def Performance.get (act : Performance) (name : List Char) : List Char :=
  ((act.bindings.find? (·.1 = name)).map (·.2)).getD []

/-- Sets a variable. -/
def Performance.set (act : Performance) (name text : List Char) : Performance :=
  { act with bindings := (name, text) :: act.bindings }

/-- A whole number. -/
def number (text : List Char) : Int :=
  match text with
  | '-' :: digits => -((Text.Numeral.value? 10 digits).getD 0 : Nat)
  | digits => ((Text.Numeral.value? 10 digits).getD 0 : Nat)

/-- A number, or the number in a variable. -/
def Performance.operand (act : Performance) (text : List Char) : Int :=
  let name := text.filter (· ≠ '$')
  if name.all Char.isDigit then number name else number (act.get name)

/-- The operands of a sum, each with the operator before it. -/
def operands (operator : Char) : (steps : Nat) → List Char → List (Char × List Char)
  | 0, _ => []
  | steps + 1, text =>
    let operand := text.takeWhile (· ∉ ['+', '-', '*', '/', '%'])
    (operator, operand.filter (· ≠ ' ')) ::
      match text.drop operand.length with
      | next :: rest => operands next steps rest
      | [] => []

/-- The value of a sum: products before sums, and from left to right. -/
def Performance.sum (act : Performance) (text : List Char) : Int :=
  let (total, product) := (operands '+' (text.length + 1) text).foldl
    (fun (total, product) (operator, operand) =>
      let value := act.operand operand
      match operator with
      | '*' => (total, product * value)
      | '/' => (total, product.tdiv value)
      | '%' => (total, product.tmod value)
      | '-' => (total + product, -value)
      | _ => (total + product, value)) ((0, 0) : Int × Int)
  total + product

/-- The text of a part of a word. -/
def Performance.partText (act : Performance) (setting : Setting) : Part → List Char
  | .text text => text
  | .argument number => (((setting.script :: setting.arguments)[number]?).getD "").toList
  | .count => Text.Numeral.decimal setting.arguments.length
  | .self => Text.Numeral.decimal setting.self
  | .status => Text.Numeral.decimal act.status
  | .variable name => act.get name
  | .sum text => Text.Numeral.signedDecimal (act.sum text)
  | .arguments => []
  | .joined => [' '].intercalate (setting.arguments.map String.toList)
  | .output _ _ => []

/-- The words that a word becomes, if it runs no command. -/
def Performance.expandPlain (act : Performance) (setting : Setting) (parts : List Part) :
    List (List Char) :=
  if parts.any (· = .arguments) then setting.arguments.map String.toList
  else [parts.flatMap (act.partText setting)]

/-- The bytes of a text in which backslashes mean characters, by letter or by octal number. -/
def unescape : List Char → List UInt8
  | '\\' :: 'n' :: rest => 0x0A :: unescape rest
  | '\\' :: 't' :: rest => 0x09 :: unescape rest
  | '\\' :: 'r' :: rest => 0x0D :: unescape rest
  | '\\' :: '\\' :: rest => 0x5C :: unescape rest
  | '\\' :: a :: b :: c :: rest =>
    match Text.Numeral.value? 8 [a, b, c], Text.Numeral.value? 8 [a, b],
        Text.Numeral.value? 8 [a] with
    | some n, _, _ => UInt8.ofNat n :: unescape rest
    | none, some n, _ => UInt8.ofNat n :: unescape (c :: rest)
    | none, none, some n => UInt8.ofNat n :: unescape (b :: c :: rest)
    | none, none, none => 0x5C :: unescape (a :: b :: c :: rest)
  | c :: rest => String.utf8EncodeChar c ++ unescape rest
  | [] => []

/-- A format with the words put in for its places, and the words that are left. -/
def fill (words : List (List Char)) : List Char → List Char × List (List Char)
  | '%' :: '%' :: rest =>
    let (text, left) := fill words rest
    ('%' :: text, left)
  | '%' :: kind :: rest =>
    if kind ∈ ['s', 'd'] then
      let (text, left) := fill (words.drop 1) rest
      ((words.headD []).flatMap (fun c => if c = '\\' then ['\\', '\\'] else [c]) ++ text, left)
    else
      let (text, left) := fill words rest
      ('%' :: kind :: text, left)
  | c :: rest =>
    let (text, left) := fill words rest
    (c :: text, left)
  | [] => ([], words)

/-- A format, used again as long as words are left. -/
def fillAll (format : List Char) : (rounds : Nat) → List (List Char) → List Char
  | 0, _ => []
  | rounds + 1, words =>
    let (text, left) := fill words format
    if left.isEmpty ∨ left.length = words.length then text else text ++ fillAll format rounds left

/-- The milliseconds of a number of seconds. -/
def milliseconds (text : List Char) : Nat :=
  let whole := text.takeWhile Char.isDigit
  let part := ((text.drop whole.length).drop 1).takeWhile Char.isDigit
  (Text.Numeral.value? 10 whole).getD 0 * 1000
    + (Text.Numeral.value? 10 ((part ++ ['0', '0', '0']).take 3)).getD 0

/-- Signals by name. -/
def signalNames : List (String × Nat) :=
  [("HUP", 1), ("INT", 2), ("QUIT", 3), ("ABRT", 6), ("KILL", 9), ("USR1", 10), ("SEGV", 11),
   ("USR2", 12), ("PIPE", 13), ("ALRM", 14), ("TERM", 15)]

/-- A signal by its name or number. -/
def signal? (text : List Char) : Option Nat :=
  match Text.Numeral.value? 10 text with
  | some n => some n
  | none => (signalNames.find? (·.1.toList = text)).map (·.2)

/-- Does a condition hold? -/
def condition (words : List String) : Bool :=
  let compare (a b : String) (holds : Int → Int → Bool) := holds (number a.toList) (number b.toList)
  match words with
  | [text] => text ≠ ""
  | ["-n", text] => text ≠ ""
  | ["-z", text] => text = ""
  | [a, "=", b] => a = b
  | [a, "!=", b] => a ≠ b
  | [a, "-eq", b] => compare a b (· = ·)
  | [a, "-ne", b] => compare a b (· ≠ ·)
  | [a, "-lt", b] => compare a b (· < ·)
  | [a, "-le", b] => compare a b (· ≤ ·)
  | [a, "-gt", b] => compare a b (· > ·)
  | [a, "-ge", b] => compare a b (· ≥ ·)
  | _ => false

/-! ## Commands -/

/-- Something that is left to run. -/
inductive Task
  /-- A command. -/
  | run (command : Command)
  /-- After a condition: what to run if it holds, and what if not. -/
  | decide (yes no : List Task)
  /-- A status for the commands before. -/
  | settle (status : Nat)
  /-- Other places for the two streams. -/
  | redirect (out err : Outlet)
  /-- A loop's next turn takes time. -/
  | pass

/-- The tasks of commands. -/
def tasks (commands : List Command) : List Task := commands.map .run

/-- Where a command's outlet leads. -/
def Performance.outlet (act : Performance) : Outlet → Outlet
  | .stream 1 => act.out
  | .stream 2 => act.err
  | outlet => outlet

/-- Writes bytes. -/
def Performance.write (act : Performance) (setting : Setting) (outlet : Outlet)
    (bytes : List UInt8) : Performance :=
  match outlet with
  | .stream number =>
    { act with outputs := act.outputs ++ [⟨act.time, number, bytes⟩] }
  | .file path append =>
    { act with
      writings := act.writings
        ++ [⟨((act.expandPlain setting path).head?).getD [], append, bytes⟩] }

/-- Opens an outlet: a file loses what it held, and is then written at its end. -/
def Performance.opened (act : Performance) (setting : Setting) (outlet : Outlet) :
    Performance × Outlet :=
  match outlet with
  | .file path false => (act.write setting (.file path false) [], .file path true)
  | outlet => (act, act.outlet outlet)

/-- Lets a request to end reach the script; also the commands that it makes it run. -/
def Performance.receive (act : Performance) (time : Nat) : Performance × List Task :=
  let act := { act with request := none }
  match act.response with
  | .ends => ({ act with ended := some (.signal 15), time := max act.time time }, [])
  | .ignored => (act, [])
  | .runs text => (act, tasks (parse text))

/-- Sleeps.  A request to end that comes meanwhile ends the script at once or is met after the
    sleep, or at once too if the sleep may end `early`. -/
def Performance.sleep (act : Performance) (early : Bool) (duration : Nat) :
    Performance × List Task :=
  let wake := act.time + duration
  match act.request with
  | some time =>
    if time < wake then
      let (met, more) := act.receive time
      if met.ended.isSome then (met, [])
      else if early ∧ !more.isEmpty then
        ({ met with time := max act.time time, status := 143 }, more)
      else ({ met with time := wake }, more)
    else ({ act with time := wake, status := 0 }, [])
  | none => ({ act with time := wake, status := 0 }, [])

/-- Signals that end no process. -/
def harmlessSignals : List Nat := [0, 17, 18, 23, 28]

/-- Sends the script a signal of its own. -/
def Performance.signal (act : Performance) (number : Nat) : Performance × List Task :=
  if number = 15 then act.receive act.time
  else if number ∈ harmlessSignals then ({ act with status := 0 }, [])
  else ({ act with ended := some (.signal number) }, [])

/-- Sends a signal to a process, if it is the script's own. -/
def Performance.kill (act : Performance) (setting : Setting) (which target : List Char) :
    Performance × List Task :=
  match signal? which with
  | some number =>
    if target = Text.Numeral.decimal setting.self then act.signal number
    else ({ act with status := 0 }, [])
  | none => ({ act with status := 0 }, [])

/-- The name of a command without the directory in which programs are. -/
def baseName (name : List Char) : String :=
  match ["/bin/", "/usr/bin/"].find? fun directory => directory.toList.isPrefixOf name with
  | some directory => String.ofList (name.drop directory.length)
  | none => String.ofList name

/-- Is a word an option with a long name? -/
def longOption (word : List Char) : Bool := ['-', '-'].isPrefixOf word

/-- Runs a command of some words; also what is to be run next. -/
def Performance.plain (act : Performance) (setting : Setting) (out err : Outlet)
    (words : List (List Char)) : Performance × List Task :=
  let finish (status : Nat) (act : Performance) : Performance × List Task :=
    ({ act with status }, [])
  let say (text : List UInt8) := finish 0 (act.write setting out text)
  match words with
  | [] => say []
  | name :: rest =>
    let refuse (option : List Char) := finish 1 (act.write setting err (Text.encode
      (name ++ ": unrecognized option '".toList ++ option ++ "'\nTry '".toList ++ name
        ++ " --help' for more information.\n".toList)))
    match baseName name, rest with
    | ":", _ => finish 0 act
    | "true", _ => finish 0 act
    | "wait", _ => act.sleep true (act.idle - act.time)
    | "set", _ => finish 0 act
    | "export", _ => finish 0 act
    | "ulimit", _ => finish 0 act
    | "false", _ => finish 1 act
    | "cat", option :: _ =>
      if longOption option then refuse option else say []
    | "sleep", option :: _ =>
      if longOption option then refuse option else act.sleep false (milliseconds option)
    | "cat", _ => say []
    | "read", names => finish 1 (names.foldl (fun act name => act.set name []) act)
    | "pwd", _ => say (Text.encode (setting.directory ++ ['\n']))
    | "echo", ['-', 'n'] :: rest => say (unescape ([' '].intercalate rest))
    | "echo", rest => say (unescape ([' '].intercalate rest) ++ [0x0A])
    | "printf", rest => say (unescape (fillAll (rest.headD []) (rest.length + 1) (rest.drop 1)))
    | "[", rest => finish (if condition (rest.dropLast.map String.ofList) then 0 else 1) act
    | "test", rest => finish (if condition (rest.map String.ofList) then 0 else 1) act
    | "seq", rest =>
      let bounds := rest.map number
      let (first, last) := match bounds with
        | [first, last] => (first, last)
        | _ => (1, bounds.headD 0)
      say ((List.range (last - first + 1).toNat).flatMap fun (n : Nat) =>
        Text.encode (Text.Numeral.signedDecimal (first + (n : Int)) ++ ['\n']))
    | "exit", rest =>
      let code := ((rest.head?).map fun text =>
        (Text.Numeral.value? 10 text).getD 2).getD act.status
      ({ act with ended := some (.status (code % 256)) }, [])
    | "trap", text :: signals =>
      finish 0 (if signals.any (signal? · = some 15) then
        { act with
          response := if text = [] then .ignored else if text = ['-'] then .ends else .runs text }
        else act)
    | "kill", ['-', 's'] :: which :: target :: _ => act.kill setting which target
    | "kill", [which, target] => act.kill setting (which.drop 1) target
    | "kill", [target] => act.kill setting "TERM".toList target
    | _, _ =>
      finish 127 (act.write setting err (Text.encode (name ++ ": not found\n".toList)))

/-- The script as a program that it becomes, which forgets its commands for a request to end. -/
def Performance.forget (act : Performance) : Performance :=
  { act with response := if act.response = .ignored then .ignored else .ends }

/-- What a command writes that a word runs: the lines without the last ends. -/
def Performance.output (act : Performance) (setting : Setting) (text : List Char) : List Char :=
  match parse text with
  | .plain words _ _ :: _ =>
    let (ran, _) := { act with outputs := [] }.plain setting (.stream 1) (.stream 2)
      (words.flatMap (act.expandPlain setting))
    let written := (ran.outputs.filter (·.stream = 1)).flatMap (·.bytes)
    ((Text.decodeLossy written).reverse.dropWhile (· = '\n')).reverse
  | _ => []

/-- A word with the texts in place of the commands that it runs. -/
def Performance.settled (act : Performance) (setting : Setting) (parts : List Part) :
    List Part :=
  parts.map fun
    | .output text _ => .text (act.output setting text)
    | part => part

/-- The words that a word becomes. -/
def Performance.expand (act : Performance) (setting : Setting) (parts : List Part) :
    List (List Char) :=
  match parts with
  | [.output text false] =>
    let plain := (act.output setting text).map fun c => if c ∈ ['\n', '\t'] then ' ' else c
    (Text.fields ' ' plain).filter (!·.isEmpty)
  | _ => act.expandPlain setting (act.settled setting parts)

/-- Runs a task; also what is to be run next, and whether nothing follows that. -/
def Performance.task (act : Performance) (setting : Setting) :
    Task → (Performance × List Task) × Bool
  | .pass => (({ act with time := act.time + 1 }, []), false)
  | .settle status => (({ act with status }, []), false)
  | .redirect out err => (({ act with out, err }, []), false)
  | .decide yes no => ((act, if act.status = 0 then yes else no), false)
  | .run (.assign name value) =>
    (({ act.set name ((act.settled setting value).flatMap (act.partText setting)) with
      status := 0 }, []), false)
  | .run (.loop holds condition body) =>
    let again := tasks body ++ [.pass, .run (.loop holds condition body)]
    ((act, tasks condition
      ++ [if holds then .decide again [.settle 0] else .decide [.settle 0] again]), false)
  | .run (.each name words body) =>
    match words.flatMap (act.expand setting) with
    | [] => (({ act with status := 0 }, []), false)
    | values =>
      ((act, values.flatMap fun value => .run (.assign name [.text value]) :: tasks body), false)
  | .run (.choice condition yes no) =>
    ((act, tasks condition
      ++ [.decide (.settle 0 :: tasks yes) (.settle 0 :: tasks no)]), false)
  | .run (.both first second) => ((act, [.run first, .decide [.run second] []]), false)
  | .run (.either first second) => ((act, [.run first, .decide [] [.run second]]), false)
  | .run (.negation command) =>
    ((act, [.run command, .decide [.settle 1] [.settle 0]]), false)
  | .run (.background (.plain words out err)) =>
    let (act, out) := act.opened setting out
    let (act, err) := act.opened setting err
    let (ran, _) := act.plain setting out err (words.flatMap (act.expand setting))
    (({ act with
        outputs := ran.outputs, writings := ran.writings, idle := max act.idle ran.time,
        status := 0 }, []), false)
  | .run (.background command) => ((act, [.run command, .settle 0]), false)
  | .run (.group body out err) =>
    let (inner, out) := act.opened setting out
    let (inner, err) := inner.opened setting err
    ((inner, .redirect out err :: tasks body ++ [.redirect act.out act.err]), false)
  | .run (.plain words out err) =>
    let (inner, out) := act.opened setting out
    let (inner, err) := inner.opened setting err
    match words.flatMap (act.expand setting) with
    | [['e', 'x', 'e', 'c']] => (({ inner with out, err, status := 0 }, []), false)
    | ['e', 'x', 'e', 'c'] :: words => (inner.forget.plain setting out err words, true)
    | words => (inner.plain setting out err words, false)

/-- Runs what is left to run; `steps` bounds the number of tasks. -/
def Performance.run (setting : Setting) :
    (steps : Nat) → List Task → Performance → Performance
  | 0, _, act => act
  | steps + 1, todo, act =>
    match act.ended, todo with
    | some _, _ => act
    | none, [] => { act with ended := some (.status act.status) }
    | none, task :: rest =>
      if act.request.any (· < act.time) then
        let (act, more) := act.receive act.time
        run setting steps (more ++ task :: rest) act
      else
        let ((act, more), last) := act.task setting task
        run setting steps (if last then more else more ++ rest) act

/-- Runs a script that is asked to end at a given time, if at all. -/
def perform (setting : Setting) (request : Option Nat) (steps : Nat) (script : List Command) :
    Performance :=
  Performance.run setting steps (tasks script) { request }

end MountControl.Host.Script
