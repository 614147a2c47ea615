/-
  MountControl — scripts, as they are written.

  A program for a volume may be a script of the shell.  This is the part of
  the shell's language that stand-ins for such programs are written in:
  commands with quotes, parameters and redirections, variables, tests, and
  loops.

  * `Part` is a part of a word, `Token` a piece of the text, and `Command`
    what the pieces make up;
  * `parse` reads a script.
-/
import MountControl.Text.Numeral
import MountControl.Text.Split

namespace MountControl.Host.Script

/-! ## Words -/

/-- A part of a word. -/
inductive Part
  /-- Text as it stands. -/
  | text (text : List Char)
  /-- One of the script's arguments; number 0 is the script. -/
  | argument (number : Nat)
  /-- All arguments, each a word of its own. -/
  | arguments
  /-- All arguments as one text. -/
  | joined
  /-- How many arguments there are. -/
  | count
  /-- The number of the process. -/
  | self
  /-- The status of the last command. -/
  | status
  /-- A variable. -/
  | variable (name : List Char)
  /-- A sum of numbers and variables. -/
  | sum (text : List Char)
  /-- What a command writes, which is one word if it is quoted and else as many as it has. -/
  | output (text : List Char) (quoted : Bool)
  deriving DecidableEq, Repr

/-- A piece of a script. -/
inductive Token
  /-- A word; `plain` says that nothing in it is quoted. -/
  | word (parts : List Part) (plain : Bool)
  /-- The end of a command. -/
  | stop
  /-- The end of a command that is not waited for. -/
  | background
  /-- The start of a group of commands. -/
  | opening
  /-- The end of a group of commands. -/
  | closing
  /-- The second command is run if the first succeeds. -/
  | both
  /-- The second command is run if the first fails. -/
  | either
  /-- Another place for what the command reads or writes. -/
  | redirect (stream : Nat) (append : Bool)
  /-- One stream's place for another stream. -/
  | duplicate (stream other : Nat)
  deriving DecidableEq, Repr

/-- Ends a word. -/
def endsWord (c : Char) : Bool := c ∈ [' ', '\t', '\n', ';', '>', '<', '&', '|', '(', ')']

/-- May the character stand in the name of a variable? -/
def isNameChar (c : Char) : Bool := c.isAlphanum || c = '_'

/-- A parameter after its dollar sign; is it between double quotes? -/
def parameter (quoted : Bool) : List Char → Option (Part × List Char)
  | '$' :: rest => some (.self, rest)
  | '@' :: rest => some (.arguments, rest)
  | '*' :: rest => some (if quoted then .joined else .arguments, rest)
  | '#' :: rest => some (.count, rest)
  | '?' :: rest => some (.status, rest)
  | '(' :: '(' :: rest =>
    let text := rest.takeWhile (· != ')')
    some (.sum text, rest.drop (text.length + 2))
  | '(' :: rest =>
    let text := rest.takeWhile (· != ')')
    some (.output text quoted, rest.drop (text.length + 1))
  | '\x7b' :: rest =>
    let name := rest.takeWhile (· != '\x7d')
    some (.variable name, rest.drop (name.length + 1))
  | c :: rest =>
    if c.isDigit then some (.argument (c.toNat - '0'.toNat), rest)
    else
      let name := (c :: rest).takeWhile isNameChar
      if name.isEmpty then none else some (.variable name, (c :: rest).drop name.length)
  | [] => none

/-- What stands between double quotes, and what follows; `front` holds the parts already read,
    the last one first. -/
def doubleQuoted (front : List Part) : (steps : Nat) → List Char → List Part × List Char
  | 0, text => (front.reverse, text)
  | steps + 1, text =>
    match text with
    | [] => (front.reverse, [])
    | '"' :: rest => (front.reverse, rest)
    | '\\' :: c :: rest =>
      if c ∈ ['"', '\\', '$', '\x60'] then doubleQuoted (.text [c] :: front) steps rest
      else doubleQuoted (.text ['\\', c] :: front) steps rest
    | '$' :: rest =>
      match parameter true rest with
      | some (part, rest) => doubleQuoted (part :: front) steps rest
      | none => doubleQuoted (.text ['$'] :: front) steps rest
    | c :: rest => doubleQuoted (.text [c] :: front) steps rest

/-- A word, and what follows. -/
def word (front : List Part) (plain : Bool) :
    (steps : Nat) → List Char → (List Part × Bool) × List Char
  | 0, text => ((front.reverse, plain), text)
  | steps + 1, text =>
    match text with
    | [] => ((front.reverse, plain), [])
    | '\'' :: rest =>
      let quoted := rest.takeWhile (· != '\'')
      word (.text quoted :: front) false steps (rest.drop (quoted.length + 1))
    | '"' :: rest =>
      let (parts, rest) := doubleQuoted [] rest.length rest
      word ((.text [] :: parts).reverse ++ front) false steps rest
    | '\\' :: c :: rest => word (.text [c] :: front) false steps rest
    | '$' :: rest =>
      match parameter false rest with
      | some (part, rest) => word (part :: front) plain steps rest
      | none => word (.text ['$'] :: front) plain steps rest
    | c :: rest =>
      if endsWord c then ((front.reverse, plain), c :: rest)
      else word (.text [c] :: front) plain steps rest

/-- The number of a stream. -/
def streamOf (digit : Char) : Nat := digit.toNat - '0'.toNat

/-- The pieces of a script; `steps` bounds their number. -/
def tokens : (steps : Nat) → List Char → List Token
  | 0, _ => []
  | steps + 1, text =>
    match text with
    | [] => []
    | '#' :: rest => tokens steps (rest.dropWhile (· != '\n'))
    | '\\' :: '\n' :: rest => tokens steps rest
    | '&' :: '&' :: rest => .both :: tokens steps rest
    | '|' :: '|' :: rest => .either :: tokens steps rest
    | '>' :: '&' :: d :: rest => .duplicate 1 (streamOf d) :: tokens steps rest
    | '>' :: '>' :: rest => .redirect 1 true :: tokens steps rest
    | '>' :: rest => .redirect 1 false :: tokens steps rest
    | '<' :: rest => .redirect 0 false :: tokens steps rest
    | '2' :: '>' :: '&' :: d :: rest => .duplicate 2 (streamOf d) :: tokens steps rest
    | '2' :: '>' :: '>' :: rest => .redirect 2 true :: tokens steps rest
    | '2' :: '>' :: rest => .redirect 2 false :: tokens steps rest
    | '1' :: '>' :: '&' :: d :: rest => .duplicate 1 (streamOf d) :: tokens steps rest
    | '1' :: '>' :: rest => .redirect 1 false :: tokens steps rest
    | c :: rest =>
      if c ∈ ['\n', ';', '|'] then .stop :: tokens steps rest
      else if c = '&' then .background :: tokens steps rest
      else if c = '(' then .opening :: tokens steps rest
      else if c = ')' then .closing :: tokens steps rest
      else if endsWord c then tokens steps rest
      else
        let ((parts, plain), rest) := word [] true (rest.length + 1) (c :: rest)
        .word parts plain :: tokens steps rest

/-- The text of a word that has no parameters. -/
def wordText (parts : List Part) : List Char :=
  parts.flatMap fun
    | .text text => text
    | _ => ['\x00']

/-- Is the piece this word, without quotes, or this bracket? -/
def Token.isWord (token : Token) (text : String) : Bool :=
  match token with
  | .word parts true => wordText parts = text.toList
  | .opening => text = "("
  | .closing => text = ")"
  | _ => false

/-! ## Commands -/

/-- Where a stream of a command goes. -/
inductive Outlet
  /-- To one of the script's own streams. -/
  | stream (number : Nat)
  /-- Into a file, at its end or in place of what it held. -/
  | file (path : List Part) (append : Bool)
  deriving DecidableEq, Repr

/-- A command. -/
inductive Command
  /-- A command with its words and the places of its two streams. -/
  | plain (words : List (List Part)) (out err : Outlet)
  /-- A variable takes a value. -/
  | assign (name : List Char) (value : List Part)
  /-- As long as the condition holds, or as long as it does not, the body. -/
  | loop (holds : Bool) (condition body : List Command)
  /-- The body for each of some words. -/
  | each (name : List Char) (words : List (List Part)) (body : List Command)
  /-- One or the other, as the condition holds or not. -/
  | choice (condition yes no : List Command)
  /-- The second, if the first succeeds. -/
  | both (first second : Command)
  /-- The second, if the first fails. -/
  | either (first second : Command)
  /-- A command that fails where it would succeed. -/
  | negation (command : Command)
  /-- A command that is not waited for. -/
  | background (command : Command)
  /-- Commands with the places of their two streams. -/
  | group (body : List Command) (out err : Outlet)
  deriving Inhabited

/-- A word that is the name of a variable, an equals sign and a value. -/
def assignment? (parts : List Part) : Option (List Char × List Part) :=
  let name := parts.takeWhile fun
    | .text [c] => isNameChar c
    | _ => false
  match name, parts.drop name.length with
  | [], _ => none
  | name, .text ['='] :: value => some (wordText name, value)
  | _, _ => none

/-- A command of some words. -/
def simple (words : List (List Part)) (out err : Outlet) : Command :=
  match words with
  | [word] =>
    match assignment? word with
    | some (name, value) => .assign name value
    | none => .plain words out err
  | _ => .plain words out err

/-- A command up to its end; `front` holds the words already read, the last one first. -/
def readSimple (front : List (List Part)) (out err : Outlet) :
    List Token → Command × List Token
  | .word parts _ :: rest => readSimple (parts :: front) out err rest
  | .redirect stream append :: .word path _ :: rest =>
    match stream with
    | 0 => readSimple front out err rest
    | 1 => readSimple front (.file path append) err rest
    | _ => readSimple front out (.file path append) rest
  | .redirect _ _ :: rest => readSimple front out err rest
  | .duplicate stream other :: rest =>
    let target := if other = 1 then out else err
    if stream = 1 then readSimple front target err rest else readSimple front out target rest
  | rest => (simple front.reverse out err, rest)

/-- Commands with the redirections that follow them. -/
def readGroup (body : List Command) (out err : Outlet) : List Token → Command × List Token
  | .redirect stream append :: .word path _ :: rest =>
    match stream with
    | 0 => readGroup body out err rest
    | 1 => readGroup body (.file path append) err rest
    | _ => readGroup body out (.file path append) rest
  | .duplicate stream other :: rest =>
    let target := if other = 1 then out else err
    if stream = 1 then readGroup body target err rest else readGroup body out target rest
  | rest => (.group body out err, rest)

/-- The words up to the next other piece. -/
def takeWords : List Token → List (List Part) × List Token
  | .word parts _ :: rest =>
    let (words, rest) := takeWords rest
    (parts :: words, rest)
  | rest => ([], rest)

mutual

/-- One command; `steps` bounds the number of steps. -/
def readCommand : (steps : Nat) → List Token → Command × List Token
  | steps + 1, token :: rest =>
    if token.isWord "while" ∨ token.isWord "until" then
      let (condition, rest) := readCommands ["do"] steps rest
      let (body, rest) := readCommands ["done"] steps (rest.drop 1)
      readGroup [.loop (token.isWord "while") condition body] (.stream 1) (.stream 2)
        (rest.drop 1)
    else if token.isWord "!" then
      let (command, rest) := readCommand steps rest
      (.negation command, rest)
    else if token.isWord "\x7b" then
      let (body, rest) := readCommands ["\x7d"] steps rest
      readGroup body (.stream 1) (.stream 2) (rest.drop 1)
    else if token.isWord "(" then
      let (body, rest) := readCommands [")"] steps rest
      readGroup body (.stream 1) (.stream 2) (rest.drop 1)
    else if token.isWord "for" then
      let (words, rest) := takeWords rest
      let (_, rest) := readCommands ["do"] steps rest
      let (body, rest) := readCommands ["done"] steps (rest.drop 1)
      readGroup [.each (wordText (words.headD [])) (words.drop 2) body] (.stream 1) (.stream 2)
        (rest.drop 1)
    else if token.isWord "if" ∨ token.isWord "elif" then
      let (condition, rest) := readCommands ["then"] steps rest
      let (yes, rest) := readCommands ["elif", "else", "fi"] steps (rest.drop 1)
      match rest with
      | [] => (.choice condition yes [], [])
      | mark :: rest =>
        if mark.isWord "elif" then
          let (inner, rest) := readCommand steps (mark :: rest)
          (.choice condition yes [inner], rest)
        else if mark.isWord "else" then
          let (no, rest) := readCommands ["fi"] steps rest
          (.choice condition yes no, rest.drop 1)
        else (.choice condition yes [], rest)
    else readSimple [] (.stream 1) (.stream 2) (token :: rest)
  | _, _ => (.plain [] (.stream 1) (.stream 2), [])

/-- A command, and those that depend on it. -/
def readChain (first : Command) : (steps : Nat) → List Token → Command × List Token
  | steps + 1, .both :: rest =>
    let (second, rest) := readCommand steps rest
    readChain (.both first second) steps rest
  | steps + 1, .either :: rest =>
    let (second, rest) := readCommand steps rest
    readChain (.either first second) steps rest
  | _, rest => (first, rest)

/-- Commands up to one of the words that end them; what follows begins with that word. -/
def readCommands (ends : List String) : (steps : Nat) → List Token → List Command × List Token
  | steps + 1, .stop :: rest => readCommands ends steps rest
  | steps + 1, token :: rest =>
    if ends.any token.isWord then ([], token :: rest)
    else
      let (first, rest) := readCommand steps (token :: rest)
      let (chain, rest) := readChain first steps rest
      match rest with
      | .background :: rest =>
        let (more, rest) := readCommands ends steps rest
        (.background chain :: more, rest)
      | rest =>
        let (more, rest) := readCommands ends steps rest
        (chain :: more, rest)
  | _, rest => ([], rest)

end

/-- Reads a script. -/
def parse (text : List Char) : List Command :=
  let pieces := tokens (text.length + 1) text
  (readCommands [] (2 * pieces.length + 2) pieces).1

end MountControl.Host.Script
