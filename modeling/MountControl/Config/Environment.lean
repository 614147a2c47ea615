/-
  MountControl — environment variables.

  The environment gives settings as texts, and places: the directory for
  sockets and the directories in which settings files are looked for.
-/
import MountControl.Config.Settings
import MountControl.Config.Value
import MountControl.Host.Path
import MountControl.Text.Blank

namespace MountControl.Config

/-- What a process knows of its surroundings. -/
structure Environment where
  /-- The variables and their texts. -/
  bindings : List (String × String)
  /-- The number of the user on whose behalf it acts. -/
  user : Nat := 0

/-- The text of a variable. -/
def Environment.get? (env : Environment) (name : String) : Option String :=
  (env.bindings.find? (·.1 = name)).map (·.2)

/-! ## The default endpoint -/

/-- The directory for sockets of the session: absolute, or none. -/
def Environment.runtimeDirectory? (env : Environment) : Option (List Char) :=
  (env.get? "XDG_RUNTIME_DIR").map String.toList |>.filter Host.Path.isAbsolute

/-- The directory for temporary files. -/
def Environment.temporaryDirectory (env : Environment) : List Char :=
  ((env.get? "TMPDIR").getD "/tmp").toList

/-- The endpoint where none is configured: in the session's directory, or in the user's own part
    of the directory for temporary files. -/
def Environment.defaultSocket (env : Environment) : Endpoint :=
  let directory := match env.runtimeDirectory? with
    | some base => Host.Path.join base "btrmount".toList
    | none =>
      Host.Path.join (Host.Path.join env.temporaryDirectory "btrmount".toList)
        ("uid-".toList ++ Text.Numeral.decimal env.user)
  .unix (String.ofList (Host.Path.join directory "btrmountd.sock".toList))

/-- The settings where none are configured. -/
def Environment.defaults (env : Environment) : Settings := { socket := env.defaultSocket }

/-! ## The syntax of values

  A variable is a list of texts where it has commas and no brackets or quotes at its start.
  Otherwise it is a value: a truth value, a number, a character or text in quotes, a list, or a
  map; and where it is none of these, the text itself.
-/

/-- A value and what follows it. -/
abbrev Parsed (α : Type) := Option (α × List Char)

/-- Blanks between parts of a value. -/
def isGap (c : Char) : Bool := c ∈ [' ', '\t', '\n', '\r', '\x0c']

/-- Skips blanks. -/
def skipGap (text : List Char) : List Char := text.dropWhile isGap

/-- Ends a plain value. -/
def isSeparator (c : Char) : Bool := c ∈ [',', '\x7b', '\x7d', '[', ']']

/-- May the character stand in a key without quotes? -/
def isKeyChar (c : Char) : Bool := c.isAlphanum || c = '_' || c = '-'

/-- A character by its hexadecimal code point. -/
def charOfHex? (digits : List Char) : Option Char :=
  (Text.Numeral.value? 16 digits).bind fun n =>
    if n.isValidChar then some (Char.ofNat n) else none

/-- The characters of a text in double quotes, after the opening one; `front` holds those already
    read, the last one first. -/
def quoted (front : List Char) : List Char → Parsed (List Char)
  | [] => none
  | '"' :: rest => some (front.reverse, rest)
  | '\\' :: 'u' :: a :: b :: c :: d :: rest =>
    (charOfHex? [a, b, c, d]).bind fun ch => quoted (ch :: front) rest
  | '\\' :: 'U' :: a :: b :: c :: d :: e :: f :: g :: h :: rest =>
    (charOfHex? [a, b, c, d, e, f, g, h]).bind fun ch => quoted (ch :: front) rest
  | '\\' :: c :: rest =>
    match c with
    | '"' => quoted ('"' :: front) rest
    | '\\' => quoted ('\\' :: front) rest
    | 'b' => quoted ('\x08' :: front) rest
    | 'f' => quoted ('\x0c' :: front) rest
    | 'n' => quoted ('\n' :: front) rest
    | 'r' => quoted ('\r' :: front) rest
    | 't' => quoted ('\t' :: front) rest
    | _ => none
  | c :: rest =>
    if c = '\t' ∨ (0x20 ≤ c.toNat ∧ c.toNat ≠ 0x7F) then quoted (c :: front) rest else none

/-- A fraction: digits with a point, and perhaps a sign and an exponent. -/
def fraction? (text : List Char) : Option Text.Decimal :=
  let (negative, text) := match text with
    | '-' :: rest => (true, rest)
    | '+' :: rest => (false, rest)
    | _ => (false, text)
  let whole := text.takeWhile Char.isDigit
  match text.drop whole.length with
  | '.' :: rest =>
    let part := rest.takeWhile Char.isDigit
    if whole.isEmpty && part.isEmpty then none
    else
      let digits := (Text.Numeral.value? 10 (whole ++ part)).getD 0
      let exponent? : Option Int := match rest.drop part.length with
        | [] => some 0
        | 'e' :: power => signed? power
        | 'E' :: power => signed? power
        | _ => none
      exponent?.map fun e => ⟨negative, digits, e - part.length⟩
  | _ => none
where
  /-- A whole number with an optional sign. -/
  signed? : List Char → Option Int
    | '-' :: digits => (Text.Numeral.value? 10 digits).map fun n => -(n : Int)
    | '+' :: digits => (Text.Numeral.value? 10 digits).map fun n => (n : Int)
    | digits => (Text.Numeral.value? 10 digits).map fun n => (n : Int)

/-- A plain value: a fraction, a number of 64 bits, or the text itself. -/
def plainValue (text : List Char) : Value :=
  match fraction? text with
  | some d => .ofDecimal d
  | none =>
    match Text.Numeral.unsigned? UInt64.size text with
    | some n => .integer n
    | none =>
      match text with
      | '-' :: digits =>
        match (Text.Numeral.value? 10 digits).filter (· ≤ 0x8000000000000000) with
        | some n => .integer (-(n : Int))
        | none => .string (String.ofList text)
      | _ => .string (String.ofList text)

/-- A key, bare or in quotes. -/
def envKey (text : List Char) : Parsed String :=
  match text with
  | '"' :: rest => (quoted [] rest).map fun (key, rest) => (String.ofList key, rest)
  | _ =>
    let key := text.takeWhile isKeyChar
    if key.isEmpty then none else some (String.ofList key, text.drop key.length)

mutual

/-- A value; `depth` bounds how deep lists and maps are nested. -/
def envValue (depth : Nat) (text : List Char) : Parsed Value :=
  (go (skipGap text)).map fun (value, rest) => (value, skipGap rest)
where
  /-- A value without blanks before it. -/
  go (text : List Char) : Parsed Value :=
    match Text.stripPrefix? "true".toList text, Text.stripPrefix? "false".toList text with
    | some rest, _ => some (.bool true, rest)
    | none, some rest => some (.bool false, rest)
    | none, none =>
      match text, depth with
      | '\x7b' :: _, 0 => none
      | '[' :: _, 0 => none
      | '\x7b' :: rest, depth + 1 =>
        (envEntries depth rest.length rest).map fun (entries, rest) =>
          (.map (entries.foldl (fun all (k, v) => putEntry k v all) []), rest)
      | '[' :: rest, depth + 1 =>
        (envItems depth rest.length rest).map fun (items, rest) => (.list items, rest)
      | '"' :: rest, _ =>
        (quoted [] rest).map fun (text, rest) => (.string (String.ofList text), rest)
      | '\'' :: c :: '\'' :: rest, _ => some (.string (String.ofList [c]), rest)
      | '\'' :: _, _ => none
      | text, _ =>
        let plain := text.takeWhile (!isSeparator ·)
        some (plainValue (Text.trim plain), text.drop plain.length)

/-- The items of a list after its opening bracket; `steps` bounds their number. -/
def envItems (depth steps : Nat) (text : List Char) : Parsed (List Value) :=
  match text, steps with
  | ']' :: rest, _ => some ([], rest)
  | _, 0 => none
  | text, steps + 1 =>
    match envValue depth text with
    | some (value, ',' :: rest) =>
      (envItems depth steps rest).map fun (values, rest) => (value :: values, rest)
    | some (value, ']' :: rest) => some ([value], rest)
    | _ => none

/-- The entries of a map after its opening brace; `steps` bounds their number. -/
def envEntries (depth steps : Nat) (text : List Char) : Parsed (List (String × Value)) :=
  match text, steps with
  | '\x7d' :: rest, _ => some ([], rest)
  | _, 0 => none
  | text, steps + 1 =>
    match envKey (skipGap text) with
    | none => none
    | some (key, rest) =>
      match skipGap rest with
      | '=' :: rest =>
        match envValue depth rest with
        | some (value, ',' :: rest) =>
          (envEntries depth steps rest).map fun (more, rest) => ((key, value) :: more, rest)
        | some (value, '\x7d' :: rest) => some ([(key, value)], rest)
        | _ => none
      | _ => none

end

/-- How deep lists and maps may be nested. -/
def maxDepth : Nat := 128

/-- The value of a variable. -/
def variableValue (text : String) : Value :=
  let trimmed := Text.trim text.toList
  let opens := match trimmed with
    | c :: _ => c ∈ ['[', '\x7b', '"', '\'']
    | [] => false
  if ',' ∈ trimmed && !opens then
    .list ((Text.fields ',' trimmed).map fun item => .string (String.ofList (Text.trim item)))
  else
    match envValue maxDepth trimmed with
    | some (value, []) => value
    | _ => .string (String.ofList trimmed)

/-! ## Settings from variables -/

/-- What the names of variables for settings start with. -/
def variablePrefix : String := "BTRMOUNT_"

/-- The texts between double underscores. -/
def splitDouble (text : List Char) : List (List Char) :=
  go [] text
where
  /-- Splits on; `front` holds the current part, its last character first. -/
  go (front : List Char) : List Char → List (List Char)
    | '_' :: '_' :: rest => front.reverse :: go [] rest
    | c :: rest => go (c :: front) rest
    | [] => [front.reverse]

/-- The settings that variables give: names in letters of any case, double underscores between
    keys within keys. -/
def Environment.settings (env : Environment) : Value :=
  env.bindings.foldl (fun all (name, text) =>
    match Text.stripPrefix? (variablePrefix.toList.map Char.toLower)
        (name.toList.map Char.toLower) with
    | none => all
    | some key =>
      (Value.nested ((splitDouble key).map String.ofList) (variableValue text)).over all)
    (.map [])

end MountControl.Config
