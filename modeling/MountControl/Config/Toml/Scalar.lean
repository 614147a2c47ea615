/-
  MountControl — TOML: keys and plain values.

  Each function reads one thing at the front of a text and gives it with
  what follows, or nothing where the text is not well formed.

  * `basic`, `literal` and their forms of many lines are texts;
  * `key` is a key with its dots;
  * `number?` is the value of a number, `dateTime?` says whether a text is a
    date, a time, or both.
-/
import MountControl.Config.Value
import MountControl.Text.Split

namespace MountControl.Config.Toml

/-- A thing that was read, and what follows it. -/
abbrev Parsed (α : Type) := Option (α × List Char)

/-- Blanks within a line. -/
def isGap (c : Char) : Bool := c = ' ' || c = '\t'

/-- Skips blanks within a line. -/
def skipGap (text : List Char) : List Char := text.dropWhile isGap

/-- Control characters other than the tab. -/
def isBanned (c : Char) : Bool := (c.toNat < 0x20 && c != '\t') || c.toNat = 0x7F

/-- Skips one line break. -/
def skipBreak? : List Char → Option (List Char)
  | '\n' :: rest => some rest
  | '\r' :: '\n' :: rest => some rest
  | _ => none

/-! ## Texts -/

/-- The character of an escape, after the backslash. -/
def escape : List Char → Parsed Char
  | 'b' :: rest => some ('\x08', rest)
  | 't' :: rest => some ('\t', rest)
  | 'n' :: rest => some ('\n', rest)
  | 'f' :: rest => some ('\x0c', rest)
  | 'r' :: rest => some ('\r', rest)
  | '"' :: rest => some ('"', rest)
  | '\\' :: rest => some ('\\', rest)
  | 'u' :: rest => byCode 4 rest
  | 'U' :: rest => byCode 8 rest
  | _ => none
where
  /-- The character of a code point with so many digits. -/
  byCode (digits : Nat) (text : List Char) : Parsed Char :=
    if text.length < digits then none
    else
      match Text.Numeral.value? 16 (text.take digits) with
      | some n => if n.isValidChar then some (Char.ofNat n, text.drop digits) else none
      | none => none

theorem length_escape {text rest : List Char} {c : Char} (h : escape text = some (c, rest)) :
    rest.length ≤ text.length := by
  unfold escape at h
  split at h <;> first
    | (simp only [Option.some.injEq, Prod.mk.injEq] at h; rw [← h.2]; simp)
    | (unfold escape.byCode at h
       split at h
       · simp at h
       · split at h
         · split at h
           · simp only [Option.some.injEq, Prod.mk.injEq] at h
             rw [← h.2]
             simp only [List.length_drop, List.length_cons]
             omega
           · simp at h
         · simp at h)
    | simp at h

/-- A text in double quotes, after the opening one; `front` holds what was read, its last
    character first. -/
def basic (front : List Char) (text : List Char) : Parsed (List Char) :=
  match text with
  | [] => none
  | '"' :: rest => some (front.reverse, rest)
  | '\\' :: rest =>
    match h : escape rest with
    | some (c, rest') =>
      have := length_escape h
      basic (c :: front) rest'
    | none => none
  | c :: rest => if isBanned c then none else basic (c :: front) rest
termination_by text.length

/-- A text in single quotes, after the opening one. -/
def literal (text : List Char) : Parsed (List Char) :=
  let content := text.takeWhile (· != '\'')
  if content.any isBanned then none
  else
    match text.drop content.length with
    | _ :: rest => some (content, rest)
    | [] => none

/-- After a backslash at the end of a line: what follows all blanks and line breaks, if nothing
    but blanks is before the first break. -/
def continued? (text : List Char) : Option (List Char) :=
  match skipBreak? (skipGap text) with
  | none => none
  | some rest => some (skipAll rest)
where
  /-- Skips blanks and line breaks. -/
  skipAll : List Char → List Char
    | '\r' :: '\n' :: rest => skipAll rest
    | c :: rest => if isGap c || c = '\n' then skipAll rest else c :: rest
    | [] => []

theorem length_skipAll (text : List Char) : (continued?.skipAll text).length ≤ text.length := by
  fun_induction continued?.skipAll text <;> simp_all <;> omega

theorem length_skipBreak {text rest : List Char} (h : skipBreak? text = some rest) :
    rest.length < text.length := by
  unfold skipBreak? at h
  split at h <;> simp only [Option.some.injEq, reduceCtorEq] at h <;> subst h <;>
    simp only [List.length_cons] <;> omega

theorem length_continued {text rest : List Char} (h : continued? text = some rest) :
    rest.length ≤ text.length := by
  unfold continued? at h
  split at h
  · simp at h
  · next rest' hbreak =>
    have h1 := length_skipBreak hbreak
    have h2 := length_skipAll rest'
    have h3 : (skipGap text).length ≤ text.length := (List.dropWhile_sublist _).length_le
    simp only [Option.some.injEq] at h
    subst h
    omega

/-- A text in three quotes each, after the opening ones and the line break behind them.  Up to two
    quotes may stand before the closing ones.  `escapes` says whether backslashes mean
    anything. -/
def long (quote : Char) (escapes : Bool) (front : List Char) (text : List Char) :
    Parsed (List Char) :=
  match text with
  | [] => none
  | c :: rest =>
    if c = quote then
      let quotes := text.takeWhile (· = quote)
      if quotes.length < 3 then long quote escapes (c :: front) rest
      else if 5 < quotes.length then none
      else
        some (front.reverse ++ List.replicate (quotes.length - 3) quote, text.drop quotes.length)
    else if c = '\\' ∧ escapes then
      match h : continued? rest with
      | some rest' =>
        have := length_continued h
        long quote escapes front rest'
      | none =>
        match h : escape rest with
        | some (c, rest') =>
          have := length_escape h
          long quote escapes (c :: front) rest'
        | none => none
    else if c = '\n' then long quote escapes (c :: front) rest
    else if c = '\r' ∧ rest.head? = some '\n' then long quote escapes front rest
    else if isBanned c then none
    else long quote escapes (c :: front) rest
termination_by text.length

/-- The text after the opening quotes of a long text: a line break there does not count. -/
def afterOpening (text : List Char) : List Char := (skipBreak? text).getD text

/-- Any text. -/
def anyText : List Char → Parsed (List Char)
  | '"' :: '"' :: '"' :: rest => long '"' true [] (afterOpening rest)
  | '\'' :: '\'' :: '\'' :: rest => long '\'' false [] (afterOpening rest)
  | '"' :: rest => basic [] rest
  | '\'' :: rest => literal rest
  | _ => none

/-! ## Keys -/

/-- May the character stand in a key without quotes? -/
def isKeyChar (c : Char) : Bool := c.isAlphanum || c = '_' || c = '-'

/-- A part of a key. -/
def keyPart (text : List Char) : Parsed String :=
  match text with
  | '"' :: rest => (basic [] rest).map fun (part, rest) => (String.ofList part, rest)
  | '\'' :: rest => (literal rest).map fun (part, rest) => (String.ofList part, rest)
  | _ =>
    let part := text.takeWhile isKeyChar
    if part.isEmpty then none else some (String.ofList part, text.drop part.length)

/-- The most parts of a key, and how deep values may be nested. -/
def maxDepth : Nat := 79

/-- A key: parts with dots between them, blanks around them. -/
def key : (parts : Nat) → List Char → Parsed (List String)
  | 0, _ => none
  | parts + 1, text =>
    match keyPart (skipGap text) with
    | none => none
    | some (part, rest) =>
      match skipGap rest with
      | '.' :: rest => (key parts rest).map fun (more, rest) => (part :: more, rest)
      | rest => some ([part], rest)

/-! ## Numbers -/

/-- The digits of a class, with single underscores between them. -/
def digitRun (p : Char → Bool) (text : List Char) : Option (List Char) :=
  let digits := text.filter (· != '_')
  if digits.isEmpty || !digits.all p then none
  else if (Text.fields '_' text).any List.isEmpty then none
  else some digits

/-- A whole number of 64 bits, with a sign. -/
def bounded? (negative : Bool) (n : Nat) : Option Value :=
  if negative then if n ≤ 0x8000000000000000 then some (.integer (-(n : Int))) else none
  else if n < 0x8000000000000000 then some (.integer n) else none

/-- Does the text start with a zero that other digits follow? -/
def hasLeadingZero (digits : List Char) : Bool := digits.head? = some '0' && 1 < digits.length

/-- The power of ten behind an `e`. -/
def exponent? (text : List Char) : Option Int :=
  match text with
  | '-' :: digits => (magnitude? digits).map fun n => -(n : Int)
  | '+' :: digits => (magnitude? digits).map fun n => (n : Int)
  | digits => (magnitude? digits).map fun n => (n : Int)
where
  /-- The digits as a number. -/
  magnitude? (text : List Char) : Option Nat :=
    (digitRun Char.isDigit text).bind (Text.Numeral.value? 10)

/-- A number without its sign: whole, or with a fraction or an exponent. -/
def decimal? (negative : Bool) (text : List Char) : Option Value :=
  let isMantissa (c : Char) : Bool := c != 'e' && c != 'E'
  let mantissa := text.takeWhile isMantissa
  let power := text.drop mantissa.length
  let (whole, part) := match Text.cut '.' mantissa with
    | some (whole, part) => (whole, some part)
    | none => (mantissa, none)
  match digitRun Char.isDigit whole with
  | none => none
  | some digits =>
    if hasLeadingZero (whole.filter (· != '_')) then none
    else
      match part, power with
      | none, [] => (Text.Numeral.value? 10 digits).bind (bounded? negative)
      | _, _ =>
        match part.elim (some []) (digitRun Char.isDigit), power with
        | none, _ => none
        | some places, [] => held? ⟨negative, number (digits ++ places), -(places.length : Int)⟩
        | some places, _ :: power =>
          (exponent? power).bind fun e =>
            held? ⟨negative, number (digits ++ places), e - places.length⟩
where
  /-- The digits as a number. -/
  number (digits : List Char) : Nat := (Text.Numeral.value? 10 digits).getD 0
  /-- A number that is not too large; below zero, too large a one is nothing. -/
  held? (d : Text.Decimal) : Option Value :=
    if d.isInfinite && !d.negative then none else some (.ofDecimal d)

/-- The value of a number. -/
def number? (text : List Char) : Option Value :=
  match text with
  | '0' :: 'x' :: digits => inBase 16 digits
  | '0' :: 'o' :: digits => inBase 8 digits
  | '0' :: 'b' :: digits => inBase 2 digits
  | '-' :: rest => signed true rest
  | '+' :: rest => signed false rest
  | _ => signed false text
where
  /-- A whole number in another base. -/
  inBase (base : Nat) (text : List Char) : Option Value :=
    ((digitRun (fun c => (Text.Numeral.digitIn? base c).isSome) text).bind
      (Text.Numeral.value? base)).bind (bounded? false)
  /-- A number after its sign. -/
  signed (negative : Bool) (text : List Char) : Option Value :=
    if text = "inf".toList ∨ text = "nan".toList then some .null else decimal? negative text

/-! ## Dates and times -/

/-- A number of two digits below a bound. -/
def twoDigits? (low high : Nat) : List Char → Option (Nat × List Char)
  | a :: b :: rest =>
    ((Text.Numeral.value? 10 [a, b]).filter fun n => low ≤ n ∧ n ≤ high).map (·, rest)
  | _ => none

/-- The days of a month. -/
def daysIn (year month : Nat) : Nat :=
  if month = 2 then
    if year % 4 = 0 ∧ (year % 100 ≠ 0 ∨ year % 400 = 0) then 29 else 28
  else if month = 4 ∨ month = 6 ∨ month = 9 ∨ month = 11 then 30
  else 31

/-- What follows a date at the front of a text. -/
def afterDate? (text : List Char) : Option (List Char) :=
  match Text.Numeral.value? 10 (text.take 4), text.drop 4 with
  | some year, '-' :: rest =>
    match twoDigits? 1 12 rest with
    | some (month, '-' :: rest) => (twoDigits? 1 (daysIn year month) rest).map (·.2)
    | _ => none
  | _, _ => none

/-- What follows a time at the front of a text. -/
def afterTime? (text : List Char) : Option (List Char) :=
  match twoDigits? 0 23 text with
  | some (_, ':' :: rest) =>
    match twoDigits? 0 59 rest with
    | some (_, ':' :: rest) =>
      match twoDigits? 0 60 rest with
      | some (_, '.' :: rest) =>
        let places := rest.takeWhile Char.isDigit
        if places.isEmpty then none else some (rest.drop places.length)
      | some (_, rest) => some rest
      | none => none
    | _ => none
  | _ => none

/-- Is the text a distance from universal time, or empty? -/
def isOffset (text : List Char) : Bool :=
  match text with
  | [] => true
  | ['z'] => true
  | ['Z'] => true
  | sign :: rest =>
    (sign = '+' || sign = '-') &&
      match twoDigits? 0 23 rest with
      | some (_, ':' :: rest) => (twoDigits? 0 59 rest).map (·.2) = some []
      | _ => false

/-- Is the text a date, a time, or both? -/
def isDateTime (text : List Char) : Bool :=
  match afterDate? text with
  | some [] => true
  | some (c :: rest) =>
    (c = 'T' || c = 't' || c = ' ') && ((afterTime? rest).map isOffset).getD false
  | none => afterTime? text = some []

/-- The key under which a date or time is held. -/
def dateTimeKey : String := "$__toml_private_datetime"

/-- The value of a date or time. -/
def dateTimeValue (text : List Char) : Value := .map [(dateTimeKey, .string (String.ofList text))]

end MountControl.Config.Toml
