/-
  MountControl — TOML documents.

  A document is a sequence of lines: entries, and headers that say into
  which table the following entries go.  What a line may still add depends
  on how the tables on its way came to be, so the tree under construction
  keeps their `Origin`.

  * `value` reads a value, over several lines if it has to;
  * `Node.within` follows a header's way through the tree, `assign` puts an
    entry into a table;
  * `parse` reads a whole document.
-/
import MountControl.Config.Toml.Scalar

namespace MountControl.Config.Toml

/-! ## Trees under construction -/

/-- How a table came to be. -/
inductive Origin
  /-- On the way to another table. -/
  | implied
  /-- By a header of its own. -/
  | header
  /-- By a key with dots. -/
  | dotted
  deriving DecidableEq, Repr

/-- A tree under construction. -/
inductive Node
  /-- A value, to which nothing can be added. -/
  | value (value : Value)
  /-- A table. -/
  | table (origin : Origin) (entries : List (String × Node))
  /-- A list of tables, each begun by a header. -/
  | tables (items : List (List (String × Node)))
  deriving Inhabited

/-- The entries of a table. -/
abbrev Entries := List (String × Node)

/-- The node of a key. -/
def lookUp (key : String) (entries : Entries) : Option Node :=
  (entries.find? (·.1 = key)).map (·.2)

/-- Replaces the node of a key. -/
def replace (key : String) (node : Node) (entries : Entries) : Entries :=
  entries.map fun (name, old) => if name = key then (name, node) else (name, old)

/-- Puts a value under a key; the tables on the way of a key with dots are made, or were made by
    such keys. -/
def assign (value : Node) : List String → Entries → Option Entries
  | [], _ => none
  | [key], entries =>
    match lookUp key entries with
    | none => some (entries ++ [(key, value)])
    | some _ => none
  | key :: keys, entries =>
    match lookUp key entries with
    | none => (assign value keys []).map fun inner => entries ++ [(key, .table .dotted inner)]
    | some (.table .header _) => none
    | some (.table .implied inner) =>
      if keys.length = 1 then none
      else (assign value keys inner).map fun inner => replace key (.table .implied inner) entries
    | some (.table .dotted inner) =>
      (assign value keys inner).map fun inner => replace key (.table .dotted inner) entries
    | some (.tables items) =>
      if keys.length = 1 then none
      else
        match items.getLast? with
        | none => none
        | some inner =>
          (assign value keys inner).map fun inner =>
            replace key (.tables (items.dropLast ++ [inner])) entries
    | some (.value _) => none

/-- Changes the table to which a header's keys lead; missing tables on the way are made, and of a
    list of tables the last one counts. -/
def within (change : Entries → Option Entries) : List String → Entries → Option Entries
  | [], entries => change entries
  | key :: keys, entries =>
    match lookUp key entries with
    | none => (within change keys []).map fun inner => entries ++ [(key, .table .implied inner)]
    | some (.table origin inner) =>
      (within change keys inner).map fun inner => replace key (.table origin inner) entries
    | some (.tables items) =>
      match items.getLast? with
      | none => none
      | some inner =>
        (within change keys inner).map fun inner =>
          replace key (.tables (items.dropLast ++ [inner])) entries
    | some (.value _) => none

/-- Begins the table of a header. -/
def beginTable (keys : List String) (root : Entries) : Option Entries :=
  match keys.getLast? with
  | none => none
  | some key =>
    within (fun entries =>
      match lookUp key entries with
      | none => some (entries ++ [(key, .table .header [])])
      | some (.table .implied inner) => some (replace key (.table .header inner) entries)
      | some _ => none) keys.dropLast root

/-- Begins another table in the list of a header. -/
def beginItem (keys : List String) (root : Entries) : Option Entries :=
  match keys.getLast? with
  | none => none
  | some key =>
    within (fun entries =>
      match lookUp key entries with
      | none => some (entries ++ [(key, .tables [[]])])
      | some (.tables items) => some (replace key (.tables (items ++ [[]])) entries)
      | some _ => none) keys.dropLast root

mutual

/-- The finished tree. -/
def Node.toValue : Node → Value
  | .value value => value
  | .table _ entries => .map (entryValues entries)
  | .tables items => .list (tableValues items)

/-- The finished trees of entries. -/
def entryValues : List (String × Node) → List (String × Value)
  | [] => []
  | (key, node) :: entries => (key, node.toValue) :: entryValues entries

/-- The finished trees of tables. -/
def tableValues : List (List (String × Node)) → List Value
  | [] => []
  | entries :: items => .map (entryValues entries) :: tableValues items

end

/-! ## Values -/

/-- Skips a comment, up to the end of its line; none where it has a control character. -/
def skipComment? (text : List Char) : Option (List Char) :=
  match text with
  | '#' :: rest =>
    let comment := rest.takeWhile fun c => c != '\n' && c != '\r'
    if comment.any isBanned then none else some (rest.drop comment.length)
  | _ => some text

/-- Skips blanks, comments and line breaks; `steps` bounds the number of lines. -/
def skipLines? : (steps : Nat) → List Char → Option (List Char)
  | 0, text => some text
  | steps + 1, text =>
    match skipComment? (skipGap text) with
    | none => none
    | some rest =>
      match skipBreak? rest with
      | some rest => skipLines? steps rest
      | none => some rest

/-- May the character stand in a number, a date or a truth value? -/
def isPlainChar (c : Char) : Bool :=
  c.isAlphanum || c ∈ ['+', '-', '_', '.', ':']

/-- A number, a date or a truth value. -/
def plain (text : List Char) : Parsed Value :=
  let word := text.takeWhile isPlainChar
  let rest := text.drop word.length
  if word = "true".toList then some (.bool true, rest)
  else if word = "false".toList then some (.bool false, rest)
  else
    let time := (rest.drop 1).takeWhile isPlainChar
    let both := word ++ ' ' :: time
    if rest.head? = some ' ' ∧ isDateTime both then
      some (dateTimeValue both, rest.drop (time.length + 1))
    else if isDateTime word then some (dateTimeValue word, rest)
    else (number? word).map (·, rest)

mutual

/-- A value, without blanks before it; `depth` bounds how deep it is nested. -/
def value (depth : Nat) (text : List Char) : Parsed Value :=
  match depth, text with
  | 0, '[' :: _ => none
  | 0, '\x7b' :: _ => none
  | depth + 1, '[' :: rest =>
    (items depth (rest.length + 1) rest).map fun (items, rest) => (.list items, rest)
  | depth + 1, '\x7b' :: rest =>
    match skipGap rest with
    | '\x7d' :: rest => some (.map [], rest)
    | _ =>
      (entries depth rest.length [] rest).map fun (entries, rest) =>
        (.map (entryValues entries), rest)
  | _, '"' :: _ => (anyText text).map fun (text, rest) => (.string (String.ofList text), rest)
  | _, '\'' :: _ => (anyText text).map fun (text, rest) => (.string (String.ofList text), rest)
  | _, _ => plain text
termination_by (depth, 0)

/-- The items of a list, after the opening bracket or a comma; `steps` bounds their number. -/
def items (depth : Nat) (steps : Nat) (text : List Char) : Parsed (List Value) :=
  match steps with
  | 0 => none
  | steps + 1 =>
    match skipLines? text.length text with
    | none => none
    | some (']' :: rest) => some ([], rest)
    | some text =>
      match value depth text with
      | none => none
      | some (item, rest) =>
        match skipLines? rest.length rest with
        | some (',' :: rest) =>
          (items depth steps rest).map fun (more, rest) => (item :: more, rest)
        | some (']' :: rest) => some ([item], rest)
        | _ => none
termination_by (depth, steps + 1)

/-- The entries of a table in braces, after those already read; `steps` bounds their number. -/
def entries (depth : Nat) (steps : Nat) (front : Entries) (text : List Char) : Parsed Entries :=
  match steps with
  | 0 => none
  | steps + 1 =>
    match key maxDepth text with
    | none => none
    | some (keys, rest) =>
      match skipGap rest with
      | '=' :: rest =>
        match value depth (skipGap rest) with
        | none => none
        | some (item, rest) =>
          match assign (.value item) keys front, skipGap rest with
          | some front, ',' :: rest => entries depth steps front rest
          | some front, '\x7d' :: rest => some (front, rest)
          | _, _ => none
      | _ => none
termination_by (depth, steps + 1)

end

/-! ## Documents -/

/-- What has been read of a document. -/
structure Progress where
  /-- The tree so far. -/
  root : Entries := []
  /-- The keys of the last header. -/
  current : List String := []

/-- Reads one line without its break: the progress, and what follows. -/
def line (progress : Progress) (text : List Char) : Parsed Progress :=
  match skipGap text with
  | '[' :: '[' :: rest =>
    match key maxDepth rest with
    | some (keys, ']' :: ']' :: rest) =>
      (beginItem keys progress.root).map fun root => (⟨root, keys⟩, rest)
    | _ => none
  | '[' :: rest =>
    match key maxDepth rest with
    | some (keys, ']' :: rest) =>
      (beginTable keys progress.root).map fun root => (⟨root, keys⟩, rest)
    | _ => none
  | [] => some (progress, [])
  | c :: rest =>
    if c = '#' ∨ c = '\n' ∨ c = '\r' then some (progress, c :: rest)
    else
      match key maxDepth (c :: rest) with
      | some (keys, '=' :: rest) =>
        match value maxDepth (skipGap rest) with
        | some (item, rest) =>
          (within (assign (.value item) keys) progress.current progress.root).map fun root =>
            ({ progress with root }, rest)
        | none => none
      | _ => none

/-- Reads all lines; `steps` bounds their number. -/
def lines : (steps : Nat) → Progress → List Char → Option Progress
  | 0, _, _ => none
  | steps + 1, progress, text =>
    match line progress text with
    | none => none
    | some (progress, rest) =>
      match skipComment? (skipGap rest) with
      | none => none
      | some [] => some progress
      | some rest => (skipBreak? rest).bind (lines steps progress)

/-- Reads a document; a mark of its byte order is skipped. -/
def parse (text : List Char) : Option Value :=
  let text := match text with
    | '\uFEFF' :: rest => rest
    | _ => text
  (lines (text.length + 1) {} text).map fun progress => .map (entryValues progress.root)

end MountControl.Config.Toml
