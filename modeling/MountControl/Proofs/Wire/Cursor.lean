/-
  MountControl — the reader as a cursor over its whole input.

  `Reader` keeps what is left of a body.  A `Cursor` stands in the whole of
  it: its offset is a machine word that moves on by lengths which the input
  declares, by what is left behind a value, and by line feeds that may not be
  there.  Wherever a sum might not fit a word, or a cut might miss a boundary,
  its step ends in a `Mishap`.  The texts of a host are shorter than 2 ^ 63
  bytes, so one more than the bytes of a text is a word.

  * `Cursor.next` is one step;
  * `pastLine_eq`: at the end of a line, with or without a line feed, a
    cursor is at the start of the next one;
  * `keyed?_line_eq_some` and `countedValue?_of_declared?`: keys and lengths
    are found on the line where the reader finds them in the text.
-/
import MountControl.Proofs.Text.Slices
import MountControl.Proofs.Wire.LineNumbers

namespace MountControl.Text

/-! ## Fronts of texts -/

theorem byteLength_wholeLine (text : List Char) :
    byteLength (wholeLine text) =
      min (byteLength (line text) + 1) (byteLength text) := by
  by_cases hbreak : '\n' ∈ text
  · obtain ⟨front, rest, rfl, hfront⟩ := List.eq_append_cons_of_mem hbreak
    rw [wholeLine_append hfront, line_append hfront]
    simp only [byteLength_append, byteLength_lineFeed, byteLength_nil]
    omega
  · have hwhole := wholeLine_append_afterLine text
    rw [afterLine_of_not_mem hbreak, List.append_nil] at hwhole
    rw [hwhole, line_of_not_mem hbreak]
    omega

theorem stripPrefix?_eq_some {front text rest : List Char} :
    stripPrefix? front text = some rest ↔ text = front ++ rest := by
  rw [stripPrefix?]
  constructor
  · intro h
    split at h
    next hprefix =>
      cases h
      exact (List.prefix_iff_eq_append.1 (List.isPrefixOf_iff_prefix.1 hprefix)).symm
    next => cases h
  · rintro rfl
    rw [if_pos (List.isPrefixOf_iff_prefix.2 (List.prefix_append front rest)), List.drop_left]

theorem stripPrefix?_eq_none {front text : List Char} :
    stripPrefix? front text = none ↔ ¬ front <+: text := by
  rw [Option.eq_none_iff_forall_ne_some]
  constructor
  · rintro h ⟨rest, hrest⟩
    exact h rest (stripPrefix?_eq_some.2 hrest.symm)
  · intro h rest hrest
    exact h ⟨rest, (stripPrefix?_eq_some.1 hrest).symm⟩

theorem filter_bar_eq_none {name line : List Char} :
    (stripPrefix? name line).filter (·.head? = some '|') = none ↔
      ¬ name ++ ['|'] <+: line := by
  rw [Option.filter_eq_none_iff]
  constructor
  · rintro h ⟨rest, hrest⟩
    exact h ('|' :: rest) (stripPrefix?_eq_some.2 (by rw [← hrest]; simp)) (by simp)
  · intro h after hafter hhead
    cases after with
    | nil => simp at hhead
    | cons c rest =>
      obtain rfl : c = '|' := by simpa using hhead
      exact h ⟨rest, by rw [stripPrefix?_eq_some.1 hafter]; simp⟩

theorem wholeLine_ne_nil {text : List Char} (h : text ≠ []) : wholeLine text ≠ [] := by
  intro hnil
  have hshort := Wire.length_afterLine_lt h
  have htext := congrArg List.length (wholeLine_append_afterLine text)
  rw [hnil, List.nil_append] at htext
  omega

end MountControl.Text

namespace MountControl.Wire

open Text (checkedSum? past? size slice?)

/-! ## The cursor -/

/-- What must not happen on the way through a text. -/
inductive Mishap
  /-- A sum does not fit a word. -/
  | overflow
  /-- A text is cut outside of it, or inside a character. -/
  | outside
  deriving DecidableEq, Repr

/-- What is there, or a mishap where nothing is. -/
def orMishap {α : Type} (mishap : Mishap) : Option α → Except Mishap α
  | some a => .ok a
  | none => .error mishap

@[simp] theorem orMishap_some {α : Type} (mishap : Mishap) (a : α) :
    orMishap mishap (some a) = .ok a := rfl

@[simp] theorem ok_bind {α β : Type} (a : α) (f : α → Except Mishap β) : (.ok a >>= f) = f a := rfl

/-- A position in the whole of a text. -/
structure Cursor where
  /-- The bytes before it. -/
  offset : UInt64
  /-- The line on which it stands. -/
  line : Nat
  /-- An issue still to be handed out. -/
  pending : Option Issue
  deriving DecidableEq, Repr

/-- One spelling of a counted key at the front of a line, and the offset behind its bar. -/
def spelled? (line : List Char) (spelling : String × CountedKey) : Option (CountedKey × UInt64) :=
  ((Text.stripPrefix? spelling.1.toList line).filter (·.head? = some '|')).map fun _ =>
    (spelling.2, size spelling.1.toList + 1)

/-- The counted key at the front of a line, and the offset behind its bar. -/
def keyed? (line : List Char) : Option (CountedKey × UInt64) :=
  countedKeys.findSome? (spelled? line)

/-- The length that is declared on a line, as it stands there and as a number. -/
def declared? (header : List Char) : Option (List Char × UInt64) :=
  (Text.cut '|' header).bind fun (length, _) => (number? length).map fun bytes => (length, bytes)

section
variable (input : List Char)

/-- The offset behind a line that starts at an offset, and behind its line feed if there is one. -/
def pastLine (start : UInt64) (line : List Char) : Except Mishap UInt64 := do
  let stop ← orMishap .overflow (checkedSum? start (size line))
  let next ← orMishap .overflow (checkedSum? stop 1)
  return min next (size input)

namespace Cursor
variable (cursor : Cursor)

/-- Moves on to the next line, with an item for this one. -/
def skipLine (physical : List Char) (item : Item) : Except Mishap (Item × Cursor) := do
  let offset ← pastLine input cursor.offset physical
  return (item, { cursor with offset, line := cursor.line + 1 })

/-- Moves on past a value, which starts at an offset, and past the rest of its line. -/
def passValue (key : CountedKey) (valueStart length : UInt64) (value : List Char) :
    Except Mishap (Item × Cursor) := do
  let valueEnd ← orMishap .overflow (checkedSum? valueStart length)
  let tail ← orMishap .outside (past? input valueEnd)
  let leftover := Text.line tail
  let offset ← pastLine input valueEnd leftover
  return (.field cursor.line (key.field (String.ofList value)),
    { offset
      line := cursor.line + value.count '\n' + 1
      pending :=
        if leftover.isEmpty then none
        else some (.about (cursor.line + value.count '\n') .trailingBytes leftover) })

/-- Reads a counted record whose key ends at an offset of its line. -/
def readCounted (key : CountedKey) (afterKey : UInt64) (physical : List Char) :
    Except Mishap (Item × Cursor) := do
  let badLength := cursor.skipLine input physical
    (.issue (.about cursor.line .badLength physical))
  let header ← orMishap .outside (past? physical afterKey)
  match declared? header with
  | none => badLength
  | some (lengthText, length) =>
    let keyEnd ← orMishap .overflow (checkedSum? cursor.offset afterKey)
    let lengthEnd ← orMishap .overflow (checkedSum? keyEnd (size lengthText))
    let valueStart ← orMishap .overflow (checkedSum? lengthEnd 1)
    match (checkedSum? valueStart length).bind (slice? input valueStart) with
    | none => badLength
    | some value => cursor.passValue input key valueStart length value

/-- Reads one record, or hands out the issue that the last one left; none at the end. -/
def next : Except Mishap (Option (Item × Cursor)) :=
  match cursor.pending with
  | some issue => .ok (some (.issue issue, { cursor with pending := none }))
  | none => do
    let rest ← orMishap .outside (past? input cursor.offset)
    if rest.isEmpty then return none
    else
      let physical := Text.line rest
      match keyed? physical with
      | some (key, afterKey) => return some (← cursor.readCounted input key afterKey physical)
      | none => return some (← cursor.skipLine input physical (plainItem cursor.line physical))

end Cursor

end

/-! ## Lines -/

section
variable {input before rest afterKey : List Char} {key : CountedKey}

theorem pastLine_eq (hinput : input = before ++ rest)
    (hlong : Text.byteLength input + 1 < UInt64.size) :
    pastLine input (size before) (Text.line rest) = .ok (size (before ++ Text.wholeLine rest)) := by
  have hsum := Text.byteLength_append before rest
  have hline := Text.byteLength_append before (Text.line rest)
  have hwhole := Text.byteLength_append before (Text.wholeLine rest)
  have hmin := Text.byteLength_wholeLine rest
  have hle : Text.byteLength (Text.line rest) ≤ Text.byteLength rest := by
    have := Text.linesLength_afterLine rest
    omega
  rw [← hinput] at hsum
  have hstop := Text.checkedSum?_size before (Text.line rest) (by omega)
  obtain ⟨next, hnext, hvalue⟩ := Text.checkedSum?_one (before ++ Text.line rest) (by omega)
  have hclamp : min next (size input) = size (before ++ Text.wholeLine rest) := by
    apply UInt64.toNat_inj.1
    rw [UInt64.toNat_min, hvalue, Text.toNat_size (by omega), Text.toNat_size (by omega)]
    omega
  simp only [pastLine, hstop, hnext, orMishap_some, ok_bind, hclamp]
  rfl

/-! ## Keys and lengths -/

/-- A spelling with its bar is found on the line as it is in the text. -/
theorem spelled?_line_eq_none {spelling : String × CountedKey} (h : spelling ∈ countedKeys)
    (rest : List Char) :
    spelled? (Text.line rest) spelling = none ↔
      Text.stripPrefix? (spelling.1.toList ++ ['|']) rest = none := by
  have hbreaks : ∀ spelling ∈ countedKeys, '\n' ∉ spelling.1.toList ++ ['|'] := by decide
  rw [spelled?, Option.map_eq_none_iff, Text.filter_bar_eq_none, Text.prefix_line_iff (hbreaks _ h),
    Text.stripPrefix?_eq_none]

theorem keyed?_line_eq_none (h : countedKey? rest = none) : keyed? (Text.line rest) = none := by
  refine List.findSome?_eq_none_iff.2 fun spelling hmem => ?_
  rw [spelled?_line_eq_none hmem]
  exact Option.map_eq_none_iff.1 (List.findSome?_eq_none_iff.1 h spelling hmem)

theorem keyed?_line_eq_some (h : countedKey? rest = some (key, afterKey)) :
    ∃ name : List Char, rest = name ++ '|' :: afterKey ∧ '\n' ∉ name ∧
      keyed? (Text.line rest) = some (key, size (name ++ ['|'])) := by
  have hbreaks : ∀ spelling ∈ countedKeys, '\n' ∉ spelling.1.toList := by decide
  have hsizes : ∀ spelling ∈ countedKeys,
      size spelling.1.toList + 1 = size (spelling.1.toList ++ ['|']) := by decide
  obtain ⟨front, ⟨name, key'⟩, behind, hkeys, hfound, hfront⟩ := List.findSome?_eq_some_iff.1 h
  obtain ⟨after, hafter, heq⟩ := Option.map_eq_some_iff.1 hfound
  cases heq
  have hself : (name, key) ∈ countedKeys := by simp [hkeys]
  refine ⟨name.toList, by simpa using Text.stripPrefix?_eq_some.1 hafter, hbreaks _ hself, ?_⟩
  refine List.findSome?_eq_some_iff.2 ⟨front, (name, key), behind, hkeys, ?_, ?_⟩
  · have hsome : spelled? (Text.line rest) (name, key) ≠ none := by
      rw [ne_eq, spelled?_line_eq_none hself, hafter]
      nofun
    obtain ⟨found, hfound⟩ := Option.ne_none_iff_exists'.1 hsome
    obtain ⟨_, _, rfl⟩ := Option.map_eq_some_iff.1 hfound
    rw [hfound, ← hsizes _ hself]
  · intro spelling hspelling
    have hmem : spelling ∈ countedKeys := by
      rw [hkeys]
      exact List.mem_append_left _ hspelling
    rw [spelled?_line_eq_none hmem]
    exact Option.map_eq_none_iff.1 (hfront spelling hspelling)

/-- A length is declared on the line exactly if it is in the text, where the first bar ends it. -/
theorem countedValue?_of_declared? {length : List Char} {bytes : UInt64}
    (h : declared? (Text.line afterKey) = some (length, bytes)) :
    ∃ body, afterKey = length ++ '|' :: body ∧
      countedValue? afterKey = Text.splitBytes bytes.toNat body := by
  obtain ⟨⟨length', more⟩, hcut, hread⟩ := Option.bind_eq_some_iff.1 h
  obtain ⟨_, hnumber, heq⟩ := Option.map_eq_some_iff.1 hread
  cases heq
  have hdecimal := number?_eq_some_iff.1 hnumber
  have hline := (Text.of_cut_eq_some hcut).1
  have hprefix : length ++ ['|'] <+: Text.line afterKey := ⟨more, by rw [hline]; simp⟩
  have hbreak : '\n' ∉ length ++ ['|'] := by simpa using hdecimal.not_mem.2
  obtain ⟨body, rfl⟩ := (Text.prefix_line_iff hbreak).1 hprefix
  rw [List.append_assoc, List.singleton_append]
  exact ⟨body, rfl, countedValue?_length hdecimal bytes.toNat_lt body⟩

theorem countedValue?_eq_none_of_declared? (h : declared? (Text.line afterKey) = none) :
    countedValue? afterKey = none := by
  rw [Option.eq_none_iff_forall_ne_some]
  rintro ⟨value, tail⟩ hvalue
  obtain ⟨length, bytes, hnumber, -, rfl⟩ := exists_of_countedValue? hvalue
  obtain ⟨hbar, hbreak⟩ := (number?_eq_some_iff.1 hnumber).not_mem
  have hprefix : length ++ ['|'] <+: Text.line (length ++ '|' :: (value ++ tail)) :=
    (Text.prefix_line_iff (by simpa using hbreak)).2 ⟨value ++ tail, by simp⟩
  obtain ⟨more, hmore⟩ := hprefix
  rw [declared?, ← hmore, List.append_assoc, List.singleton_append, Text.cut_append hbar,
    Option.bind_some] at h
  simp only [hnumber] at h
  cases h

end

end MountControl.Wire
