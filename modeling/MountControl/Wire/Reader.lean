/-
  MountControl — reading a body record by record.

  A `Reader` is a position in a body.  `Reader.next` reads one item: a field
  or an issue.  A counted value may run over several lines; what follows it
  on its last line is dropped, and the reader hands out an issue for it with
  the next step.  Every step that is not such a late issue moves on by at
  least a character, so `Reader.items` comes to an end.
-/
import MountControl.Wire.Field

namespace MountControl.Wire

/-- One result of reading. -/
inductive Item
  /-- A field, and the line on which its record starts. -/
  | field (line : Nat) (field : Field)
  /-- A record that cannot be read. -/
  | issue (issue : Issue)
  deriving DecidableEq, Repr

/-- A position in a body. -/
structure Reader where
  /-- What is left of the body. -/
  rest : List Char
  /-- The line on which it starts. -/
  line : Nat
  /-- An issue found with the last record, still to be handed out. -/
  pending : Option Issue := none
  deriving DecidableEq, Repr

/-- The value of a counted record, given what follows the bar after its key: a length, a bar, and
    as many bytes.  Also what follows the value.  The length has to stand on the key's line. -/
def countedValue? (afterKey : List Char) : Option (List Char × List Char) :=
  let length := afterKey.takeWhile fun c => c != '|' && c != '\n'
  match afterKey.drop length.length with
  | '|' :: body => (number? length).bind fun bytes => Text.splitBytes bytes.toNat body
  | _ => none

/-- The item on a plain line. -/
def plainItem (number : Nat) (line : List Char) : Item :=
  if line.isEmpty then .issue (.about number .emptyLine line)
  else
    match Field.ofLine line with
    | .ok field => .field number field
    | .error kind => .issue (.about number kind line)

/-- The position after the current line. -/
def Reader.skipLine (reader : Reader) : Reader where
  rest := Text.afterLine reader.rest
  line := reader.line + 1

/-- The position after a counted value, given what follows the value. -/
def Reader.afterValue (reader : Reader) (value tail : List Char) : Reader where
  rest := Text.afterLine tail
  line := reader.line + value.count '\n' + 1
  pending :=
    let leftover := Text.line tail
    if leftover.isEmpty then none
    else some (.about (reader.line + value.count '\n') .trailingBytes leftover)

/-- Reads one record, or hands out the issue that the last one left; none at the end. -/
def Reader.next (reader : Reader) : Option (Item × Reader) :=
  match reader.pending with
  | some issue => some (.issue issue, { reader with pending := none })
  | none =>
    if reader.rest.isEmpty then none
    else
      match countedKey? reader.rest with
      | none => some (plainItem reader.line (Text.line reader.rest), reader.skipLine)
      | some (key, afterKey) =>
        match countedValue? afterKey with
        | none =>
          some (.issue (.about reader.line .badLength (Text.line reader.rest)), reader.skipLine)
        | some (value, tail) =>
          some (.field reader.line (key.field (String.ofList value)),
            reader.afterValue value tail)

/-! ## Progress -/

/-- What is left to do: twice the characters, and one for an issue still to be handed out. -/
def Reader.remaining (reader : Reader) : Nat :=
  2 * reader.rest.length + reader.pending.toList.length

theorem length_afterLine_lt {text : List Char} (h : text ≠ []) :
    (Text.afterLine text).length < text.length := by
  have hpos := List.length_pos_iff.2 h
  have hle := (List.dropWhile_suffix (l := text) (· != '\n')).length_le
  simp only [Text.afterLine, List.length_drop]
  omega

theorem length_afterLine_le (text : List Char) : (Text.afterLine text).length ≤ text.length := by
  have hle := (List.dropWhile_suffix (l := text) (· != '\n')).length_le
  simp only [Text.afterLine, List.length_drop]
  omega

theorem length_splitBytes_loop {bytes : Nat} {text front : List Char} {p : List Char × List Char}
    (h : Text.splitBytes.loop bytes text front = some p) : p.2.length ≤ text.length := by
  fun_induction Text.splitBytes.loop bytes text front with
  | case1 =>
    obtain rfl := Option.some.inj h
    exact Nat.le_refl _
  | case2 => simp at h
  | case3 _ _ _ _ _ ih => exact Nat.le_succ_of_le (ih h)
  | case4 => simp at h

theorem length_countedValue {afterKey : List Char} {p : List Char × List Char}
    (h : countedValue? afterKey = some p) : p.2.length < afterKey.length := by
  simp only [countedValue?] at h
  split at h
  next body heq =>
    obtain ⟨bytes, -, hsplit⟩ := Option.bind_eq_some_iff.1 h
    have hle := length_splitBytes_loop hsplit
    have hlen := congrArg List.length heq
    simp only [List.length_drop, List.length_cons] at hlen
    omega
  next => simp at h

theorem length_countedKey {text : List Char} {p : CountedKey × List Char}
    (h : countedKey? text = some p) : p.2.length ≤ text.length := by
  obtain ⟨⟨name, key⟩, -, heq⟩ := List.exists_of_findSome?_eq_some h
  simp only [Option.map_eq_some_iff] at heq
  obtain ⟨rest, hrest, rfl⟩ := heq
  simp only [Text.stripPrefix?] at hrest
  split at hrest
  · simp only [Option.some.injEq] at hrest
    subst hrest
    simp
  · simp at hrest

theorem Reader.remaining_next {reader after : Reader} {item : Item}
    (h : reader.next = some (item, after)) : after.remaining < reader.remaining := by
  simp only [Reader.next] at h
  split at h
  next issue hp =>
    simp only [Option.some.injEq, Prod.mk.injEq] at h
    obtain ⟨-, rfl⟩ := h
    simp [remaining, hp]
  next hp =>
    split at h
    · simp at h
    next hne =>
      have hne : reader.rest ≠ [] := by simpa using hne
      have hlt := length_afterLine_lt hne
      split at h
      next =>
        simp only [Option.some.injEq, Prod.mk.injEq] at h
        obtain ⟨-, rfl⟩ := h
        simp only [remaining, skipLine, hp, Option.toList_none, List.length_nil]
        omega
      next key afterKey hkey =>
        have hk := length_countedKey hkey
        simp only at hk
        split at h
        next =>
          simp only [Option.some.injEq, Prod.mk.injEq] at h
          obtain ⟨-, rfl⟩ := h
          simp only [remaining, skipLine, hp, Option.toList_none, List.length_nil]
          omega
        next value tail hvalue =>
          have hv := length_countedValue hvalue
          simp only at hv
          have ht := length_afterLine_le tail
          simp only [Option.some.injEq, Prod.mk.injEq] at h
          obtain ⟨-, rfl⟩ := h
          simp only [remaining, afterValue, hp, Option.toList_none, List.length_nil]
          split
          · simp only [Option.toList_none, List.length_nil]
            omega
          · simp only [Option.toList_some, List.length_singleton]
            omega

/-! ## Whole bodies -/

/-- Reads all items from a position on; `front` holds those already read, the last one first. -/
def Reader.items.loop (reader : Reader) (front : List Item) : List Item :=
  match _h : reader.next with
  | none => front.reverse
  | some (item, after) => loop after (item :: front)
termination_by reader.remaining
decreasing_by exact Reader.remaining_next _h

/-- All items from a position on. -/
def Reader.items (reader : Reader) : List Item :=
  items.loop reader []

/-- Offers one item to a message under construction.  `accept` takes a field or refuses it. -/
def Decoded.offer {α : Type} (accept : α → Field → Except IssueKind α) (decoded : Decoded α) :
    Item → Decoded α
  | .issue issue => { decoded with issues := issue :: decoded.issues }
  | .field line field =>
    match accept decoded.message field with
    | .ok message => { decoded with message }
    | .error kind => { decoded with issues := .about line kind field.describe :: decoded.issues }

/-- Builds a message from the fields of a body, whose first line has number 1. -/
def readBody {α : Type} (accept : α → Field → Except IssueKind α) (start : α)
    (body : List Char) : Decoded α :=
  let decoded := (Reader.items ⟨body, 1, none⟩).foldl (Decoded.offer accept) ⟨start, []⟩
  { decoded with issues := decoded.issues.reverse }

/-- A field that may be given once. -/
def setOnce {α : Type} (slot : Option α) (value : α) : Except IssueKind (Option α) :=
  match slot with
  | none => .ok (some value)
  | some _ => .error .duplicateField

end MountControl.Wire
