/-
  MountControl — a listing has one line for each volume.

  What comes from outside is escaped, so no cell has a control character,
  and a line feed only ever ends a line.

  * `visible_printable`: nothing that is shown escaped is a control character;
  * `Shows.begins`: trimming keeps a first cell that ends in no blank, so a
    line begins with its volume's identifier, whatever its last cell is;
  * `render_tabulated`: the lines of a listing are the headers and then those
    of the volumes, in their order;
  * `render_eq_empty`: only where there is no volume, there is no table.
-/
import Mathlib.Data.List.Forall2
import MountControl.Client.Table
import MountControl.Proofs.Text.Numeral

namespace MountControl.Text

open Numeral (IsDigit isDigit_of_mem_digits isDigit_of_mem_padded)

/-! ## Control characters -/

/-- There are no control characters in the text. -/
def Visible (text : List Char) : Prop := ∀ c ∈ text, isControl c = false

instance (text : List Char) : Decidable (Visible text) :=
  List.decidableBAll _ text

section
variable {front rest : List Char}

theorem Visible.append (hf : Visible front) (hr : Visible rest) : Visible (front ++ rest) :=
  List.forall_mem_append.2 ⟨hf, hr⟩

theorem Visible.flatMap {α : Type} {items : List α} {write : α → List Char}
    (h : ∀ item ∈ items, Visible (write item)) : Visible (items.flatMap write) := by
  intro c hc
  obtain ⟨item, hitem, hc⟩ := List.mem_flatMap.1 hc
  exact h item hitem c hc

theorem Visible.sublist {text : List Char} (h : Visible text) (hs : front.Sublist text) :
    Visible front :=
  fun c hc => h c (hs.subset hc)

theorem Visible.intercalate {cells : List (List Char)} (hs : Visible front)
    (h : ∀ cell ∈ cells, Visible cell) : Visible (front.intercalate cells) := by
  induction cells with
  | nil => exact nofun
  | cons first cells ih =>
    rw [List.forall_mem_cons] at h
    cases cells with
    | nil => exact List.intercalate_singleton ▸ h.1
    | cons second cells =>
      rw [List.intercalate_cons_cons]
      exact (h.1.append hs).append (ih h.2)

/-- A text without control characters is on one line. -/
theorem Visible.not_mem (h : Visible front) : '\n' ∉ front := by
  intro hc
  have hcontrol := h _ hc
  revert hcontrol
  decide

end

theorem isControl_of_isDigit {c : Char} (h : IsDigit c) : isControl c = false := by
  obtain ⟨d, hd, rfl⟩ := h
  have hdigits : ∀ d < 16, isControl (Nat.digitChar d) = false := by decide
  exact hdigits d hd

theorem visible_digits {base : Nat} (h2 : 2 ≤ base) (hb : base ≤ 16) (n : Nat) :
    Visible (Numeral.digits base n) :=
  fun c hc => isControl_of_isDigit (isDigit_of_mem_digits h2 hb c hc)

theorem visible_escapeAscii (c : Char) : Visible (Quoted.escapeAscii c) := by
  rw [Quoted.escapeAscii.eq_def]
  split
  case h_7 =>
    split
    next hplain =>
      intro other hother
      rw [List.mem_singleton.1 hother, isControl]
      simp only [Bool.or_eq_false_iff, Bool.and_eq_false_iff, decide_eq_false_iff_not]
      omega
    next =>
      exact Visible.append (Visible.append (by decide)
        (visible_digits (by decide) (by decide) _)) (by decide)
  all_goals decide

/-! ## Trimming -/

theorem trimEndOf_isPrefix (p : Char → Bool) (text : List Char) : trimEndOf p text <+: text := by
  rw [trimEndOf, ← List.reverse_suffix, List.reverse_reverse]
  exact List.dropWhile_suffix p

/-- Trimming keeps a front part that does not end in what is trimmed. -/
theorem prefix_trimEndOf {p : Char → Bool} {front text : List Char} (hfront : front <+: text)
    (hlast : ∀ c ∈ front.getLast?, p c = false) : front <+: trimEndOf p text := by
  obtain ⟨rest, rfl⟩ := hfront
  rw [trimEndOf, List.reverse_append, List.dropWhile_append]
  split
  · -- all of the rest is trimmed, and nothing of the front
    have hkept : front.reverse.dropWhile p = front.reverse := by
      rw [← List.head?_reverse] at hlast
      cases hreverse : front.reverse with
      | nil => rfl
      | cons c text =>
        rw [hreverse] at hlast
        exact List.dropWhile_cons_of_neg (by simpa using hlast c rfl)
    exact ⟨[], by rw [hkept, List.reverse_reverse, List.append_nil]⟩
  · rw [List.reverse_append, List.reverse_reverse]
    exact List.prefix_append ..

end MountControl.Text

namespace MountControl.Client.Table

open Text (Visible prefix_trimEndOf trimEndOf_isPrefix visible_digits visible_escapeAscii)
open Volume (InstanceId RawOptions Record State)

/-! ## Cells -/

theorem visible_printable (text : List Char) : Visible (printable text) := by
  refine Visible.flatMap fun c _ => ?_
  split
  · exact visible_escapeAscii c
  next hplain =>
    intro other hother
    rw [List.mem_singleton.1 hother]
    exact Bool.eq_false_iff.2 hplain

theorem visible_chars (id : InstanceId) : Visible id.chars := fun c hc =>
  Text.isControl_of_isDigit
    (Text.Numeral.isDigit_of_mem_padded (by decide) (by decide) 16 id.value.toNat c hc)

theorem visible_row (record : Record) : ∀ cell ∈ row record, Visible cell := by
  have hunknown : Visible unknown := by decide
  have hstate : ∀ state : State, Visible state.name.toList := by
    intro state
    cases state <;> decide
  simp only [row, List.mem_cons, List.not_mem_nil, or_false]
  rintro cell (rfl | rfl | rfl | rfl | rfl)
  · cases record.id with
    | none => exact hunknown
    | some id => exact visible_chars id
  · cases record.state with
    | none => exact hunknown
    | some state => exact hstate state
  · exact visible_printable _
  · cases record.label with
    | none => exact hunknown
    | some label => exact visible_printable _
  · split
    · exact hunknown
    · exact visible_printable _

/-! ## Lines -/

/-- The line shows the cells in their order: each with some blanks behind it, and two more before the
    next, as far as the line is not trimmed. -/
def Shows (cells : Row) (text : List Char) : Prop :=
  ∃ filled, List.Forall₂ (fun cell full => ∃ blanks, full = cell ++ List.replicate blanks ' ')
      cells filled ∧
    text = Text.trimEnd ([' ', ' '].intercalate filled)

/-- The text of a line, without the line feed. -/
def lineText (width : List Char → Nat) (least : List Nat) (cells : Row) : List Char :=
  Text.trimEnd (padded width least cells)

section
variable {width : List Char → Nat} {least : List Nat} {cells : Row}

theorem filled_zip (h : cells.length = least.length) :
    List.Forall₂ (fun cell full => ∃ blanks, full = cell ++ List.replicate blanks ' ') cells
      ((cells.zip least).map fun (cell, total) => pad width total cell) := by
  induction cells generalizing least with
  | nil => exact .nil
  | cons cell cells ih =>
    obtain ⟨total, totals, rfl⟩ := List.exists_cons_of_length_eq_add_one h.symm
    exact .cons ⟨_, rfl⟩ (ih (Nat.succ.inj h))

theorem shows_lineText (h : cells.length = least.length) :
    Shows cells (lineText width least cells) :=
  ⟨_, filled_zip h, rfl⟩

theorem visible_lineText (h : ∀ cell ∈ cells, Visible cell) :
    Visible (lineText width least cells) := by
  have hgap : Visible [' ', ' '] := by decide
  have hpadded : Visible (padded width least cells) := by
    refine hgap.intercalate fun filled hfilled => ?_
    obtain ⟨⟨cell, total⟩, hcell, rfl⟩ := List.mem_map.1 hfilled
    refine (h cell (List.of_mem_zip hcell).1).append fun c hc => ?_
    rw [List.eq_of_mem_replicate hc]
    decide
  exact hpadded.sublist (trimEndOf_isPrefix ..).sublist

end

/-- A line begins with its first cell, unless that ends in blanks. -/
theorem Shows.begins {first : List Char} {cells : Row} {text : List Char}
    (h : Shows (first :: cells) text) (hlast : ∀ c ∈ first.getLast?, Text.isBlank c = false) :
    first <+: text := by
  obtain ⟨filled, hfilled, rfl⟩ := h
  obtain ⟨full, rest, ⟨blanks, rfl⟩, -, rfl⟩ := List.forall₂_cons_left_iff.1 hfilled
  refine prefix_trimEndOf ?_ hlast
  cases rest with
  | nil =>
    rw [List.intercalate_singleton]
    exact List.prefix_append ..
  | cons next rest =>
    rw [List.intercalate_cons_cons, List.append_assoc, List.append_assoc]
    exact List.prefix_append ..

theorem length_widths (width : List Char → Nat) {rows : List Row}
    (h : ∀ cells ∈ rows, cells.length = headers.length) :
    (widths width rows).length = headers.length := by
  rw [widths]
  generalize hleast : headers.map width = least
  have hlength : least.length = headers.length := by rw [← hleast, List.length_map]
  clear hleast
  induction rows generalizing least with
  | nil => exact hlength
  | cons cells rows ih =>
    rw [List.forall_mem_cons] at h
    refine ih h.2 (widen width least cells) ?_
    rw [widen, List.length_map, List.length_zip, hlength, h.1, Nat.min_self]

/-! ## Listings -/

/-- The text is a table of the volumes: a line of headers, and for each volume, in this order, one
    line that shows what is known of it. -/
structure Tabulated (records : List Record) (header : List Char) (rows : List (List Char))
    (text : List Char) : Prop where
  lines : text = (header :: rows).flatMap (· ++ ['\n'])
  single : ∀ line ∈ header :: rows, '\n' ∉ line
  headed : Shows headers header
  shown : List.Forall₂ (fun record line => Shows (row record) line) records rows

/-- **A listing that is not empty is a table of its volumes**, whatever their descriptions are. -/
theorem render_tabulated {records : List Record} (h : records ≠ []) :
    ∃ header rows, Tabulated records header rows (render records) := by
  have hheaders : ∀ cell ∈ headers, Visible cell := by decide
  have hcells : ∀ cells ∈ records.map row, cells.length = headers.length := by
    intro cells hcells
    obtain ⟨record, -, rfl⟩ := List.mem_map.1 hcells
    rfl
  have hlength := length_widths Text.Columns.width hcells
  generalize hleast : widths Text.Columns.width (records.map row) = least at hlength
  refine ⟨lineText Text.Columns.width least headers,
    records.map fun record => lineText Text.Columns.width least (row record), ?_, ?_, ?_, ?_⟩
  · rw [render, renderBy, if_neg (by simpa using h)]
    simp only [hleast, List.flatMap_cons, List.flatMap_map]
    rfl
  · rintro line (_ | ⟨_, hline⟩)
    · exact (visible_lineText hheaders).not_mem
    · obtain ⟨record, -, rfl⟩ := List.mem_map.1 hline
      exact (visible_lineText (visible_row record)).not_mem
  · exact shows_lineText hlength.symm
  · rw [List.forall₂_map_right_iff, List.forall₂_same]
    exact fun record _ => shows_lineText hlength.symm

/-- The line of a volume begins with its identifier. -/
theorem Shows.begins_id {record : Record} {text : List Char} (h : Shows (row record) text)
    {id : InstanceId} (hid : record.id = some id) : id.chars <+: text := by
  rw [row, hid] at h
  refine h.begins fun c hc => ?_
  have hdigits : ∀ d < 16, Text.isBlank (Nat.digitChar d) = false := by decide
  obtain ⟨d, hd, rfl⟩ := Text.Numeral.isDigit_of_mem_padded (by decide) (by decide) 16
    id.value.toNat c (List.mem_of_getLast? hc)
  exact hdigits d hd

/-- **The text of the empty listing is shown exactly if there is no volume.** -/
theorem render_eq_empty {records : List Record} : render records = empty ↔ records = [] := by
  constructor
  · intro h
    by_contra hne
    obtain ⟨header, rows, htable⟩ := render_tabulated hne
    have hheader : "INSTANCE".toList <+: header := htable.headed.begins fun c hc => by
      obtain rfl : 'E' = c := Option.some.inj hc
      decide
    have hrender : "INSTANCE".toList <+: render records := by
      rw [htable.lines, List.flatMap_cons, List.append_assoc]
      exact hheader.trans (List.prefix_append ..)
    rw [h] at hrender
    revert hrender
    decide
  · rintro rfl
    rfl

end MountControl.Client.Table
