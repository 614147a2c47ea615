/-
  MountControl — columns stay columns.

  Whatever the volumes of a listing are called, and however wide a terminal
  draws it, the listing is a table: one line for the headers and one for each
  volume, and in each column every cell takes up as much room as the widest.

  * `isGreatest_foldl_widen`: a column is as wide as its widest cell;
  * `Aligned.line`: each line is a row filled up to its columns, of which only
    blanks at the end are cut off;
  * `table_unbroken`: so nothing in a listing can break the table.
-/
import Mathlib.Data.List.TakeWhile
import Mathlib.Order.Bounds.Basic
import MountControl.Proofs.Client.Table

namespace MountControl.Text

/-- Only what is trimmed is lost at the end of a text, and nothing more of that kind is left. -/
theorem trimEndOf_append_trimmed (p : Char → Bool) (text : List Char) :
    ∃ trimmed, text = trimEndOf p text ++ trimmed ∧ (∀ c ∈ trimmed, p c) ∧
      ∀ c ∈ (trimEndOf p text).getLast?, p c = false := by
  refine ⟨(text.reverse.takeWhile p).reverse, ?_, ?_, ?_⟩
  · rw [trimEndOf, ← List.reverse_append, List.takeWhile_append_dropWhile, List.reverse_reverse]
  · intro c hc
    exact List.mem_takeWhile_imp (List.mem_reverse.1 hc)
  · intro c hc
    rw [trimEndOf, List.getLast?_reverse] at hc
    have hfirst := List.head?_dropWhile_not p text.reverse
    rwa [hc] at hfirst

/-- Where no line has a control character, a text of lines has just the line feeds that end them. -/
theorem filter_isControl_lines {lines : List (List Char)} (h : ∀ line ∈ lines, Visible line) :
    (lines.flatMap (· ++ ['\n'])).filter isControl = List.replicate lines.length '\n' := by
  induction lines with
  | nil => rfl
  | cons line lines ih =>
    rw [List.forall_mem_cons] at h
    have hline : line.filter isControl = [] := by
      rw [List.filter_eq_nil_iff]
      intro c hc
      simp [h.1 c hc]
    rw [List.flatMap_cons, List.filter_append, List.filter_append, hline, ih h.2]
    rfl

end MountControl.Text

namespace MountControl.Client.Table

open Text (Visible filter_isControl_lines trimEndOf_append_trimmed)
open Volume (Record)

variable {width : List Char → Nat}

/-! ## Columns -/

/-- There is a number for each header, and each is the greatest width of the cells that stand at its
    place in the rows. -/
structure Widest (width : List Char → Nat) (rows : List Row) (columns : List Nat) : Prop where
  length : columns.length = headers.length
  greatest : ∀ (i total : Nat), columns[i]? = some total →
    IsGreatest {n | ∃ cells ∈ rows, (cells.map width)[i]? = some n} total

theorem getElem?_widen {least : List Nat} {cells : Row} {i total : Nat}
    (h : (widen width least cells)[i]? = some total) :
    ∃ start n, least[i]? = some start ∧ (cells.map width)[i]? = some n ∧ total = max start n := by
  rw [widen, List.getElem?_map, Option.map_eq_some_iff] at h
  obtain ⟨⟨start, cell⟩, hzip, rfl⟩ := h
  obtain ⟨hstart, hcell⟩ := List.getElem?_zip_eq_some.1 hzip
  refine ⟨start, width cell, hstart, ?_, rfl⟩
  rw [List.getElem?_map, hcell]
  rfl

/-- Widening by some rows gives the greatest of what was there and of their cells. -/
theorem isGreatest_foldl_widen {rows : List Row} {least : List Nat} {i total : Nat}
    (h : (rows.foldl (widen width) least)[i]? = some total) :
    ∃ start, least[i]? = some start ∧
      IsGreatest {n | n = start ∨ ∃ cells ∈ rows, (cells.map width)[i]? = some n} total := by
  induction rows generalizing least with
  | nil =>
    refine ⟨total, h, .inl rfl, ?_⟩
    rintro n (rfl | ⟨cells, hcells, -⟩)
    · exact Nat.le_refl n
    · cases hcells
  | cons cells rows ih =>
    obtain ⟨_, hmax, hmem, hbound⟩ := ih h
    obtain ⟨start, n, hstart, hn, rfl⟩ := getElem?_widen hmax
    have hstep : max start n ≤ total := hbound (.inl rfl)
    refine ⟨start, hstart, ?_, ?_⟩
    · rcases hmem with rfl | ⟨other, hother, htotal⟩
      · rcases Nat.le_total start n with hle | hle
        · exact .inr ⟨cells, List.mem_cons_self, by rw [hn, Nat.max_eq_right hle]⟩
        · exact .inl (Nat.max_eq_left hle)
      · exact .inr ⟨other, List.mem_cons_of_mem cells hother, htotal⟩
    · rintro m (rfl | ⟨other, hother, hm⟩)
      · exact (Nat.le_max_left m n).trans hstep
      · rcases List.mem_cons.1 hother with rfl | hother
        · rw [hn] at hm
          cases hm
          exact (Nat.le_max_right start n).trans hstep
        · exact hbound (.inr ⟨other, hother, hm⟩)

/-- **Each column is as wide as its widest cell**, the header's among them. -/
theorem widest_widths (width : List Char → Nat) {rows : List Row}
    (h : ∀ cells ∈ rows, cells.length = headers.length) :
    Widest width (headers :: rows) (widths width rows) := by
  refine ⟨length_widths width h, fun i total htotal => ?_⟩
  obtain ⟨start, hstart, hgreatest⟩ := isGreatest_foldl_widen htotal
  have hset : {n | n = start ∨ ∃ cells ∈ rows, (cells.map width)[i]? = some n} =
      {n | ∃ cells ∈ headers :: rows, (cells.map width)[i]? = some n} := by
    ext n
    show (n = start ∨ _) ↔ ∃ cells ∈ headers :: rows, (cells.map width)[i]? = some n
    rw [List.exists_mem_cons_iff, hstart, Option.some.injEq, eq_comm]
  rwa [hset] at hgreatest

theorem Widest.fits {rows : List Row} {columns : List Nat} (h : Widest width rows columns)
    {cells : Row} (hmem : cells ∈ rows) (hlength : cells.length = headers.length) :
    List.Forall₂ (fun cell total => width cell ≤ total) cells columns := by
  rw [List.forall₂_iff_zip]
  refine ⟨hlength.trans h.length.symm, fun {cell total} hzip => ?_⟩
  obtain ⟨i, hi⟩ := List.mem_iff_getElem?.1 hzip
  obtain ⟨hcell, htotal⟩ := List.getElem?_zip_eq_some.1 hi
  refine (h.greatest i total htotal).2 ⟨cells, hmem, ?_⟩
  rw [List.getElem?_map, hcell]
  rfl

/-! ## Rows -/

/-- A row with some spaces behind each of its cells, and two more between them. -/
def spaced (cells : Row) (paddings : List Nat) : List Char :=
  [' ', ' '].intercalate
    (List.zipWith (fun cell padding => cell ++ List.replicate padding ' ') cells paddings)

/-- The text is the row in columns: behind each cell are just as many spaces as it takes to fill its
    column.  Only blanks at the end are left out, and these are. -/
inductive Aligned (width : List Char → Nat) (columns : List Nat) (cells : Row) : List Char → Prop
  | intro {text trimmed : List Char} {paddings : List Nat} :
      paddings.length = cells.length →
      List.zipWith (· + ·) (cells.map width) paddings = columns →
      spaced cells paddings = text ++ trimmed → (∀ c ∈ trimmed, Text.isBlank c) →
      (∀ c ∈ text.getLast?, Text.isBlank c = false) → Aligned width columns cells text

/-- The spaces that fill up a row. -/
def paddings (width : List Char → Nat) (columns : List Nat) (cells : Row) : List Nat :=
  List.zipWith (fun cell total => total - width cell) cells columns

theorem padded_eq_spaced (columns : List Nat) (cells : Row) :
    padded width columns cells = spaced cells (paddings width columns cells) := by
  rw [padded, spaced, paddings]
  congr 1
  induction cells generalizing columns with
  | nil => rfl
  | cons cell cells ih =>
    cases columns with
    | nil => rfl
    | cons total columns => exact congrArg (pad width total cell :: ·) (ih columns)

section
variable {columns : List Nat} {cells : Row}

/-- A cell and its spaces take up its column, as no cell is wider. -/
theorem zipWith_paddings (h : List.Forall₂ (fun cell total => width cell ≤ total) cells columns) :
    List.zipWith (· + ·) (cells.map width) (paddings width columns cells) = columns := by
  induction h with
  | nil => rfl
  | cons hle _ ih => exact congrArg₂ List.cons (Nat.add_sub_cancel' hle) ih

/-- **A line is its row in columns.** -/
theorem Aligned.line (h : List.Forall₂ (fun cell total => width cell ≤ total) cells columns) :
    Aligned width columns cells (lineText width columns cells) := by
  obtain ⟨trimmed, htext, htrimmed, hlast⟩ :=
    trimEndOf_append_trimmed Text.isBlank (padded width columns cells)
  refine .intro ?_ (zipWith_paddings h) ((padded_eq_spaced columns cells).symm.trans htext)
    htrimmed hlast
  rw [paddings, List.length_zipWith, ← h.length_eq, Nat.min_self]

end

/-! ## Tables -/

/-- The text is a table of the rows: one line for each, in columns that are as wide as their widest
    cells, and without control characters. -/
structure InColumns (width : List Char → Nat) (rows : List Row) (columns : List Nat)
    (lines : List (List Char)) (text : List Char) : Prop where
  text_eq : text = lines.flatMap (· ++ ['\n'])
  visible : ∀ line ∈ lines, Visible line
  widest : Widest width rows columns
  aligned : List.Forall₂ (Aligned width columns) rows lines

theorem renderBy_inColumns (width : List Char → Nat) {records : List Record} (h : records ≠ []) :
    ∃ columns lines,
      InColumns width (headers :: records.map row) columns lines (renderBy width records) := by
  have hheaders : ∀ cell ∈ headers, Visible cell := by decide
  have hrows : ∀ cells ∈ records.map row, cells.length = headers.length := by
    intro cells hcells
    obtain ⟨record, -, rfl⟩ := List.mem_map.1 hcells
    rfl
  have hall : ∀ cells ∈ headers :: records.map row, cells.length = headers.length :=
    List.forall_mem_cons.2 ⟨rfl, hrows⟩
  have hwidest := widest_widths width hrows
  generalize hcolumns : widths width (records.map row) = columns at hwidest
  refine ⟨columns, (headers :: records.map row).map (lineText width columns), ?_, ?_, hwidest, ?_⟩
  · rw [renderBy, if_neg (by simpa using h), List.flatMap_map, ← hcolumns]
    rfl
  · intro line hline
    obtain ⟨cells, hcells, rfl⟩ := List.mem_map.1 hline
    rcases List.mem_cons.1 hcells with rfl | hcells
    · exact visible_lineText hheaders
    · obtain ⟨record, -, rfl⟩ := List.mem_map.1 hcells
      exact visible_lineText (visible_row record)
  · rw [List.forall₂_map_right_iff, List.forall₂_same]
    exact fun cells hcells => .line (hwidest.fits hcells (hall cells hcells))

/-- **Nothing in a listing breaks the table.**  However texts are measured, a listing of some volumes
    has one line more than there are volumes, and no control characters but the line feeds that end
    these.  Each line is the row of its volume in columns, which are as wide as their widest cell. -/
theorem table_unbroken (width : List Char → Nat) {records : List Record} (h : records ≠ []) :
    ∃ columns lines,
      InColumns width (headers :: records.map row) columns lines (renderBy width records) ∧
      lines.length = records.length + 1 ∧
      (renderBy width records).filter Text.isControl =
        List.replicate (records.length + 1) '\n' := by
  obtain ⟨columns, lines, htable⟩ := renderBy_inColumns width h
  have hlength : lines.length = records.length + 1 := by
    rw [← htable.aligned.length_eq, List.length_cons, List.length_map]
  refine ⟨columns, lines, htable, hlength, ?_⟩
  rw [htable.text_eq, filter_isControl_lines htable.visible, hlength]

/-- A volume that pretends to be two, with a label that would move the cursor. -/
theorem table_unbroken_hostile :
    let record : Record :=
      { id := some ⟨7⟩, state := some .mounted, label := some "\u009b2Ka",
        options := { mountPoint := some "/mnt\n0008  Mounted", devices := ["/dev/a\t"] } }
    [record] ≠ [] ∧
      renderBy List.length [record] =
        ("INSTANCE          STATE    MOUNT POINT          LABEL      DEVICES\n" ++
         "0000000000000007  Mounted  /mnt\\n0008  Mounted  \\u\x7b9b\x7d2Ka  /dev/a\\t\n").toList ∧
      (renderBy List.length [record]).filter Text.isControl = ['\n', '\n'] := by
  intro record
  have hne : [record] ≠ [] := List.cons_ne_nil record []
  obtain ⟨columns, lines, -, -, hcontrol⟩ := table_unbroken List.length hne
  exact ⟨hne, by decide +kernel, hcontrol⟩

end MountControl.Client.Table
