/-
  MountControl — a listing that denies itself.

  The mark of an empty listing contradicts whatever else says that there is
  a volume.  It is compared with what was read before it, and with nothing
  that is read after it: such a reply is flagged if the mark comes last, and
  not if it comes first.

  * `ofRecord_of_mem`: the reader itself reports neither conflicts nor
    repeats;
  * `complaints_filter`: a mark takes no part in what is reported of other
    fields;
  * `denial_flagged` is both directions of that, and `denial_unflagged` the
    listing that goes through.
-/
import MountControl.Proofs.Wire.Grammar
import MountControl.Proofs.Wire.Groups

namespace MountControl.Wire

/-! ## The reader's own issues -/

/-- What is wrong with a record by itself, whatever message it stands in. -/
def IssueKind.OfRecord (kind : IssueKind) : Prop :=
  kind ≠ .unexpectedField ∧ kind ≠ .duplicateField

theorem Fault.ofRecord {line : List Char} {kind : IssueKind} (h : Fault line kind) :
    kind.OfRecord := by
  have hvalues : ∀ spelling ∈ plainKeys,
      spelling.2 ≠ .unexpectedField ∧ spelling.2 ≠ .duplicateField := by decide
  cases h with
  | empty => exact ⟨nofun, nofun⟩
  | value hkey => exact hvalues _ hkey
  | key => exact ⟨nofun, nofun⟩

/-- An issue that is handed out late is one of a record too. -/
theorem Recognized.ofRecord {reader after : Reader} {item : Item} (h : Recognized reader item after)
    (hpending : ∀ issue, reader.pending = some issue → issue.kind.OfRecord) :
    (∀ issue, item = .issue issue → issue.kind.OfRecord) ∧
      ∀ issue, after.pending = some issue → issue.kind.OfRecord := by
  cases h with
  | late => exact ⟨fun issue h => by cases h; exact hpending _ rfl, nofun⟩
  | counted => exact ⟨nofun, nofun⟩
  | trailing => exact ⟨nofun, fun issue h => by cases h; exact ⟨nofun, nofun⟩⟩
  | badLength => exact ⟨fun issue h => by cases h; exact ⟨nofun, nofun⟩, nofun⟩
  | plain => exact ⟨nofun, nofun⟩
  | fault _ _ hfault => exact ⟨fun issue h => by cases h; exact hfault.ofRecord, nofun⟩

theorem ofRecord_of_mem_items {reader : Reader} {issue : Issue}
    (hpending : ∀ issue, reader.pending = some issue → issue.kind.OfRecord)
    (h : .issue issue ∈ reader.items) : issue.kind.OfRecord := by
  induction hn : reader.remaining using Nat.strongRecOn generalizing reader with
  | _ n ih =>
    subst hn
    rcases hnext : reader.next with _ | ⟨item, after⟩
    · rw [items_of_end hnext] at h
      cases h
    · obtain ⟨hitem, hafter⟩ := (recognized_of_next hnext).ofRecord hpending
      rw [items_of_next hnext] at h
      rcases List.mem_cons.1 h with heq | h
      · exact hitem issue heq.symm
      · exact ih _ (Reader.remaining_next hnext) hafter h rfl

/-- The reader reports what is wrong with a record by itself. -/
theorem ofRecord_of_mem {body : List Char} {issue : Issue}
    (h : .issue issue ∈ Reader.items ⟨body, 1, none⟩) : issue.kind.OfRecord :=
  ofRecord_of_mem_items (fun _ hpending => by cases hpending) h

/-! ## Objections to marks -/

theorem dataObjection_of_ne {before : List Field} {field : Field} {kind : IssueKind}
    (hfield : field ≠ .noEntries) (h : dataObjection before field = some kind) :
    kind = .duplicateField := by
  cases hmarker : field.isMarker with
  | true =>
    cases field with
    | entry => cases h
    | noEntries => exact absurd rfl hfield
    | _ => cases hmarker
  | false =>
    rw [dataObjection_of_isMarker hmarker] at h
    split at h
    next => cases h
    next => cases h; rfl

/-- Only marks of an empty listing are unexpected, and only behind something else. -/
theorem dataObjection_eq_unexpected_iff {before : List Field} {field : Field} :
    dataObjection before field = some .unexpectedField ↔
      field = .noEntries ∧ ∃ other ∈ before, other ≠ .noEntries := by
  constructor
  · intro h
    by_cases hfield : field = .noEntries
    · subst hfield
      refine ⟨rfl, ?_⟩
      rw [dataObjection] at h
      split at h
      next hany => simpa using hany
      next => cases h
    · cases dataObjection_of_ne hfield h
  · rintro ⟨rfl, hother⟩
    rw [dataObjection, if_pos (by simpa using hother)]

/-- An element stands first in a list, or further back. -/
theorem exists_split_cons {α : Type} {mark first : α} {rest : List α} {p : List α → Prop} :
    (∃ front back, first :: rest = front ++ mark :: back ∧ p front) ↔
      first = mark ∧ p [] ∨ ∃ front back, rest = front ++ mark :: back ∧ p (first :: front) := by
  constructor
  · rintro ⟨front, back, heq, hfront⟩
    cases front with
    | nil => cases heq; exact .inl ⟨rfl, hfront⟩
    | cons _ front => cases heq; exact .inr ⟨front, back, rfl, hfront⟩
  · rintro (⟨rfl, hfront⟩ | ⟨front, back, rfl, hfront⟩)
    · exact ⟨[], rest, rfl, hfront⟩
    · exact ⟨first :: front, back, rfl, hfront⟩

theorem unexpected_iff {items : List Item}
    (hread : ∀ issue, .issue issue ∈ items → issue.kind.OfRecord) (before : List Field) :
    (∃ issue ∈ complaints dataObjection before items, issue.kind = .unexpectedField) ↔
      ∃ front back, readable items = front ++ .noEntries :: back ∧
        ∃ other ∈ before ++ front, other ≠ .noEntries := by
  induction items generalizing before with
  | nil => simp [complaints, readable]
  | cons item items ih =>
    have ih := ih fun issue hissue => hread issue (List.mem_cons_of_mem _ hissue)
    cases item with
    | issue met =>
      have hmet := (hread met List.mem_cons_self).1
      have hreadable : readable (.issue met :: items) = readable items := rfl
      rw [hreadable, ← ih before]
      simp [complaints, hmet]
    | field line field =>
      have hreadable : readable (.field line field :: items) = field :: readable items := rfl
      have hhere : (∃ issue ∈ ((dataObjection before field).map
          (Issue.about line · field.describe)).toList, issue.kind = .unexpectedField) ↔
            field = .noEntries ∧ ∃ other ∈ before ++ [], other ≠ .noEntries := by
        rw [List.append_nil, ← dataObjection_eq_unexpected_iff]
        cases dataObjection before field <;> simp [Issue.about]
      rw [complaints, hreadable, exists_split_cons, ← hhere]
      simp only [List.mem_append, or_and_right, exists_or]
      rw [ih]
      simp only [List.append_assoc, List.singleton_append, List.mem_append, or_and_right, exists_or]

/-! ## Marks left out -/

section
variable {α : Type} [BEq α] [LawfulBEq α] {mark : α} {p : α → Bool}

/-- What is left out of a list is left out of its blocks. -/
theorem splitOn_filter (h : p mark) (xs : List α) :
    (xs.filter p).splitOn mark = (xs.splitOn mark).map (·.filter p) := by
  induction xs with
  | nil => simp
  | cons x xs ih =>
    rw [List.splitOn_cons_eq_if_modifyHead]
    by_cases hx : x = mark
    · subst hx
      rw [List.filter_cons_of_pos h, List.splitOn_cons_eq_if_modifyHead]
      simp [ih]
    · obtain ⟨block, marked, hsplit⟩ := List.exists_cons_of_ne_nil (List.splitOn_ne_nil mark xs)
      rw [if_neg (by simpa using hx), hsplit, List.modifyHead_cons, List.map_cons]
      rw [hsplit, List.map_cons] at ih
      cases hp : p x with
      | true =>
        rw [List.filter_cons_of_pos hp, List.splitOn_cons_eq_if_modifyHead,
          if_neg (by simpa using hx), ih, List.modifyHead_cons, List.filter_cons_of_pos hp]
      | false =>
        rw [List.filter_cons_of_neg (by simp [hp]), ih, List.filter_cons_of_neg (by simp [hp])]

end

theorem groups_filter (fields : List Field) :
    groups (fields.filter (· ≠ .noEntries)) = groups fields := by
  rw [groups, splitOn_filter (by decide), List.map_map, groups]
  refine List.map_congr_left fun block _ => ?_
  rw [Function.comp_apply, List.filter_filter]
  simp

/-- A mark of an empty listing takes no part in what is wrong with another field. -/
theorem dataObjection_filter (before : List Field) {field : Field} (h : field ≠ .noEntries) :
    dataObjection (before.filter (· ≠ .noEntries)) field = dataObjection before field := by
  cases hmarker : field.isMarker with
  | true =>
    cases field with
    | entry => rfl
    | noEntries => exact absurd rfl h
    | _ => cases hmarker
  | false =>
    rw [dataObjection_of_isMarker hmarker, dataObjection_of_isMarker hmarker, groups_filter]

theorem complaints_filter {items : List Item}
    (hread : ∀ issue, .issue issue ∈ items → issue.kind.OfRecord) (before : List Field) :
    (complaints dataObjection before items).filter (·.kind ≠ .unexpectedField) =
      complaints dataObjection (before.filter (· ≠ .noEntries))
        (items.filter (·.field? ≠ some .noEntries)) := by
  induction items generalizing before with
  | nil => rfl
  | cons item items ih =>
    have ih := ih fun issue hissue => hread issue (List.mem_cons_of_mem _ hissue)
    cases item with
    | issue met =>
      have hmet := (hread met List.mem_cons_self).1
      rw [complaints, List.filter_cons_of_pos (by simpa using hmet),
        List.filter_cons_of_pos (by simp [Item.field?]), complaints, ih]
    | field line field =>
      rw [complaints, List.filter_append, ih, List.filter_append]
      by_cases hfield : field = .noEntries
      · subst hfield
        -- the mark is unexpected, or all is well with it
        have hmark : (((dataObjection before .noEntries).map
            (Issue.about line · Field.noEntries.describe)).toList).filter
              (·.kind ≠ .unexpectedField) = [] := by
          rw [dataObjection]
          split <;> simp [Issue.about]
        have hitems : (Item.field line .noEntries :: items).filter
            (·.field? ≠ some .noEntries) = items.filter (·.field? ≠ some .noEntries) :=
          List.filter_cons_of_neg (by simp [Item.field?])
        rw [hmark, hitems]
        simp
      · have hother : (((dataObjection before field).map
            (Issue.about line · field.describe)).toList).filter (·.kind ≠ .unexpectedField) =
              ((dataObjection before field).map (Issue.about line · field.describe)).toList := by
          cases hobjection : dataObjection before field with
          | none => rfl
          | some kind => simp [Issue.about, dataObjection_of_ne hfield hobjection]
        have hitems : (Item.field line field :: items).filter (·.field? ≠ some .noEntries) =
            .field line field :: items.filter (·.field? ≠ some .noEntries) :=
          List.filter_cons_of_pos (by simpa [Item.field?] using hfield)
        rw [hother, hitems, complaints, dataObjection_filter before hfield]
        simp [hfield]

/-! ## Listings that deny themselves -/

/-- **A data body is flagged if it denies what it has listed before.**  An issue says that a field
    is unexpected exactly if the mark of an empty listing stands behind another field.  Whatever
    else is reported is what would be without such marks: one in front of all that it contradicts
    leaves no trace. -/
theorem denial_flagged (body : List Char) :
    let items := Reader.items ⟨body, 1, none⟩
    let issues := (decodeData body).issues
    ((∃ issue ∈ issues, issue.kind = .unexpectedField) ↔
      ∃ front back, readable items = front ++ .noEntries :: back ∧
        ∃ other ∈ front, other ≠ .noEntries) ∧
      issues.filter (·.kind ≠ .unexpectedField) =
        complaints dataObjection [] (items.filter (·.field? ≠ some .noEntries)) := by
  intro items issues
  have hread : ∀ issue, .issue issue ∈ items → issue.kind.OfRecord := fun _ => ofRecord_of_mem
  have hissues : issues = complaints dataObjection [] items := decodeData_issues body
  rw [hissues]
  exact ⟨unexpected_iff hread [], complaints_filter hread []⟩

/-- A listing that says first that there is nothing, and then lists a volume. -/
theorem denial_unflagged :
    let body := "No Entries\nEntry\nInstanceID|7\n".toList
    readable (Reader.items ⟨body, 1, none⟩) = [.noEntries, .entry, .instanceId ⟨7⟩] ∧
      decodeData body = ⟨.listing [{ id := some ⟨7⟩ }], []⟩ := by
  decide +kernel

end MountControl.Wire
