/-
  MountControl — a record is read back as its field.

  `next_render` is the main result: in front of any text, the record
  of a field is read as that field, and the reader then stands exactly at
  that text.  A counted value may hold anything, fake records included; only
  its length has to be one that can be read (`Field.Sized`).
-/
import MountControl.Proofs.Text.Cutting
import MountControl.Proofs.Text.Digits
import MountControl.Proofs.Volume.Spelling
import MountControl.Wire.Reader

namespace MountControl.Wire

open Text.Numeral (Decimal decimal unsigned?_eq_some_iff)
open Volume (InstanceId Plain State Uuid)

/-- The value that is written with its length. -/
def Field.counted? : Field → Option String
  | .subvol text | .dump text | .mountPoint text | .device text | .label text => some text
  | _ => none

/-- Is the value short enough for its length to be read?  No text in a 64-bit address space is
    longer. -/
def Field.Sized (field : Field) : Prop :=
  ∀ text, field.counted? = some text → text.utf8ByteSize < UInt64.size

/-! ## Counted records -/

theorem counted?_field (key : CountedKey) (value : String) :
    (key.field value).counted? = some value := by
  cases key <;> rfl

theorem sized_field {key : CountedKey} {value : String} :
    (key.field value).Sized ↔ value.utf8ByteSize < UInt64.size := by
  simp [Field.Sized, counted?_field]

theorem exists_of_counted? {field : Field} {value : String} (h : field.counted? = some value) :
    ∃ key : CountedKey, field = key.field value := by
  cases field with
  | subvol text => cases h; exact ⟨.subvol, rfl⟩
  | dump text => cases h; exact ⟨.dump, rfl⟩
  | mountPoint text => cases h; exact ⟨.mountPoint, rfl⟩
  | device text => cases h; exact ⟨.device, rfl⟩
  | label text => cases h; exact ⟨.label, rfl⟩
  | _ => cases h

/-- A counted record starts with a spelling of its key that is recognized. -/
theorem render_counted (key : CountedKey) (value : String) :
    ∃ name, (key.field value).render = countedRecord name value ∧ '\n' ∉ name.toList ∧
      ∀ rest, countedKey? (name.toList ++ '|' :: rest) = some (key, rest) := by
  cases key with
  | subvol => exact ⟨keySubvol, rfl, by decide, fun _ => rfl⟩
  | dump => exact ⟨keyDump, rfl, by decide, fun _ => rfl⟩
  | mountPoint => exact ⟨keyMountPoint, rfl, by decide, fun _ => rfl⟩
  | device => exact ⟨keyDevice, rfl, by decide, fun _ => rfl⟩
  | label => exact ⟨keyLabel, rfl, by decide, fun _ => rfl⟩

/-- Of a counted record, only the value may hold line feeds; one more ends it. -/
theorem count_render_counted (key : CountedKey) (value : String) :
    (key.field value).render.count '\n' = value.toList.count '\n' + 1 := by
  obtain ⟨name, hrender, hname, -⟩ := render_counted key value
  have hlength := (Volume.plain_decimal value.utf8ByteSize).noBreak
  simp [hrender, countedRecord, List.count_eq_zero.2 hname, List.count_eq_zero.2 hlength]

theorem number?_eq_some_iff {text : List Char} {n : UInt64} :
    number? text = some n ↔ Decimal text n.toNat := by
  rw [number?, Option.map_eq_some_iff]
  constructor
  · rintro ⟨m, hread, rfl⟩
    obtain ⟨hdecimal, hlt⟩ := unsigned?_eq_some_iff.1 hread
    rwa [UInt64.toNat_ofNat_of_lt' hlt]
  · exact fun h => ⟨n.toNat, unsigned?_eq_some_iff.2 ⟨h, n.toNat_lt⟩, UInt64.ofNat_toNat⟩

theorem number?_decimal {n : Nat} (h : n < UInt64.size) :
    number? (decimal n) = some (UInt64.ofNat n) := by
  rw [number?, Text.Numeral.unsigned?_decimal h, Option.map_some]

/-- A counted value is cut off by its length. -/
theorem countedValue?_length {length : List Char} {bytes : Nat} (h : Decimal length bytes)
    (hsize : bytes < UInt64.size) (body : List Char) :
    countedValue? (length ++ '|' :: body) = Text.splitBytes bytes body := by
  obtain ⟨hbar, hbreak⟩ := h.not_mem
  -- the length ends at the bar that follows its digits
  have hdigits : ∀ c ∈ length, (c != '|' && c != '\n') = true := by
    intro c hc
    rw [Bool.and_eq_true]
    exact ⟨Text.ne_of_not_mem hbar c hc, Text.ne_of_not_mem hbreak c hc⟩
  have hbytes : (UInt64.ofNat bytes).toNat = bytes := UInt64.toNat_ofNat_of_lt' hsize
  have hnumber : number? length = some (UInt64.ofNat bytes) :=
    number?_eq_some_iff.2 (by rwa [hbytes])
  simp only [countedValue?]
  rw [Text.takeWhile_append _ hdigits (by simp), List.drop_left]
  show (number? _).bind _ = _
  rw [hnumber, Option.bind_some, hbytes]

theorem countedValue?_decimal {bytes : Nat} (h : bytes < UInt64.size) (body : List Char) :
    countedValue? (decimal bytes ++ '|' :: body) = Text.splitBytes bytes body :=
  countedValue?_length (unsigned?_eq_some_iff.1 (Text.Numeral.unsigned?_decimal h)).1 h body

/-- A counted value is cut off exactly, whatever is in it and whatever follows. -/
theorem countedValue?_append {value : String} (h : value.utf8ByteSize < UInt64.size)
    (tail : List Char) :
    countedValue? (decimal value.utf8ByteSize ++ '|' :: (value.toList ++ tail)) =
      some (value.toList, tail) := by
  rw [countedValue?_decimal h, ← Text.byteLength_toList]
  exact Text.splitBytes_append value.toList tail

theorem next_counted {key : CountedKey} {value : String} (h : value.utf8ByteSize < UInt64.size)
    (tail : List Char) (line : Nat) :
    Reader.next ⟨(key.field value).render ++ tail, line, none⟩ =
      some (.field line (key.field value),
        ⟨tail, line + value.toList.count '\n' + 1, none⟩) := by
  obtain ⟨name, hrender, -, hkey⟩ := render_counted key value
  have htext : (key.field value).render ++ tail = name.toList ++ '|' ::
      (decimal value.utf8ByteSize ++ '|' :: (value.toList ++ '\n' :: tail)) := by
    simp [hrender, countedRecord]
  have hne : (name.toList ++ '|' :: (decimal value.utf8ByteSize ++
      '|' :: (value.toList ++ '\n' :: tail))).isEmpty = false := by simp
  simp only [Reader.next, htext, hne, hkey, countedValue?_append h]
  simp [Reader.afterValue, Text.afterLine, Text.line]

/-! ## Plain records -/

/-- The line of a plain record: one that is read as the field. -/
structure Line (field : Field) (text : List Char) : Prop where
  noBreak : '\n' ∉ text
  notEmpty : text ≠ []
  notCounted : ∀ rest, countedKey? (text ++ '\n' :: rest) = none
  read : Field.ofLine text = .ok field

theorem Line.next {field : Field} {text : List Char} (h : Line field text) (tail : List Char)
    (line : Nat) :
    Reader.next ⟨text ++ '\n' :: tail, line, none⟩ =
      some (.field line field, ⟨tail, line + 1, none⟩) := by
  have hne : (text ++ '\n' :: tail).isEmpty = false := by simp
  have hempty : text.isEmpty = false := by simpa using h.notEmpty
  simp only [Reader.next, hne, h.notCounted, Text.line_append h.noBreak, plainItem, hempty, h.read,
    Reader.skipLine, Text.afterLine_append h.noBreak, Bool.false_eq_true, if_false]

/-- A key that stands in front of a plain value. -/
structure PlainKey (key : String) : Prop where
  noBreak : '\n' ∉ key.toList
  notCounted : ∀ rest, countedKey? (key.toList ++ '|' :: rest) = none

theorem PlainKey.line {key : String} {value : List Char} {field : Field} (hk : PlainKey key)
    (hv : Plain value) (hread : Field.ofLine (key.toList ++ '|' :: value) = .ok field) :
    Line field (key.toList ++ '|' :: value) where
  noBreak := by
    intro h
    rcases List.mem_append.1 h with h | h
    · exact hk.noBreak h
    · rcases List.mem_cons.1 h with h | h
      · revert h; decide
      · exact hv.noBreak h
  notEmpty := by simp
  notCounted rest := by
    rw [List.append_assoc]
    exact hk.notCounted _
  read := hread

/-- A line with a key is no bare marker; its last bar stands in front of the value. -/
theorem ofLine_keyed {key : String} {value : List Char} (hv : '|' ∉ value)
    (hm : key.toList ++ '|' :: value ≠ keyTestRun.toList) :
    Field.ofLine (key.toList ++ '|' :: value) =
      if key.toList = keySubvolId.toList then (orIssue .badNumber (number? value)).map .subvolId
      else if key.toList = keyTestRun.toList then (orIssue .badValue (flag? value)).map .testRun
      else if key.toList = keyInstanceId.toList then
        (orIssue .badValue (InstanceId.parse? value)).map .instanceId
      else if key.toList = keyState.toList then (orIssue .badValue (State.parse? value)).map .state
      else if key.toList = keyFsUuid.toList ∨ key.toList = "fsUUID".toList then
        (orIssue .badValue (Uuid.parse? value)).map .fsUuid
      else .error .unknownField := by
  -- the marks of a listing have no bar
  have hbar : '|' ∈ key.toList ++ '|' :: value := by simp
  have hentry : key.toList ++ '|' :: value ≠ markerEntry.toList := by
    intro h; rw [h] at hbar; revert hbar; decide
  have hnone : key.toList ++ '|' :: value ≠ markerNoEntries.toList := by
    intro h; rw [h] at hbar; revert hbar; decide
  rw [Field.ofLine, if_neg hentry, if_neg hnone, if_neg hm, Text.cutLast_append hv]

/-- A record without a counted value is a line that is read as its field. -/
theorem render_plain {field : Field} (h : field.counted? = none) :
    ∃ text, field.render = text ++ ['\n'] ∧ Line field text := by
  cases field with
  | subvol | dump | mountPoint | device | label => cases h
  | entry => exact ⟨markerEntry.toList, rfl, by decide, by decide, fun _ => rfl, rfl⟩
  | noEntries => exact ⟨markerNoEntries.toList, rfl, by decide, by decide, fun _ => rfl, rfl⟩
  | subvolId id =>
    have hk : PlainKey keySubvolId := ⟨by decide, fun _ => rfl⟩
    have hv := Volume.plain_decimal id.toNat
    refine ⟨_, rfl, hk.line hv ?_⟩
    rw [ofLine_keyed hv.noBar (by simp [keySubvolId, keyTestRun]), if_pos rfl,
      number?_decimal id.toNat_lt, UInt64.ofNat_toNat]
    rfl
  | testRun flag =>
    have hk : PlainKey keyTestRun := ⟨by decide, fun _ => rfl⟩
    have hv : Plain "False".toList := ⟨by decide, by decide⟩
    cases flag with
    | true => exact ⟨keyTestRun.toList, rfl, by decide, by decide, fun _ => rfl, rfl⟩
    | false => exact ⟨_, rfl, hk.line hv rfl⟩
  | instanceId id =>
    have hk : PlainKey keyInstanceId := ⟨by decide, fun _ => rfl⟩
    refine ⟨_, rfl, hk.line id.plain_chars ?_⟩
    rw [ofLine_keyed id.plain_chars.noBar (by simp [keyInstanceId, keyTestRun]), id.parse?_chars]
    rfl
  | state progress =>
    have hk : PlainKey keyState := ⟨by decide, fun _ => rfl⟩
    refine ⟨_, rfl, hk.line progress.plain_name ?_⟩
    rw [ofLine_keyed progress.plain_name.noBar (by simp [keyState, keyTestRun]),
      progress.parse?_name]
    rfl
  | fsUuid id =>
    have hk : PlainKey keyFsUuid := ⟨by decide, fun _ => rfl⟩
    refine ⟨_, rfl, hk.line id.plain_chars ?_⟩
    rw [ofLine_keyed id.plain_chars.noBar (by simp [keyFsUuid, keyTestRun]), id.parse?_chars]
    rfl

/-! ## All records -/

/-- **The record of a field is read as that field**, and nothing of what follows it is touched. -/
theorem next_render {field : Field} (h : field.Sized) (tail : List Char) (line : Nat) :
    Reader.next ⟨field.render ++ tail, line, none⟩ =
      some (.field line field, ⟨tail, line + field.render.count '\n', none⟩) := by
  cases hc : field.counted? with
  | none =>
    obtain ⟨text, hrender, hline⟩ := render_plain hc
    have hcount : (text ++ ['\n']).count '\n' = 1 := by
      simp [List.count_eq_zero.2 hline.noBreak]
    rw [hrender, hcount, List.append_assoc]
    exact hline.next tail line
  | some value =>
    obtain ⟨key, rfl⟩ := exists_of_counted? hc
    rw [count_render_counted]
    exact next_counted (h value hc) tail line

/-- A key and its value are read only if the value is, and as what the value makes. -/
theorem of_orIssue {α : Type} {kind : IssueKind} {value : Option α} {make : α → Field}
    {field : Field} (h : (orIssue kind value).map make = .ok field) :
    ∃ a, value = some a ∧ field = make a := by
  cases value with
  | none => cases h
  | some a => cases h; exact ⟨a, rfl, rfl⟩

/-- A field from a plain line has no counted value. -/
theorem counted?_of_ofLine {text : List Char} {field : Field} (h : Field.ofLine text = .ok field) :
    field.counted? = none := by
  have hmap : ∀ {α : Type} {kind : IssueKind} {value : Option α} {make : α → Field},
      (∀ a, (make a).counted? = none) → (orIssue kind value).map make = .ok field →
        field.counted? = none := by
    intro α kind value make hmake h
    obtain ⟨a, -, rfl⟩ := of_orIssue h
    exact hmake a
  rw [Field.ofLine] at h
  repeat' split at h
  all_goals first
    | cases h; done
    | cases h; rfl
    | exact hmap (fun _ => rfl) h

/-- A counted key is one of those spellings, with a bar behind it. -/
theorem exists_of_countedKey? {text afterKey : List Char} {key : CountedKey}
    (h : countedKey? text = some (key, afterKey)) :
    ∃ name, (name, key) ∈ countedKeys ∧ text = name.toList ++ '|' :: afterKey := by
  obtain ⟨⟨name, key'⟩, hmem, hstrip⟩ := List.exists_of_findSome?_eq_some h
  obtain ⟨rest, hrest, heq⟩ := Option.map_eq_some_iff.1 hstrip
  cases heq
  rw [Text.stripPrefix?] at hrest
  split at hrest
  next hprefix =>
    obtain ⟨rest, rfl⟩ := List.isPrefixOf_iff_prefix.1 hprefix
    rw [List.drop_left] at hrest
    cases hrest
    exact ⟨name, hmem, by simp⟩
  next => cases hrest

/-- There is no counted key exactly if none of their spellings starts the line, with a bar behind
    it. -/
theorem countedKey?_eq_none_iff {text : List Char} :
    countedKey? text = none ↔
      ∀ spelling ∈ countedKeys, ¬ spelling.1.toList ++ ['|'] <+: Text.line text := by
  have hbreaks : ∀ spelling ∈ countedKeys, '\n' ∉ spelling.1.toList ++ ['|'] := by decide
  rw [countedKey?, List.findSome?_eq_none_iff]
  refine forall₂_congr fun spelling hmem => ?_
  rw [Text.prefix_line_iff (hbreaks spelling hmem), Option.map_eq_none_iff, Text.stripPrefix?,
    ← List.isPrefixOf_iff_prefix]
  split <;> simp_all

/-- A counted value stands behind its length and a bar. -/
theorem exists_of_countedValue? {afterKey value tail : List Char}
    (h : countedValue? afterKey = some (value, tail)) :
    ∃ length bytes, number? length = some bytes ∧ Text.byteLength value = bytes.toNat ∧
      afterKey = length ++ '|' :: (value ++ tail) := by
  simp only [countedValue?] at h
  split at h
  next body heq =>
    obtain ⟨bytes, hbytes, hsplit⟩ := Option.bind_eq_some_iff.1 h
    have htext := List.prefix_iff_eq_append.1
      (List.takeWhile_prefix (l := afterKey) fun c => c != '|' && c != '\n')
    rw [heq, Text.splitBytes_eq hsplit] at htext
    exact ⟨_, bytes, hbytes, Text.byteLength_of_splitBytes hsplit, htext.symm⟩
  next => cases h

/-- A value that was cut off is as long as its length said, and lengths have 64 bits. -/
theorem byteLength_of_countedValue? {afterKey value tail : List Char}
    (h : countedValue? afterKey = some (value, tail)) : Text.byteLength value < UInt64.size := by
  obtain ⟨-, bytes, -, hvalue, -⟩ := exists_of_countedValue? h
  rw [hvalue]
  exact bytes.toNat_lt

/-- **Whatever a record is read as, its value is short enough.** -/
theorem sized_of_next {reader after : Reader} {line : Nat} {field : Field}
    (h : reader.next = some (.field line field, after)) : field.Sized := by
  rw [Reader.next] at h
  split at h
  next => simp at h
  next =>
    split at h
    next => cases h
    next =>
      split at h
      next =>
        -- a plain line has no counted value
        obtain ⟨hitem, -⟩ := Prod.mk.inj (Option.some.inj h)
        rw [plainItem] at hitem
        split at hitem
        next => cases hitem
        next =>
          split at hitem
          next read hread =>
            cases hitem
            intro text htext
            rw [counted?_of_ofLine hread] at htext
            cases htext
          next => cases hitem
      next key afterKey hkey =>
        split at h
        next => simp at h
        next value tail hvalue =>
          -- a counted value was cut off by its length
          obtain ⟨hitem, -⟩ := Prod.mk.inj (Option.some.inj h)
          cases hitem
          rw [sized_field, Text.utf8ByteSize_ofList]
          exact byteLength_of_countedValue? hvalue

end MountControl.Wire
