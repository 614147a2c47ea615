/-
  MountControl — identifiers and states are read back from their spellings.

  No spelling has a bar or a line feed in it, so each can stand as the value
  on a plain line of a message.
-/
import MountControl.Proofs.Text.Numeral
import MountControl.Volume.Record

namespace MountControl.Volume

open Text.Numeral

/-- Can a text stand as the value on a plain line? -/
structure Plain (text : List Char) : Prop where
  noBar : '|' ∉ text
  noBreak : '\n' ∉ text

theorem Plain.append {front rest : List Char} (hf : Plain front) (hr : Plain rest) :
    Plain (front ++ rest) := by
  refine ⟨?_, ?_⟩ <;> intro h <;> rcases List.mem_append.1 h with h | h
  · exact hf.noBar h
  · exact hr.noBar h
  · exact hf.noBreak h
  · exact hr.noBreak h

theorem Plain.sublist {text part : List Char} (h : Plain text) (hs : part.Sublist text) :
    Plain part :=
  ⟨fun hp => h.noBar (hs.subset hp), fun hp => h.noBreak (hs.subset hp)⟩

theorem plain_of_isDigit {text : List Char} (h : ∀ c ∈ text, IsDigit c) : Plain text :=
  ⟨(not_mem_of_isDigit h).1, (not_mem_of_isDigit h).2.1⟩

theorem plain_decimal (n : Nat) : Plain (decimal n) :=
  plain_of_isDigit (isDigit_of_mem_digits (by omega) (by omega))

theorem plain_padded (width n : Nat) : Plain (padded 16 width n) :=
  plain_of_isDigit (isDigit_of_mem_padded (by omega) (by omega) width n)

/-! ## Instances and states -/

theorem InstanceId.parse?_chars (id : InstanceId) : InstanceId.parse? id.chars = some id := by
  have hlt : id.value.toNat < 16 ^ 16 := id.value.toNat_lt
  rw [InstanceId.parse?, InstanceId.chars, if_pos (Nat.le_of_eq (length_padded _ _ _)),
    value?_padded (by omega) (by omega) (by omega) hlt]
  simp

theorem State.parse?_name (state : State) : State.parse? state.name.toList = some state := by
  cases state <;> rfl

theorem State.plain_name (state : State) : Plain state.name.toList := by
  cases state <;> exact ⟨by decide, by decide⟩

/-! ## Filesystems -/

theorem Uuid.length_hyphenate {sizes : List Nat} (hne : sizes ≠ []) {digits : List Char}
    (h : digits.length = sizes.sum) :
    (hyphenate sizes digits).length + 1 = sizes.sum + sizes.length := by
  fun_induction hyphenate sizes digits with
  | case1 => exact absurd rfl hne
  | case2 size digits => simp_all
  | case3 size sizes digits hsizes ih =>
    have hrest : (digits.drop size).length = sizes.sum := by
      rw [List.length_drop, h, List.sum_cons]; omega
    have := ih hsizes hrest
    simp only [List.length_append, List.length_cons, List.length_take, List.sum_cons] at *
    omega

/-- Hyphens are found where they were written. -/
theorem Uuid.dehyphenate?_hyphenate {sizes : List Nat} (hne : sizes ≠ []) {digits : List Char}
    (h : digits.length = sizes.sum) :
    dehyphenate? sizes (hyphenate sizes digits) = some digits := by
  fun_induction hyphenate sizes digits with
  | case1 => exact absurd rfl hne
  | case2 size digits =>
    have hsize : digits.length = size := by simpa using h
    have htake : digits.take size = digits := by rw [← hsize, List.take_length]
    rw [dehyphenate?, htake, if_pos hsize]
  | case3 size sizes digits hsizes ih =>
    have hsize : (digits.take size).length = size := by
      rw [List.length_take, h, List.sum_cons]; omega
    have hrest : (digits.drop size).length = sizes.sum := by
      rw [List.length_drop, h, List.sum_cons]; omega
    rw [dehyphenate?, List.drop_left' hsize, List.take_left' hsize]
    · show (dehyphenate? sizes (hyphenate sizes (digits.drop size))).map _ = _
      rw [ih hsizes hrest, Option.map_some, List.take_append_drop]
    · exact hsizes

/-- **A filesystem's identifier is read back.** -/
theorem Uuid.parse?_chars (id : Uuid) : Uuid.parse? id.chars = some id := by
  have hlength : (padded 16 32 id.value.toNat).length = 32 := length_padded _ _ _
  have hchars : id.chars.length = 36 := by
    have := length_hyphenate (show groups ≠ [] by simp [groups]) hlength
    simpa [groups, chars] using this
  have hlt : id.value.toNat < 16 ^ 32 := id.value.isLt
  -- of the four forms, the one of 36 characters has hyphens and nothing around them
  rw [parse?, hchars]
  show ofGrouped? id.chars = some id
  rw [ofGrouped?, chars, dehyphenate?_hyphenate (by simp [groups]) hlength, Option.bind_some,
    ofDigits?, if_pos hlength, value?_padded (by omega) (by omega) (by omega) hlt]
  simp

theorem Uuid.plain_hyphenate (sizes : List Nat) {digits : List Char} (h : Plain digits) :
    Plain (hyphenate sizes digits) := by
  fun_induction hyphenate sizes digits with
  | case1 => exact ⟨nofun, nofun⟩
  | case2 size digits => exact h.sublist (List.take_sublist _ _)
  | case3 size sizes digits hsizes ih =>
    have hhyphen : Plain ['-'] := ⟨by decide, by decide⟩
    exact (h.sublist (List.take_sublist _ _)).append
      (hhyphen.append (ih (h.sublist (List.drop_sublist _ _))))

theorem Uuid.plain_chars (id : Uuid) : Plain id.chars :=
  plain_hyphenate groups (plain_padded 32 _)

theorem InstanceId.plain_chars (id : InstanceId) : Plain id.chars := plain_padded 16 _

end MountControl.Volume
