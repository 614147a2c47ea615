/-
  MountControl — numbers and their digits.

  Reading the digits that were written gives the number back, for shortest
  spellings and for those of a fixed width.  No digit is one of the marks
  that a message puts around numbers.
-/
import Mathlib.Algebra.Ring.Nat
import MountControl.Text.Numeral

namespace MountControl.Text.Numeral

/-! ## Single digits -/

theorem digitIn?_digitChar {base d : Nat} (hb : base ≤ 16) (hd : d < base) :
    digitIn? base (Nat.digitChar d) = some d := by
  have hvalue : ∀ d < 16, digitValue? (Nat.digitChar d) = some d := by decide
  rw [digitIn?, hvalue d (by omega)]
  simpa using hd

theorem lt_of_digitIn? {base d : Nat} {c : Char} (h : digitIn? base c = some d) : d < base := by
  simpa using (Option.filter_eq_some_iff.1 h).2

/-- What a digit may look like in a base of at most sixteen. -/
def IsDigit (c : Char) : Prop := ∃ d < 16, c = Nat.digitChar d

theorem IsDigit.ne {c : Char} (h : IsDigit c) : c ≠ '|' ∧ c ≠ '\n' ∧ c ≠ '+' ∧ c ≠ '-' := by
  obtain ⟨d, hd, rfl⟩ := h
  have hne : ∀ d < 16, Nat.digitChar d ≠ '|' ∧ Nat.digitChar d ≠ '\n' ∧
      Nat.digitChar d ≠ '+' ∧ Nat.digitChar d ≠ '-' := by decide
  exact hne d hd

theorem not_mem_of_isDigit {text : List Char} (h : ∀ c ∈ text, IsDigit c) :
    '|' ∉ text ∧ '\n' ∉ text ∧ '+' ∉ text ∧ '-' ∉ text := by
  refine ⟨?_, ?_, ?_, ?_⟩ <;> intro hc
  · exact (h _ hc).ne.1 rfl
  · exact (h _ hc).ne.2.1 rfl
  · exact (h _ hc).ne.2.2.1 rfl
  · exact (h _ hc).ne.2.2.2 rfl

theorem isDigit_of_mod {base n : Nat} (hpos : 0 < base) (hb : base ≤ 16) :
    IsDigit (Nat.digitChar (n % base)) :=
  ⟨n % base, by have := Nat.mod_lt n hpos; omega, rfl⟩

theorem exists_of_mem_digits {base n : Nat} (h2 : 2 ≤ base) :
    ∀ c ∈ digits base n, ∃ d < base, c = Nat.digitChar d := by
  fun_induction digits base n with
  | case1 n h ih =>
    intro c hc
    rcases List.mem_append.1 hc with hc | hc
    · exact ih c hc
    · exact ⟨n % base, Nat.mod_lt n (by omega), List.mem_singleton.1 hc⟩
  | case2 n h =>
    intro c hc
    exact ⟨n, by omega, List.mem_singleton.1 hc⟩

theorem isDigit_of_mem_digits {base n : Nat} (h2 : 2 ≤ base) (hb : base ≤ 16) :
    ∀ c ∈ digits base n, IsDigit c := by
  intro c hc
  obtain ⟨d, hd, rfl⟩ := exists_of_mem_digits h2 c hc
  exact ⟨d, by omega, rfl⟩

theorem isDigit_of_mem_padded {base : Nat} (hpos : 0 < base) (hb : base ≤ 16) (width n : Nat) :
    ∀ c ∈ padded base width n, IsDigit c := by
  induction width generalizing n with
  | zero => nofun
  | succ width ih =>
    intro c hc
    rcases List.mem_append.1 hc with hc | hc
    · exact ih (n / base) c hc
    · rw [List.mem_singleton.1 hc]
      exact isDigit_of_mod hpos hb

/-! ## Reading back -/

theorem continue?_append (base value : Nat) (front rest : List Char) :
    continue? base value (front ++ rest) =
      (continue? base value front).bind (continue? base · rest) := by
  induction front generalizing value with
  | nil => rfl
  | cons c front ih =>
    rw [List.cons_append, continue?, continue?]
    cases digitIn? base c with
    | none => rfl
    | some d => exact ih _

/-- One more digit at the end of a spelling. -/
theorem continue?_snoc {base n : Nat} {front : List Char} (hpos : 0 < base) (hb : base ≤ 16)
    (h : continue? base 0 front = some (n / base)) :
    continue? base 0 (front ++ [Nat.digitChar (n % base)]) = some n := by
  rw [continue?_append, h, Option.bind_some, continue?,
    digitIn?_digitChar hb (Nat.mod_lt n hpos)]
  exact congrArg some (Nat.div_add_mod' n base)

theorem continue?_digits {base : Nat} (h2 : 2 ≤ base) (hb : base ≤ 16) (n : Nat) :
    continue? base 0 (digits base n) = some n := by
  fun_induction digits base n with
  | case1 n h ih => exact continue?_snoc (by omega) hb ih
  | case2 n h =>
    rw [continue?, digitIn?_digitChar hb (by omega)]
    simp [continue?]

theorem continue?_padded {base : Nat} (hpos : 0 < base) (hb : base ≤ 16) {width n : Nat}
    (h : n < base ^ width) : continue? base 0 (padded base width n) = some n := by
  induction width generalizing n with
  | zero =>
    obtain rfl : n = 0 := by simpa using h
    rfl
  | succ width ih =>
    refine continue?_snoc hpos hb (ih ?_)
    rwa [Nat.div_lt_iff_lt_mul hpos, ← Nat.pow_succ]

theorem digits_ne_nil (base n : Nat) : digits base n ≠ [] := by
  rw [digits]
  split <;> simp

theorem length_padded (base width n : Nat) : (padded base width n).length = width := by
  induction width generalizing n with
  | zero => rfl
  | succ width ih => simp [padded, ih]

/-- **A padded spelling is read back.** -/
theorem value?_padded {base width n : Nat} (hpos : 0 < base) (hb : base ≤ 16) (hw : 0 < width)
    (h : n < base ^ width) : value? base (padded base width n) = some n := by
  have hne : padded base width n ≠ [] := by
    rw [← List.length_pos_iff, length_padded]
    exact hw
  rw [value?, if_neg (by simpa using hne), continue?_padded hpos hb h]

/-- **The shortest spelling is read back.** -/
theorem value?_digits {base : Nat} (h2 : 2 ≤ base) (hb : base ≤ 16) (n : Nat) :
    value? base (digits base n) = some n := by
  rw [value?, if_neg (by simpa using digits_ne_nil base n), continue?_digits h2 hb]

/-- **A decimal spelling is read back**, if the number is below the bound. -/
theorem unsigned?_decimal {bound n : Nat} (h : n < bound) :
    unsigned? bound (decimal n) = some n := by
  have hdigits : ∀ c ∈ digits 10 n, IsDigit c := isDigit_of_mem_digits (by omega) (by omega)
  rw [unsigned?, decimal, value?_digits (by omega) (by omega)]
  · simpa using h
  · -- no digit is a plus sign, so the spelling is read as it stands
    intro rest heq
    have hplus := (not_mem_of_isDigit hdigits).2.2.1
    rw [← decimal, heq] at hplus
    exact hplus List.mem_cons_self

end MountControl.Text.Numeral
