/-
  MountControl — the syntax of numbers.

  A number is spelled by at least one digit of its base; the numbers of
  messages are decimal and may have a plus sign in front.

  * `Spells` and `Decimal` are those spellings;
  * `value?_eq_some_iff` and `unsigned?_eq_some_iff`: just these are read,
    and as the number that they spell.
-/
import Mathlib.Data.List.Induction
import MountControl.Proofs.Text.Numeral

namespace MountControl.Text.Numeral

/-- The text spells the number in the base: it is a digit, or a spelling and one digit more. -/
inductive Spells (base : Nat) : List Char → Nat → Prop
  | digit {c : Char} {d : Nat} : digitIn? base c = some d → Spells base [c] d
  | snoc {front : List Char} {c : Char} {n d : Nat} : Spells base front n →
      digitIn? base c = some d → Spells base (front ++ [c]) (n * base + d)

/-- The text is a decimal spelling of the number, with or without a plus sign. -/
inductive Decimal : List Char → Nat → Prop
  | bare {text : List Char} {n : Nat} : Spells 10 text n → Decimal text n
  | signed {text : List Char} {n : Nat} : Spells 10 text n → Decimal ('+' :: text) n

section
variable {base n : Nat} {text : List Char}

theorem value?_of_spells (h : Spells base text n) : value? base text = some n := by
  induction h with
  | digit hc => simp [value?, continue?, hc]
  | @snoc front c n d _ hc ih =>
    rw [value?] at ih ⊢
    split at ih
    next => cases ih
    next => simp [continue?_append, ih, continue?, hc]

theorem spells_of_continue? (hne : text ≠ []) (h : continue? base 0 text = some n) :
    Spells base text n := by
  induction text using List.reverseRecOn generalizing n with
  | nil => exact absurd rfl hne
  | append_singleton front c ih =>
    obtain ⟨value, hfront, hlast⟩ := Option.bind_eq_some_iff.1 (continue?_append .. ▸ h)
    rw [continue?] at hlast
    split at hlast
    next d hd =>
      cases hlast
      cases front with
      | nil =>
        cases hfront
        rw [Nat.zero_mul, Nat.zero_add]
        exact .digit hd
      | cons first front => exact .snoc (ih (List.cons_ne_nil first front) hfront) hd
    next => cases hlast

/-- **Digits are read as the number that they spell**, and nothing else is read. -/
theorem value?_eq_some_iff : value? base text = some n ↔ Spells base text n := by
  refine ⟨fun h => ?_, value?_of_spells⟩
  rw [value?] at h
  split at h
  next => cases h
  next hne => exact spells_of_continue? (by simpa using hne) h

theorem Spells.ne_nil (h : Spells base text n) : text ≠ [] := by
  cases h <;> simp

/-- **Some number is spelled by every text of digits** that is not empty, and by no other. -/
theorem exists_spells_iff :
    (∃ n, Spells base text n) ↔ text ≠ [] ∧ ∀ c ∈ text, (digitIn? base c).isSome := by
  constructor
  · rintro ⟨n, h⟩
    refine ⟨h.ne_nil, ?_⟩
    induction h with
    | digit hc => simp [hc]
    | snoc _ hc ih => simpa [hc, or_imp, forall_and] using ih
  · rintro ⟨hne, hdigits⟩
    induction text using List.reverseRecOn with
    | nil => exact absurd rfl hne
    | append_singleton front c ih =>
      simp only [List.forall_mem_append, List.forall_mem_singleton] at hdigits
      obtain ⟨d, hd⟩ := Option.isSome_iff_exists.1 hdigits.2
      cases front with
      | nil => exact ⟨d, .digit hd⟩
      | cons first front =>
        obtain ⟨n, hn⟩ := ih (List.cons_ne_nil first front) hdigits.1
        exact ⟨_, .snoc hn hd⟩

theorem Spells.digits (h : Spells base text n) : ∀ c ∈ text, (digitValue? c).isSome := by
  intro c hc
  obtain ⟨d, hd⟩ := Option.isSome_iff_exists.1 ((exists_spells_iff.1 ⟨n, h⟩).2 c hc)
  exact Option.isSome_of_eq_some (Option.filter_eq_some_iff.1 hd).1

theorem Spells.not_mem (h : Spells base text n) {c : Char} (hc : digitValue? c = none) :
    c ∉ text := by
  intro hmem
  have hdigit := h.digits c hmem
  rw [hc] at hdigit
  cases hdigit

/-- A number has no more digits than its spelling. -/
theorem Spells.lt (h : Spells base text n) : n < base ^ text.length := by
  induction h with
  | digit hc => simpa using lt_of_digitIn? hc
  | @snoc front c n d _ hc ih =>
    have hd := lt_of_digitIn? hc
    calc n * base + d < (n + 1) * base := by rw [Nat.succ_mul]; omega
      _ ≤ base ^ front.length * base := Nat.mul_le_mul_right _ ih
      _ = base ^ (front ++ [c]).length := by
        rw [List.length_append, List.length_singleton, pow_succ]

/-- Neither a bar nor a line feed is part of a number. -/
theorem Decimal.not_mem (h : Decimal text n) : '|' ∉ text ∧ '\n' ∉ text := by
  cases h with
  | bare h => exact ⟨h.not_mem rfl, h.not_mem rfl⟩
  | signed h => simp [h.not_mem (c := '|') rfl, h.not_mem (c := '\n') rfl]

/-- **Decimal spellings are read as their numbers**, if these are below the bound, and nothing
    else is. -/
theorem unsigned?_eq_some_iff {bound : Nat} :
    unsigned? bound text = some n ↔ Decimal text n ∧ n < bound := by
  rw [unsigned?.eq_def, Option.filter_eq_some_iff, decide_eq_true_eq]
  refine and_congr_left fun _ => ?_
  split
  next rest =>
    rw [value?_eq_some_iff]
    constructor
    · exact .signed
    · intro h
      cases h with
      | bare h => exact absurd List.mem_cons_self (h.not_mem rfl)
      | signed h => exact h
  next hplus =>
    rw [value?_eq_some_iff]
    constructor
    · exact .bare
    · intro h
      cases h with
      | bare h => exact h
      | signed h => exact absurd rfl (hplus _)

end

end MountControl.Text.Numeral
