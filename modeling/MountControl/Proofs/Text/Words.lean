/-
  MountControl — numbers read into machine words.

  `Spells` says which number a text spells, however large it is.  A machine
  reads it into a word: digit after digit, it multiplies by the base and adds,
  and gives up where a product or a sum is no word.  A plus sign may stand in
  front.

  * `word?` is that conversion, and `append?` its step;
  * `continueWord?_eq_some_iff`: it gives up only where the number itself is no
    word, as no number gets smaller by further digits;
  * `word?_eq_some_iff`: so what is read is the number that is spelled, behind
    a plus sign or without one.
-/
import MountControl.Proofs.Text.Digits
import MountControl.Proofs.Text.Slices

namespace MountControl.Text.Numeral

/-- The product of two words, if it is a word. -/
def checkedProduct? (a b : UInt64) : Option UInt64 :=
  if a.toNat * b.toNat < UInt64.size then some (a * b) else none

/-- The word with one digit more behind it, if that is a word. -/
def append? (base word digit : UInt64) : Option UInt64 :=
  (checkedProduct? word base).bind (checkedSum? · digit)

/-- The word that the digits continue from `word`; none where a character is no digit, or where
    the number so far is no word. -/
def continueWord? (base : UInt64) : (word : UInt64) → List Char → Option UInt64
  | word, [] => some word
  | word, c :: rest =>
    match digitIn? base.toNat c with
    | some d => (append? base word (.ofNat d)).bind (continueWord? base · rest)
    | none => none

/-- The word spelled by at least one digit of the base, sixteen at most, with an optional plus
    sign. -/
def word? (base : UInt64) (text : List Char) : Option UInt64 :=
  let bare := match text with
    | '+' :: rest => rest
    | _ => text
  if bare.isEmpty then none else continueWord? base 0 bare

section
variable {a b c base word digit next : UInt64} {n value : Nat} {text : List Char}

/-! ## One digit -/

theorem checkedProduct?_eq_some_iff :
    checkedProduct? a b = some c ↔ a.toNat * b.toNat = c.toNat := by
  rw [checkedProduct?]
  split
  next hlt =>
    have hproduct : (a * b).toNat = a.toNat * b.toNat := by
      rw [UInt64.toNat_mul, Nat.mod_eq_of_lt hlt]
    rw [Option.some.injEq, ← UInt64.toNat_inj, hproduct]
  next hlarge =>
    have hc := c.toNat_lt
    exact iff_of_false (by simp) fun h => hlarge (h ▸ hc)

theorem checkedSum?_eq_some_iff : checkedSum? a b = some c ↔ a.toNat + b.toNat = c.toNat := by
  refine ⟨fun h => ?_, checkedSum?_eq_some⟩
  rw [checkedSum?] at h
  split at h
  next hlt =>
    cases h
    exact (toNat_add hlt).symm
  next => cases h

/-- **A digit is added wherever the number with it is a word.**  The product is one then, too. -/
theorem append?_eq_some_iff :
    append? base word digit = some next ↔ word.toNat * base.toNat + digit.toNat = next.toNat := by
  simp only [append?, Option.bind_eq_some_iff, checkedProduct?_eq_some_iff,
    checkedSum?_eq_some_iff]
  constructor
  · rintro ⟨scaled, hscaled, hnext⟩
    rw [hscaled, hnext]
  · intro hnext
    have hlt : word.toNat * base.toNat < UInt64.size :=
      Nat.lt_of_le_of_lt (hnext ▸ Nat.le_add_right _ _) next.toNat_lt
    exact ⟨.ofNat _, (UInt64.toNat_ofNat_of_lt' hlt).symm,
      by rw [UInt64.toNat_ofNat_of_lt' hlt, hnext]⟩

/-! ## All digits -/

/-- No number gets smaller by further digits. -/
theorem le_of_continue? {base : Nat} (h : continue? base value text = some n) : value ≤ n := by
  induction text generalizing value with
  | nil =>
    cases h
    exact Nat.le_refl _
  | cons c rest ih =>
    rw [continue?] at h
    split at h
    next d hd =>
      have hbase : 0 < base := Nat.zero_lt_of_lt (lt_of_digitIn? hd)
      calc value ≤ value * base := Nat.le_mul_of_pos_right value hbase
        _ ≤ value * base + d := Nat.le_add_right _ _
        _ ≤ n := ih h
    next => cases h

/-- **The machine's reading is that of the number**, as far as this is a word. -/
theorem continueWord?_eq_some_iff :
    continueWord? base word text = some next ↔
      continue? base.toNat word.toNat text = some next.toNat := by
  induction text generalizing word with
  | nil => rw [continueWord?, continue?, Option.some.injEq, Option.some.injEq, UInt64.toNat_inj]
  | cons c rest ih =>
    rw [continueWord?, continue?]
    cases hdigit : digitIn? base.toNat c with
    | none => simp
    | some d =>
      have hd : (UInt64.ofNat d).toNat = d :=
        UInt64.toNat_ofNat_of_lt' ((lt_of_digitIn? hdigit).trans base.toNat_lt)
      simp only [Option.bind_eq_some_iff, append?_eq_some_iff, ih, hd]
      constructor
      · rintro ⟨sofar, hsofar, hread⟩
        rw [hsofar, hread]
      · intro hread
        have hsofar := UInt64.toNat_ofNat_of_lt' ((le_of_continue? hread).trans_lt next.toNat_lt)
        exact ⟨.ofNat _, hsofar.symm, by rw [hsofar, hread]⟩

/-- **A word is read off a text exactly if the text spells its number**, behind a plus sign or
    without one. -/
theorem word?_eq_some_iff :
    word? base text = some word ↔
      Spells base.toNat text word.toNat ∨
        ∃ bare, text = '+' :: bare ∧ Spells base.toNat bare word.toNat := by
  have hbare : ∀ bare : List Char,
      (if bare.isEmpty then none else continueWord? base 0 bare) = some word ↔
        Spells base.toNat bare word.toNat := by
    intro bare
    rw [← value?_eq_some_iff, value?]
    split
    next => simp
    next => exact continueWord?_eq_some_iff
  rw [word?.eq_def]
  split
  next bare =>
    rw [hbare]
    have hsign : ¬ Spells base.toNat ('+' :: bare) word.toNat := fun h =>
      h.not_mem (c := '+') rfl List.mem_cons_self
    constructor
    · exact fun h => .inr ⟨bare, rfl, h⟩
    · rintro (h | ⟨_, heq, h⟩)
      · exact absurd h hsign
      · cases heq
        exact h
  next hplus =>
    rw [hbare]
    refine ⟨.inl, ?_⟩
    rintro (h | ⟨bare, rfl, -⟩)
    · exact h
    · exact absurd rfl (hplus bare)

end

end MountControl.Text.Numeral
