/-
  MountControl — digits of the base sixteen.

  They are read in either case and written in lower case.

  * `mem_hexDigits_iff`: the digits that have a value are the listed ones;
  * `padded_of_spells`: a number is written as any spelling of it in lower
    case, behind as many zeros as the width leaves;
  * `all_isHexByte_iff`: checking the bytes of a text is checking its
    characters.
-/
import MountControl.Proofs.Text.Ascii
import MountControl.Proofs.Text.Digits

namespace MountControl.Text.Numeral

/-- The digits of the base sixteen, in either case. -/
def hexDigits : List Char :=
  ['0', '1', '2', '3', '4', '5', '6', '7', '8', '9', 'a', 'b', 'c', 'd', 'e', 'f',
    'A', 'B', 'C', 'D', 'E', 'F']

/-- The digits of the base sixteen that are written. -/
def lowerHexDigits : List Char :=
  ['0', '1', '2', '3', '4', '5', '6', '7', '8', '9', 'a', 'b', 'c', 'd', 'e', 'f']

/-- Is the byte such a digit, in either case? -/
def isHexByte (b : UInt8) : Bool :=
  (0x30 ≤ b && b ≤ 0x39) || (0x61 ≤ b && b ≤ 0x66) || (0x41 ≤ b && b ≤ 0x46)

/-! ## Single digits -/

/-- What holds of the characters up to the last digit holds of every digit. -/
theorem of_digitValue? {p : Char → Nat → Prop}
    (h : ∀ v < 0x67, ∀ d ∈ digitValue? (Char.ofNat v), p (Char.ofNat v) d) {c : Char} {d : Nat}
    (hc : digitValue? c = some d) : p c d := by
  have hlast : c ≤ 'f' := by
    rw [digitValue?] at hc
    split_ifs at hc with hdecimal hlower hupper
    · exact Char.le_trans hdecimal.2 (by decide)
    · exact hlower.2
    · exact Char.le_trans hupper.2 (by decide)
  have hlt : c.toNat < 0x67 := Nat.lt_succ_of_le (UInt32.le_iff_toNat_le.1 (Char.le_def.1 hlast))
  have hdigit := h c.toNat hlt d
  rw [Char.ofNat_toNat] at hdigit
  exact hdigit hc

theorem mem_hexDigits_iff {c : Char} : c ∈ hexDigits ↔ (digitIn? 16 c).isSome := by
  constructor
  · have hdigits : hexDigits.all fun c => (digitIn? 16 c).isSome := by decide
    exact List.all_eq_true.1 hdigits c
  · intro h
    obtain ⟨d, hd⟩ := Option.isSome_iff_exists.1 h
    exact of_digitValue? (p := fun c _ => c ∈ hexDigits) (by decide)
      (Option.filter_eq_some_iff.1 hd).1

/-- A digit of either case is written in lower case. -/
theorem digitChar_of_digitIn? {base d : Nat} {c : Char} (h : digitIn? base c = some d) :
    Nat.digitChar d = c.toLower :=
  of_digitValue? (p := fun c d => Nat.digitChar d = c.toLower) (by decide)
    (Option.filter_eq_some_iff.1 h).1

theorem mem_lowerHexDigits {c : Char} (h : IsDigit c) : c ∈ lowerHexDigits := by
  obtain ⟨d, hd, rfl⟩ := h
  have hdigit : ∀ d < 16, Nat.digitChar d ∈ lowerHexDigits := by decide
  exact hdigit d hd

/-! ## Leading zeros -/

theorem padded_zero (base width : Nat) : padded base width 0 = List.replicate width '0' := by
  induction width with
  | zero => rfl
  | succ width ih => rw [padded, Nat.zero_div, ih, Nat.zero_mod, List.replicate_succ']; rfl

/-- **A number is written as any spelling of it is in lower case**, behind zeros. -/
theorem padded_of_spells {base n : Nat} {text : List Char} (h : Spells base text n)
    (zeros : Nat) :
    padded base (zeros + text.length) n =
      List.replicate zeros '0' ++ text.map Char.toLower := by
  induction h with
  | @digit c d hc =>
    have hd := lt_of_digitIn? hc
    rw [List.length_singleton, padded, Nat.div_eq_of_lt hd, Nat.mod_eq_of_lt hd, padded_zero,
      digitChar_of_digitIn? hc]
    rfl
  | @snoc front c n d _ hc ih =>
    have hd := lt_of_digitIn? hc
    have hdiv : (n * base + d) / base = n := by
      rw [Nat.mul_comm, Nat.mul_add_div (Nat.zero_lt_of_lt hd), Nat.div_eq_of_lt hd, Nat.add_zero]
    have hmod : (n * base + d) % base = d := by
      rw [Nat.mul_comm, Nat.mul_add_mod, Nat.mod_eq_of_lt hd]
    rw [List.length_append, List.length_singleton, ← Nat.add_assoc, padded, hdiv, hmod, ih,
      digitChar_of_digitIn? hc, List.map_append, List.append_assoc]
    rfl

/-! ## Bytes -/

theorem isHexByte_iff {b : UInt8} : isHexByte b ↔ Char.ofNat b.toNat ∈ hexDigits := by
  have hall : ∀ v < 256, isHexByte (UInt8.ofNat v) ↔ Char.ofNat v ∈ hexDigits := by
    decide +kernel
  simpa using hall b.toNat b.toNat_lt

theorem toNat_lt_of_mem_hexDigits {c : Char} (h : c ∈ hexDigits) : c.toNat < 0x80 := by
  have hplain : hexDigits.all fun c => c.toNat < 0x80 := by decide
  exact of_decide_eq_true (List.all_eq_true.1 hplain c h)

/-- **The bytes of a text are digits exactly if its characters are.** -/
theorem all_isHexByte_iff {text : List Char} :
    (encode text).all isHexByte ↔ ∀ c ∈ text, c ∈ hexDigits := by
  constructor
  · intro h
    have hdigits : ∀ b ∈ encode text, Char.ofNat b.toNat ∈ hexDigits := fun b hb =>
      isHexByte_iff.1 (List.all_eq_true.1 h b hb)
    have hplain : ∀ b ∈ encode text, b.toNat < 0x80 := by
      intro b hb
      have hb256 := b.toNat_lt
      rw [← toNat_ofNat (v := b.toNat) (.inl (by omega))]
      exact toNat_lt_of_mem_hexDigits (hdigits b hb)
    rw [eq_of_plain_encode hplain, List.forall_mem_map]
    exact hdigits
  · intro h
    have hplain : ∀ c ∈ text, c.toNat < 0x80 := fun c hc => toNat_lt_of_mem_hexDigits (h c hc)
    rw [encode_plain hplain, List.all_map, List.all_eq_true]
    intro c hc
    have hbyte : (UInt8.ofNat c.toNat).toNat = c.toNat :=
      UInt8.toNat_ofNat_of_lt' (Nat.lt_trans (hplain c hc) (by decide))
    show isHexByte (UInt8.ofNat c.toNat) = true
    rw [isHexByte_iff, hbyte, Char.ofNat_toNat]
    exact h c hc

end MountControl.Text.Numeral
