/-
  MountControl — plain characters among other bytes.

  Where bytes are read as a text, whatever they are, a character of ASCII
  stands for its own byte, and nothing else is read as one: longer sequences
  spell later characters, and so does what is no character at all.

  * `le_assemble`: no sequence of several bytes spells such a character;
  * `decodeFirst_plain`: hence it takes just the byte that it is;
  * `decodeLossy_eq_plain_append`: and a text starts with some of them exactly
    if its bytes do;
  * `eq_of_plain_encode`: where all bytes are plain, they are the characters.
-/
import Mathlib.Data.List.Forall2
import MountControl.Proofs.Text.Length
import MountControl.Proofs.Text.Utf8

namespace MountControl.Text

/-! ## First bytes -/

section
variable {first : UInt8}

theorem continuations_tail (hlow : 0x80 ≤ first.toNat) (hhigh : first.toNat < 0xC2) :
    continuations first = none := by
  simp only [continuations, UInt8.lt_iff_toNat_lt, UInt8.reduceToNat]
  rw [if_neg (by omega), if_pos hhigh]

theorem continuations_past (h : 0xF4 < first.toNat) : continuations first = none := by
  simp only [continuations, UInt8.lt_iff_toNat_lt, ← UInt8.toNat_inj, UInt8.reduceToNat]
  rw [if_neg (by omega), if_neg (by omega), if_neg (by omega), if_neg (by omega),
    if_neg (by omega), if_neg (by omega), if_neg (by omega), if_neg (by omega), if_neg (by omega)]

end

/-! ## Longer sequences -/

theorem forall₂_matchRanges {ranges : List (UInt8 × UInt8)} {bytes : List UInt8}
    (h : (matchRanges ranges bytes).length = ranges.length) :
    List.Forall₂ (fun range b => range.1.toNat ≤ b.toNat ∧ b.toNat ≤ range.2.toNat) ranges
      (matchRanges ranges bytes) := by
  fun_induction matchRanges ranges bytes with
  | case1 low high ranges b bytes hb ih =>
    refine .cons ⟨UInt8.le_iff_toNat_le.1 hb.1, UInt8.le_iff_toNat_le.1 hb.2⟩ (ih ?_)
    simpa using h
  | case2 => cases h
  | case3 ranges bytes hends =>
    obtain rfl := List.eq_nil_of_length_eq_zero h.symm
    exact .nil

theorem toNat_ofNat {v : Nat} (h : v < 0xD800 ∨ 0xDFFF < v ∧ v < 0x110000) :
    (Char.ofNat v).toNat = v := by
  rw [Char.ofNat, dif_pos h]
  rfl

/-- **No sequence of several bytes spells a character of ASCII.** -/
theorem le_assemble {first : UInt8} {ranges : List (UInt8 × UInt8)} {matched : List UInt8}
    (hone : 0x80 ≤ first.toNat) (hfirst : continuations first = some ranges)
    (hmatched : List.Forall₂ (fun range b => range.1.toNat ≤ b.toNat ∧ b.toNat ≤ range.2.toNat)
      ranges matched) :
    0x80 ≤ (assemble first matched).toNat := by
  rcases Nat.lt_or_ge first.toNat 0xC2 with htail | htail
  · rw [continuations_tail hone htail] at hfirst
    cases hfirst
  rcases Nat.lt_or_ge first.toNat 0xE0 with htwo | htwo
  · rw [continuations_two htail htwo] at hfirst
    cases hfirst
    obtain ⟨b, _, hb, hnil, rfl⟩ := List.forall₂_cons_left_iff.1 hmatched
    obtain rfl := List.forall₂_nil_left_iff.1 hnil
    simp only [UInt8.reduceToNat] at hb
    simp only [assemble, List.length_cons, List.length_nil, List.foldl_cons, List.foldl_nil]
    rw [toNat_ofNat (by omega)]
    omega
  rcases Nat.lt_or_ge first.toNat 0xF0 with hthree | hthree
  · rw [continuations_three htwo hthree] at hfirst
    cases hfirst
    obtain ⟨b, _, hb, hrest, rfl⟩ := List.forall₂_cons_left_iff.1 hmatched
    obtain ⟨c, _, hc, hnil, rfl⟩ := List.forall₂_cons_left_iff.1 hrest
    obtain rfl := List.forall₂_nil_left_iff.1 hnil
    simp only [UInt8.reduceToNat] at hc
    simp only [assemble, List.length_cons, List.length_nil, List.foldl_cons, List.foldl_nil]
    -- the ranges of the second byte leave out overlong forms and surrogates
    rw [secondOfThree] at hb
    split_ifs at hb
    all_goals
      simp only [UInt8.reduceToNat] at hb
      rw [toNat_ofNat (by omega)]
      omega
  rcases Nat.lt_or_ge 0xF4 first.toNat with hpast | hfour
  · rw [continuations_past hpast] at hfirst
    cases hfirst
  · rw [continuations_four hthree hfour] at hfirst
    cases hfirst
    obtain ⟨b, _, hb, hrest, rfl⟩ := List.forall₂_cons_left_iff.1 hmatched
    obtain ⟨c, _, hc, hlast, rfl⟩ := List.forall₂_cons_left_iff.1 hrest
    obtain ⟨d, _, hd, hnil, rfl⟩ := List.forall₂_cons_left_iff.1 hlast
    obtain rfl := List.forall₂_nil_left_iff.1 hnil
    simp only [UInt8.reduceToNat] at hc hd
    simp only [assemble, List.length_cons, List.length_nil, List.foldl_cons, List.foldl_nil]
    rw [secondOfFour] at hb
    split_ifs at hb
    all_goals
      simp only [UInt8.reduceToNat] at hb
      rw [toNat_ofNat (by omega)]
      omega

/-! ## Plain characters -/

theorem utf8EncodeChar_plain {c : Char} (h : c.toNat < 0x80) :
    String.utf8EncodeChar c = [UInt8.ofNat c.toNat] := by
  rw [String.utf8EncodeChar]
  exact if_pos (Nat.le_of_lt_succ h)

theorem encode_injective {text other : List Char} (h : encode text = encode other) :
    text = other := by
  rw [← decodeLossy_encode text, h, decodeLossy_encode]

theorem encode_plain {text : List Char} (h : ∀ c ∈ text, c.toNat < 0x80) :
    encode text = text.map (UInt8.ofNat ·.toNat) := by
  induction text with
  | nil => rfl
  | cons c text ih =>
    rw [List.forall_mem_cons] at h
    rw [encode, List.flatMap_cons, utf8EncodeChar_plain h.1, List.map_cons, ← ih h.2]
    rfl

/-- Where all bytes are plain, so are the characters, and they are the bytes. -/
theorem eq_of_plain_encode {text : List Char} (h : ∀ b ∈ encode text, b.toNat < 0x80) :
    text = (encode text).map (Char.ofNat ·.toNat) := by
  have htoNat : ∀ b ∈ encode text, (Char.ofNat b.toNat).toNat = b.toNat := fun b hb =>
    toNat_ofNat (.inl (by have := h b hb; omega))
  have hplain : ∀ c ∈ (encode text).map (Char.ofNat ·.toNat), c.toNat < 0x80 := by
    rw [List.forall_mem_map]
    intro b hb
    rw [htoNat b hb]
    exact h b hb
  have hsame : encode ((encode text).map (Char.ofNat ·.toNat)) = encode text := by
    rw [encode_plain hplain, List.map_map]
    calc (encode text).map ((UInt8.ofNat ·.toNat) ∘ (Char.ofNat ·.toNat))
        = (encode text).map id := List.map_congr_left fun b hb => by simp [htoNat b hb]
      _ = encode text := List.map_id _
  exact encode_injective hsame.symm

/-- Reading a character of ASCII takes the byte that it is. -/
theorem decodeFirst_plain {first : UInt8} {bytes : List UInt8} {c : Char} (hc : c.toNat < 0x80)
    (h : (decodeFirst first bytes).1 = c) :
    String.utf8EncodeChar c = [first] ∧ (decodeFirst first bytes).2 = 0 := by
  rcases Nat.lt_or_ge first.toNat 0x80 with hone | hone
  · have hread := decodeFirst_one (v := first.toNat) bytes (by omega)
    rw [UInt8.ofNat_toNat] at hread
    rw [hread] at h ⊢
    subst h
    refine ⟨?_, rfl⟩
    rw [utf8EncodeChar_plain hc, toNat_ofNat (.inl (by omega)), UInt8.ofNat_toNat]
  · have hreplacement : 0x80 ≤ replacement.toNat := by decide
    have hle : 0x80 ≤ (decodeFirst first bytes).1.toNat := by
      rw [decodeFirst]
      split
      next => exact hreplacement
      next ranges hranges =>
        dsimp only
        split
        next hlength => exact le_assemble hone hranges (forall₂_matchRanges hlength)
        next => exact hreplacement
    rw [h] at hle
    exact absurd hle (Nat.not_le.2 hc)

theorem decodeLossy_loop_eq (bytes : List UInt8) (front : List Char) :
    decodeLossy.loop bytes front = front.reverse ++ decodeLossy bytes := by
  rw [decodeLossy]
  induction hn : bytes.length using Nat.strongRecOn generalizing bytes front with
  | _ n ih =>
    subst hn
    cases bytes with
    | nil => simp [decodeLossy.loop]
    | cons first rest =>
      have hshort : (rest.drop (decodeFirst first rest).2).length < (first :: rest).length := by
        rw [List.length_drop, List.length_cons]
        omega
      rw [decodeLossy.loop, decodeLossy.loop]
      show decodeLossy.loop (rest.drop (decodeFirst first rest).2) _ =
        front.reverse ++ decodeLossy.loop (rest.drop (decodeFirst first rest).2) _
      rw [ih _ hshort _ _ rfl, ih _ hshort _ [_] rfl]
      simp

theorem decodeLossy_cons (first : UInt8) (bytes : List UInt8) :
    decodeLossy (first :: bytes) =
      (decodeFirst first bytes).1 :: decodeLossy (bytes.drop (decodeFirst first bytes).2) := by
  rw [decodeLossy, decodeLossy.loop]
  exact decodeLossy_loop_eq _ _

theorem decodeLossy_eq_nil_iff {bytes : List UInt8} : decodeLossy bytes = [] ↔ bytes = [] := by
  cases bytes with
  | nil => simp [decodeLossy, decodeLossy.loop]
  | cons first bytes => simp [decodeLossy_cons]

/-- **A text starts with characters of ASCII exactly if its bytes do**, whatever the other bytes
    are. -/
theorem decodeLossy_eq_plain_append {front text : List Char} {bytes : List UInt8}
    (hfront : ∀ c ∈ front, c.toNat < 0x80) :
    decodeLossy bytes = front ++ text ↔
      ∃ rest, bytes = encode front ++ rest ∧ decodeLossy rest = text := by
  constructor
  · intro h
    induction front generalizing bytes with
    | nil => exact ⟨bytes, rfl, h⟩
    | cons c front ih =>
      rw [List.forall_mem_cons] at hfront
      cases bytes with
      | nil => simp [decodeLossy_eq_nil_iff.2] at h
      | cons first bytes =>
        rw [decodeLossy_cons, List.cons_append, List.cons.injEq] at h
        obtain ⟨hchar, htext⟩ := h
        obtain ⟨hbyte, htaken⟩ := decodeFirst_plain hfront.1 hchar
        rw [htaken, List.drop_zero] at htext
        obtain ⟨rest, rfl, hrest⟩ := ih hfront.2 htext
        have hencode : encode (c :: front) = first :: encode front := by
          rw [encode, List.flatMap_cons, hbyte]
          rfl
        exact ⟨rest, by rw [hencode, List.cons_append], hrest⟩
  · rintro ⟨rest, rfl, rfl⟩
    rw [decodeLossy, decodeLossy_loop_encode, decodeLossy_loop_eq, List.append_nil,
      List.reverse_reverse]

end MountControl.Text
