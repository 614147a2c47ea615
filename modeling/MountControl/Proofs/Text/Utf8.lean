/-
  MountControl — texts come back from their bytes.

  * `decodeFirst_encode`: the bytes of a character are read as that character,
    whatever follows them;
  * `decodeLossy_encode`: hence the bytes of a text are read as that text.
-/
import Mathlib.Data.List.TakeDrop
import MountControl.Text.Utf8

namespace MountControl.Text

/-! ## First bytes -/

/-- The range of the second byte of three, by the first; it excludes overlong forms and
    surrogates. -/
def secondOfThree (first : Nat) : UInt8 × UInt8 :=
  (if first = 0xE0 then 0xA0 else 0x80, if first = 0xED then 0x9F else 0xBF)

/-- The range of the second byte of four, by the first; it excludes overlong forms and all that is
    past the last code point. -/
def secondOfFour (first : Nat) : UInt8 × UInt8 :=
  (if first = 0xF0 then 0x90 else 0x80, if first = 0xF4 then 0x8F else 0xBF)

section
variable {first : UInt8}

theorem continuations_one (h : first.toNat < 0x80) : continuations first = some [] := by
  rw [continuations, if_pos (UInt8.lt_iff_toNat_lt.2 h)]

theorem continuations_two (hlow : 0xC2 ≤ first.toNat) (hhigh : first.toNat < 0xE0) :
    continuations first = some [(0x80, 0xBF)] := by
  simp only [continuations, UInt8.lt_iff_toNat_lt, UInt8.reduceToNat]
  rw [if_neg (by omega), if_neg (by omega), if_pos hhigh]

theorem continuations_three (hlow : 0xE0 ≤ first.toNat) (hhigh : first.toNat < 0xF0) :
    continuations first = some [secondOfThree first.toNat, (0x80, 0xBF)] := by
  simp only [continuations, secondOfThree, UInt8.lt_iff_toNat_lt, ← UInt8.toNat_inj,
    UInt8.reduceToNat]
  rw [if_neg (by omega), if_neg (by omega), if_neg (by omega)]
  split_ifs <;> first | rfl | omega

theorem continuations_four (hlow : 0xF0 ≤ first.toNat) (hhigh : first.toNat ≤ 0xF4) :
    continuations first = some [secondOfFour first.toNat, (0x80, 0xBF), (0x80, 0xBF)] := by
  simp only [continuations, secondOfFour, UInt8.lt_iff_toNat_lt, ← UInt8.toNat_inj,
    UInt8.reduceToNat]
  rw [if_neg (by omega), if_neg (by omega), if_neg (by omega)]
  split_ifs <;> first | rfl | omega

end

/-! ## Continuation bytes -/

theorem matchRanges_nil (bytes : List UInt8) : matchRanges [] bytes = [] := by
  cases bytes <;> rfl

theorem matchRanges_cons {range : UInt8 × UInt8} {b : UInt8} (hlow : range.1.toNat ≤ b.toNat)
    (hhigh : b.toNat ≤ range.2.toNat) (ranges : List (UInt8 × UInt8)) (bytes : List UInt8) :
    matchRanges (range :: ranges) (b :: bytes) = b :: matchRanges ranges bytes := by
  rw [matchRanges, if_pos ⟨UInt8.le_iff_toNat_le.2 hlow, UInt8.le_iff_toNat_le.2 hhigh⟩]

/-- Any six bits make a continuation byte. -/
theorem matchRanges_tail (v : Nat) (ranges : List (UInt8 × UInt8)) (bytes : List UInt8) :
    matchRanges ((0x80, 0xBF) :: ranges) (UInt8.ofNat (v % 64 + 128) :: bytes) =
      UInt8.ofNat (v % 64 + 128) :: matchRanges ranges bytes := by
  have hb := UInt8.toNat_ofNat_of_lt' (show v % 64 + 128 < 256 by omega)
  refine matchRanges_cons ?_ ?_ ranges bytes <;> rw [hb] <;> simp only [UInt8.reduceToNat] <;> omega

theorem decodeFirst_of_match {first : UInt8} {bytes matched : List UInt8}
    {ranges : List (UInt8 × UInt8)} (hc : continuations first = some ranges)
    (hm : matchRanges ranges bytes = matched) (hlen : matched.length = ranges.length) :
    decodeFirst first bytes = (assemble first matched, matched.length) := by
  simp only [decodeFirst, hc, hm, hlen, if_true]

/-! ## Characters -/

section
variable {v : Nat} (bytes : List UInt8)

theorem decodeFirst_one (h : v ≤ 0x7F) :
    decodeFirst (UInt8.ofNat v) bytes = (Char.ofNat v, 0) := by
  have hfirst := UInt8.toNat_ofNat_of_lt' (show v < 256 by omega)
  rw [decodeFirst_of_match (continuations_one (by omega)) (matchRanges_nil bytes) rfl]
  exact congrArg (fun n => (Char.ofNat n, 0)) hfirst

theorem decodeFirst_two (hlow : 0x7F < v) (hhigh : v ≤ 0x7FF) :
    decodeFirst (UInt8.ofNat (v / 64 % 32 + 192)) (UInt8.ofNat (v % 64 + 128) :: bytes) =
      (Char.ofNat v, 1) := by
  have hfirst := UInt8.toNat_ofNat_of_lt' (show v / 64 % 32 + 192 < 256 by omega)
  have hlast := UInt8.toNat_ofNat_of_lt' (show v % 64 + 128 < 256 by omega)
  have hmatch := matchRanges_tail v [] bytes
  rw [matchRanges_nil] at hmatch
  rw [decodeFirst_of_match (continuations_two (by omega) (by omega)) hmatch rfl]
  have hv : (v / 64 % 32 + 192) % 0x20 * 0x40 + (v % 64 + 128) % 0x40 = v := by omega
  simp only [assemble, List.length_cons, List.length_nil, List.foldl_cons, List.foldl_nil, hfirst,
    hlast, hv]

theorem decodeFirst_three (hlow : 0x7FF < v) (hhigh : v ≤ 0xFFFF)
    (hvalid : v < 0xD800 ∨ 0xDFFF < v) :
    decodeFirst (UInt8.ofNat (v / 4096 % 16 + 224))
      (UInt8.ofNat (v / 64 % 64 + 128) :: UInt8.ofNat (v % 64 + 128) :: bytes) =
        (Char.ofNat v, 2) := by
  have hfirst := UInt8.toNat_ofNat_of_lt' (show v / 4096 % 16 + 224 < 256 by omega)
  have hsecond := UInt8.toNat_ofNat_of_lt' (show v / 64 % 64 + 128 < 256 by omega)
  have hlast := UInt8.toNat_ofNat_of_lt' (show v % 64 + 128 < 256 by omega)
  have hranges := @continuations_three (UInt8.ofNat (v / 4096 % 16 + 224)) (by omega)
    (by omega)
  rw [hfirst] at hranges
  have hmatch : matchRanges [secondOfThree (v / 4096 % 16 + 224), (0x80, 0xBF)]
      (UInt8.ofNat (v / 64 % 64 + 128) :: UInt8.ofNat (v % 64 + 128) :: bytes) =
        [UInt8.ofNat (v / 64 % 64 + 128), UInt8.ofNat (v % 64 + 128)] := by
    rw [matchRanges_cons, matchRanges_tail, matchRanges_nil]
    -- no overlong form has three bytes, and no surrogate is a character
    all_goals
      rw [hsecond, secondOfThree]
      split_ifs <;> simp only [UInt8.reduceToNat] <;> omega
  rw [decodeFirst_of_match hranges hmatch rfl]
  have hv : ((v / 4096 % 16 + 224) % 0x10 * 0x40 + (v / 64 % 64 + 128) % 0x40) * 0x40 +
      (v % 64 + 128) % 0x40 = v := by omega
  simp only [assemble, List.length_cons, List.length_nil, List.foldl_cons, List.foldl_nil, hfirst,
    hsecond, hlast, hv]

theorem decodeFirst_four (hlow : 0xFFFF < v) (hhigh : v < 0x110000) :
    decodeFirst (UInt8.ofNat (v / 262144 % 8 + 240))
      (UInt8.ofNat (v / 4096 % 64 + 128) :: UInt8.ofNat (v / 64 % 64 + 128) ::
        UInt8.ofNat (v % 64 + 128) :: bytes) = (Char.ofNat v, 3) := by
  have hfirst := UInt8.toNat_ofNat_of_lt' (show v / 262144 % 8 + 240 < 256 by omega)
  have hsecond := UInt8.toNat_ofNat_of_lt' (show v / 4096 % 64 + 128 < 256 by omega)
  have hthird := UInt8.toNat_ofNat_of_lt' (show v / 64 % 64 + 128 < 256 by omega)
  have hlast := UInt8.toNat_ofNat_of_lt' (show v % 64 + 128 < 256 by omega)
  have hranges := @continuations_four (UInt8.ofNat (v / 262144 % 8 + 240)) (by omega)
    (by omega)
  rw [hfirst] at hranges
  have hmatch : matchRanges [secondOfFour (v / 262144 % 8 + 240), (0x80, 0xBF), (0x80, 0xBF)]
      (UInt8.ofNat (v / 4096 % 64 + 128) :: UInt8.ofNat (v / 64 % 64 + 128) ::
        UInt8.ofNat (v % 64 + 128) :: bytes) =
          [UInt8.ofNat (v / 4096 % 64 + 128), UInt8.ofNat (v / 64 % 64 + 128),
            UInt8.ofNat (v % 64 + 128)] := by
    rw [matchRanges_cons, matchRanges_tail, matchRanges_tail, matchRanges_nil]
    -- no overlong form has four bytes, and no character is past the last code point
    all_goals
      rw [hsecond, secondOfFour]
      split_ifs <;> simp only [UInt8.reduceToNat] <;> omega
  rw [decodeFirst_of_match hranges hmatch rfl]
  have hv : (((v / 262144 % 8 + 240) % 0x08 * 0x40 + (v / 4096 % 64 + 128) % 0x40) * 0x40 +
      (v / 64 % 64 + 128) % 0x40) * 0x40 + (v % 64 + 128) % 0x40 = v := by omega
  simp only [assemble, List.length_cons, List.length_nil, List.foldl_cons, List.foldl_nil, hfirst,
    hsecond, hthird, hlast, hv]

end

/-- **The bytes of a character are read as that character.** -/
theorem decodeFirst_encode (c : Char) (bytes : List UInt8) :
    ∃ first rest, String.utf8EncodeChar c = first :: rest ∧
      decodeFirst first (rest ++ bytes) = (c, rest.length) := by
  have hc : Char.ofNat c.val.toNat = c := Char.ofNat_toNat c
  have hvalid : c.val.toNat < 0xD800 ∨ 0xDFFF < c.val.toNat ∧ c.val.toNat < 0x110000 := c.valid
  rw [String.utf8EncodeChar]
  generalize c.val.toNat = v at hc hvalid
  subst hc
  split_ifs with hone htwo hthree
  · exact ⟨_, _, rfl, decodeFirst_one bytes hone⟩
  · exact ⟨_, _, rfl, decodeFirst_two bytes (by omega) htwo⟩
  · exact ⟨_, _, rfl, decodeFirst_three bytes (by omega) hthree (by omega)⟩
  · exact ⟨_, _, rfl, decodeFirst_four bytes (by omega) (by omega)⟩

/-! ## Texts -/

theorem decodeLossy_loop_encode (text : List Char) (bytes : List UInt8) (front : List Char) :
    decodeLossy.loop (encode text ++ bytes) front =
      decodeLossy.loop bytes (text.reverse ++ front) := by
  induction text generalizing front with
  | nil => rfl
  | cons c text ih =>
    obtain ⟨first, rest, hchar, hfirst⟩ := decodeFirst_encode c (encode text ++ bytes)
    have hencode : encode (c :: text) ++ bytes = first :: (rest ++ (encode text ++ bytes)) := by
      rw [encode, List.flatMap_cons, hchar, List.append_assoc]
      rfl
    rw [hencode, decodeLossy.loop, hfirst]
    show decodeLossy.loop (List.drop rest.length _) _ = _
    rw [List.drop_left, ih, List.reverse_cons, List.append_assoc]
    rfl

/-- **The bytes of a text are read as that text.** -/
theorem decodeLossy_encode (text : List Char) : decodeLossy (encode text) = text := by
  have h := decodeLossy_loop_encode text [] []
  rw [List.append_nil, List.append_nil] at h
  rw [decodeLossy, h, decodeLossy.loop, List.reverse_reverse]

end MountControl.Text
