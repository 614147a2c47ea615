/-
  MountControl — texts whose bytes are cut off.

  A cut falls between two characters, or inside of one (`CutChar`).
  `decodeLossy_cut` says what is read then: the text before the cut, and one
  replacement character for a character that is cut.
-/
import MountControl.Proofs.Text.Length
import MountControl.Proofs.Text.Utf8

namespace MountControl.Text

/-! ## Cuts -/

/-- **A cut falls inside of one part**, or right in front of it. -/
theorem cut_flatMap {α β : Type} {write : α → List β} {parts : List α} {front : List β}
    (h : front <+: parts.flatMap write) (hproper : front ≠ parts.flatMap write) :
    ∃ before part after piece, parts = before ++ part :: after ∧
      front = before.flatMap write ++ piece ∧ piece <+: write part ∧ piece ≠ write part := by
  induction parts generalizing front with
  | nil => exact absurd (List.prefix_nil.1 h) hproper
  | cons part parts ih =>
    rw [List.flatMap_cons] at h hproper
    by_cases hwhole : write part <+: front
    · obtain ⟨later, rfl⟩ := hwhole
      have hlater : later <+: parts.flatMap write := (List.prefix_append_right_inj _).1 h
      obtain ⟨before, other, after, piece, rfl, rfl, hpiece⟩ :=
        ih hlater fun heq => hproper (congrArg _ heq)
      exact ⟨part :: before, other, after, piece, rfl, by simp, hpiece⟩
    · have hpiece : front <+: write part :=
        (List.prefix_or_prefix_of_prefix h (List.prefix_append _ _)).resolve_right hwhole
      exact ⟨[], part, parts, front, rfl, rfl, hpiece,
        fun heq => hwhole (heq ▸ List.prefix_refl _)⟩

/-- A cut falls in front of a separator, or behind it. -/
theorem cut_separated {first second front : List Char} {sep : Char}
    (h : front <+: first ++ sep :: second) :
    front <+: first ∨ ∃ later, front = first ++ sep :: later ∧ later <+: second := by
  have htext : first ++ sep :: second = first ++ [sep] ++ second := by simp
  rw [htext] at h
  by_cases hwhole : first ++ [sep] <+: front
  · obtain ⟨later, rfl⟩ := hwhole
    exact .inr ⟨later, by simp, (List.prefix_append_right_inj _).1 h⟩
  · have hfront := (List.prefix_or_prefix_of_prefix h (List.prefix_append _ _)).resolve_right hwhole
    refine .inl ((List.prefix_concat_iff.1 hfront).resolve_left ?_)
    rintro rfl
    exact hwhole (List.prefix_refl _)

/-- A value that is cut is not cut off by its length, unless all of it is there or what follows
    makes up for what is missing. -/
theorem splitBytes_cut {value front tail read rest : List Char} (hfront : front <+: value)
    (h : splitBytes (byteLength value) (front ++ tail) = some (read, rest)) :
    rest <:+ tail ∧ (tail = [] → read = value) := by
  have hlength := byteLength_of_splitBytes h
  have htext := splitBytes_eq h
  obtain ⟨missing, rfl⟩ := hfront
  rw [byteLength_append] at hlength
  have hsuffix : rest <:+ tail := by
    rcases List.append_eq_append_iff.1 htext with ⟨more, -, hrest⟩ | ⟨more, hvalue, hrest⟩
    · exact ⟨more, hrest.symm⟩
    · rw [hvalue, byteLength_append] at hlength
      have hmore : more = [] := by
        have hle := length_le_byteLength more
        exact List.eq_nil_of_length_eq_zero (by omega)
      rw [hmore] at hrest
      exact ⟨[], hrest⟩
  refine ⟨hsuffix, ?_⟩
  rintro rfl
  obtain rfl := List.suffix_nil.1 hsuffix
  rw [List.append_nil, List.append_nil] at htext
  subst htext
  have hle := length_le_byteLength missing
  rw [List.eq_nil_of_length_eq_zero (l := missing) (by omega), List.append_nil]

/-- Some of the bytes of a character, and not all of them. -/
structure CutChar (c : Char) (bytes : List UInt8) : Prop where
  front : bytes <+: String.utf8EncodeChar c
  notEmpty : bytes ≠ []
  proper : bytes ≠ String.utf8EncodeChar c

/-! ## Characters -/

theorem prefix_of_matchRanges (ranges : List (UInt8 × UInt8)) (bytes : List UInt8) :
    matchRanges ranges bytes <+: bytes := by
  fun_induction matchRanges ranges bytes with
  | case1 low high ranges b bytes h ih => exact (List.prefix_cons_inj b).2 ih
  | case2 => exact List.nil_prefix
  | case3 => exact List.nil_prefix

/-- Ranges that match some bytes match the first of them. -/
theorem matchRanges_front {ranges : List (UInt8 × UInt8)} {bytes front : List UInt8}
    (h : matchRanges ranges bytes = bytes) (hfront : front <+: bytes) :
    matchRanges ranges front = front := by
  fun_induction matchRanges ranges bytes generalizing front with
  | case1 low high ranges b bytes hb ih =>
    cases front with
    | nil => cases ranges <;> rfl
    | cons a front =>
      obtain ⟨rfl, hrest⟩ := List.cons_prefix_cons.1 hfront
      rw [matchRanges, if_pos hb, ih (List.cons.inj h).2 hrest]
  | case2 => cases h
  | case3 ranges bytes _ =>
    rw [← h] at hfront
    rw [List.prefix_nil.1 hfront]
    cases ranges <;> rfl

/-- The ranges that follow the first byte of a character match the others. -/
theorem continuations_encode (c : Char) :
    ∃ first rest ranges, String.utf8EncodeChar c = first :: rest ∧
      continuations first = some ranges ∧ ranges.length = rest.length ∧
        matchRanges ranges rest = rest := by
  by_cases hc : c = replacement
  · subst hc
    exact ⟨0xEF, [0xBF, 0xBD], [(0x80, 0xBF), (0x80, 0xBF)], by decide, by decide, rfl, by decide⟩
  · obtain ⟨first, rest, hchar, hfirst⟩ := decodeFirst_encode c []
    rw [List.append_nil, decodeFirst] at hfirst
    -- another character than the replacement is read only where all ranges match
    split at hfirst
    · exact absurd (congrArg Prod.fst hfirst).symm hc
    next ranges hranges =>
      dsimp only at hfirst
      split at hfirst
      next hlength =>
        have htaken : (matchRanges ranges rest).length = rest.length := congrArg Prod.snd hfirst
        have hall := (prefix_of_matchRanges ranges rest).eq_of_length htaken
        exact ⟨first, rest, ranges, hchar, hranges, by rw [← hlength, htaken], hall⟩
      next => exact absurd (congrArg Prod.fst hfirst).symm hc

theorem CutChar.exists_cons {c : Char} {bytes : List UInt8} (h : CutChar c bytes) :
    ∃ first rest ranges, bytes = first :: rest ∧ continuations first = some ranges ∧
      matchRanges ranges rest = rest ∧ rest.length < ranges.length := by
  obtain ⟨first, all, ranges, hchar, hranges, hlength, hmatch⟩ := continuations_encode c
  obtain ⟨b, rest, rfl⟩ := List.exists_cons_of_ne_nil h.notEmpty
  have hfront := h.front
  rw [hchar, List.cons_prefix_cons] at hfront
  obtain ⟨rfl, hrest⟩ := hfront
  refine ⟨b, rest, ranges, rfl, hranges, matchRanges_front hmatch hrest, ?_⟩
  rw [hlength]
  refine Nat.lt_of_le_of_ne hrest.length_le fun heq => h.proper ?_
  rw [hchar, hrest.eq_of_length heq]

/-- **A character that is cut is read as one replacement character.** -/
theorem CutChar.decodeLossy_append {c : Char} {bytes : List UInt8} (h : CutChar c bytes)
    (front : List Char) : decodeLossy (encode front ++ bytes) = front ++ [replacement] := by
  obtain ⟨first, rest, ranges, rfl, hranges, hmatch, hshort⟩ := h.exists_cons
  have hfirst : decodeFirst first rest = (replacement, rest.length) := by
    simp only [decodeFirst, hranges, hmatch]
    rw [if_neg (by omega)]
  rw [decodeLossy, decodeLossy_loop_encode, decodeLossy.loop, hfirst]
  simp [decodeLossy.loop]

/-- What is left of a character does not end a text. -/
theorem CutChar.append_ne_encode {c : Char} {bytes : List UInt8} (h : CutChar c bytes)
    (front text : List Char) : encode front ++ bytes ≠ encode text := by
  intro heq
  have htext : text = front ++ [replacement] := by
    rw [← decodeLossy_encode text, ← heq, h.decodeLossy_append]
  -- so that the bytes would be those of the replacement, which are a whole character
  rw [htext, encode, encode, List.flatMap_append, List.append_cancel_left_eq] at heq
  obtain ⟨first, rest, ranges, rfl, hranges, -, hshort⟩ := h.exists_cons
  obtain ⟨rfl, rfl⟩ : first = 0xEF ∧ rest = [0xBF, 0xBD] := List.cons.inj heq
  cases hranges
  exact absurd hshort (by decide)

/-! ## Texts -/

/-- **Bytes that are cut off are read as what was written before the cut**, with a replacement
    character at the end where the cut falls inside a character. -/
theorem decodeLossy_cut {text : List Char} {bytes : List UInt8} (h : bytes <+: encode text)
    (hproper : bytes ≠ encode text) :
    ∃ front tail, front <+: text ∧ front ≠ text ∧ decodeLossy bytes = front ++ tail ∧
      (tail = [] ∧ bytes = encode front ∨
        tail = [replacement] ∧ ∀ other, bytes ≠ encode other) := by
  obtain ⟨front, c, rest, piece, rfl, rfl, hpiece, hcut⟩ := cut_flatMap h hproper
  by_cases hnone : piece = []
  · subst hnone
    refine ⟨front, [], List.prefix_append _ _, by simp, ?_, .inl ⟨rfl, List.append_nil _⟩⟩
    rw [List.append_nil, List.append_nil]
    exact decodeLossy_encode front
  · have hchar : CutChar c piece := ⟨hpiece, hnone, hcut⟩
    exact ⟨front, [replacement], List.prefix_append _ _, by simp, hchar.decodeLossy_append front,
      .inr ⟨rfl, hchar.append_ne_encode front⟩⟩

end MountControl.Text
