/-
  MountControl — the spellings of an identifier.

  A volume is looked up by what a worker or a client spells, and two of them
  mean the same volume only if they spell one number.

  * `InstanceId.Spelling` are the texts that may name a volume, and `canonical`
    is the form that all spellings of one identifier share;
  * `exists_parse?_iff`: just the spellings are read, and by
    `parse?_eq_some_iff` as the number that they spell;
  * `parse?_eq_read?`: reading checks the text first and converts it then, and
    the conversion never meets a number that is no word;
  * `display_of_parse?`: the canonical form is the one that is displayed;
  * `identifier_spellings` puts all this together.
-/
import MountControl.Proofs.Text.Hexadecimal
import MountControl.Proofs.Text.Words
import MountControl.Proofs.Volume.Spelling

namespace MountControl.Volume

open Text (encode)
open Text.Numeral

namespace InstanceId

/-- One to sixteen hexadecimal digits of either case. -/
structure Spelling (text : List Char) : Prop where
  nonempty : text ≠ []
  short : text.length ≤ 16
  digits : ∀ c ∈ text, c ∈ hexDigits

/-- The text in lower case, behind zeros that make it sixteen characters long. -/
def canonical (text : List Char) : List Char :=
  List.leftpad 16 '0' (text.map Char.toLower)

/-- Are these one to sixteen bytes, and each a hexadecimal digit? -/
def wellFormed (bytes : List UInt8) : Bool :=
  !bytes.isEmpty && bytes.length ≤ 16 && bytes.all isHexByte

/-- Reads an identifier in two steps.  The check of the bytes comes first, as the conversion into a
    word takes texts of any length, and a plus sign. -/
def read? (text : List Char) : Option InstanceId :=
  if wellFormed (encode text) then (word? 16 text).map InstanceId.mk else none

variable {text : List Char} {id : InstanceId} {n : Nat}

/-! ## What is read -/

theorem lt_size_of_spells (hshort : text.length ≤ 16) (h : Spells 16 text n) : n < UInt64.size :=
  calc n < 16 ^ text.length := h.lt
    _ ≤ 16 ^ 16 := Nat.pow_le_pow_right (by omega) hshort

/-- Identifiers of volumes have one to sixteen digits. -/
theorem parse?_eq_some_iff :
    parse? text = some id ↔ text.length ≤ 16 ∧ Spells 16 text id.value.toNat := by
  rw [parse?]
  split
  next hshort =>
    rw [Option.map_eq_some_iff, and_iff_right hshort]
    constructor
    · rintro ⟨n, hread, rfl⟩
      have hspells := value?_eq_some_iff.1 hread
      rwa [UInt64.toNat_ofNat_of_lt' (lt_size_of_spells hshort hspells)]
    · intro hspells
      exact ⟨_, value?_eq_some_iff.2 hspells, by rw [UInt64.ofNat_toNat]⟩
  next hlong => simp [hlong]

theorem spelling_iff : Spelling text ↔ text.length ≤ 16 ∧ ∃ n, Spells 16 text n := by
  rw [exists_spells_iff]
  constructor
  · intro h
    exact ⟨h.short, h.nonempty, fun c hc => mem_hexDigits_iff.1 (h.digits c hc)⟩
  · rintro ⟨hshort, hnonempty, hdigits⟩
    exact ⟨hnonempty, hshort, fun c hc => mem_hexDigits_iff.2 (hdigits c hc)⟩

/-- **Just the spellings are read.** -/
theorem exists_parse?_iff : (∃ id, parse? text = some id) ↔ Spelling text := by
  rw [spelling_iff]
  constructor
  · rintro ⟨id, h⟩
    obtain ⟨hshort, hspells⟩ := parse?_eq_some_iff.1 h
    exact ⟨hshort, _, hspells⟩
  · rintro ⟨hshort, n, hspells⟩
    refine ⟨⟨.ofNat n⟩, parse?_eq_some_iff.2 ⟨hshort, ?_⟩⟩
    rwa [UInt64.toNat_ofNat_of_lt' (lt_size_of_spells hshort hspells)]

/-! ## Check and conversion -/

/-- The check of the bytes finds just the spellings. -/
theorem wellFormed_iff : wellFormed (encode text) ↔ Spelling text := by
  have hformed : wellFormed (encode text) ↔ encode text ≠ [] ∧ (encode text).length ≤ 16 ∧
      ∀ c ∈ text, c ∈ hexDigits := by
    rw [← all_isHexByte_iff]
    simp [wellFormed, and_assoc]
  -- digits are single bytes, so there are as many of both
  have hlength (h : ∀ c ∈ text, c ∈ hexDigits) : (encode text).length = text.length := by
    rw [Text.encode_plain fun c hc => toNat_lt_of_mem_hexDigits (h c hc), List.length_map]
  rw [hformed, ← List.length_pos_iff]
  constructor
  · rintro ⟨hnonempty, hshort, hdigits⟩
    rw [hlength hdigits] at hnonempty hshort
    exact ⟨List.length_pos_iff.1 hnonempty, hshort, hdigits⟩
  · intro h
    rw [hlength h.digits]
    exact ⟨List.length_pos_iff.2 h.nonempty, h.short, h.digits⟩

instance (text : List Char) : Decidable (Spelling text) := decidable_of_iff _ wellFormed_iff

/-- **What is read is converted into a word.**  No spelling has a sign, and none spells a number
    too large. -/
theorem word?_of_parse? (h : parse? text = some id) : word? 16 text = some id.value :=
  word?_eq_some_iff.2 (.inl (parse?_eq_some_iff.1 h).2)

/-- **Reading is checking and converting.** -/
theorem parse?_eq_read? (text : List Char) : parse? text = read? text := by
  rw [read?]
  split
  next hformed =>
    obtain ⟨id, h⟩ := exists_parse?_iff.2 (wellFormed_iff.1 hformed)
    rw [h, word?_of_parse? h]
    rfl
  next hformed =>
    rw [Option.eq_none_iff_forall_ne_some]
    exact fun id h => hformed (wellFormed_iff.2 (exists_parse?_iff.1 ⟨id, h⟩))

/-! ## What is displayed -/

theorem toList_display (id : InstanceId) : id.display.toList = id.chars := String.toList_ofList

/-- **The digits of a text are displayed again**, in lower case and behind zeros. -/
theorem display_of_parse? (h : parse? text = some id) : id.display.toList = canonical text := by
  obtain ⟨hshort, hspells⟩ := parse?_eq_some_iff.1 h
  have hpadded := padded_of_spells hspells (16 - text.length)
  rw [Nat.sub_add_cancel hshort] at hpadded
  rw [toList_display, chars, hpadded, canonical, List.leftpad, List.length_map]

theorem chars_injective {id other : InstanceId} (h : id.chars = other.chars) : id = other := by
  have hread := id.parse?_chars
  rw [h, other.parse?_chars] at hread
  exact (Option.some.inj hread).symm

end InstanceId

open InstanceId in
/-- **Identifiers and their spellings.**  An identifier is displayed as sixteen digits in lower
    case, which are read back as the identifier.  Just one to sixteen digits of either case are
    read, by checking and converting them; the conversion is never asked for a number that is no
    word, and the identifier is displayed as the same digits in lower case, behind zeros.  So two
    texts name the same volume exactly if they agree in that form. -/
theorem identifier_spellings :
    (∀ value : UInt64, (InstanceId.mk value).display.length = 16 ∧
      (∀ c ∈ (InstanceId.mk value).display.toList, c ∈ lowerHexDigits) ∧
      parse? (InstanceId.mk value).display.toList = some ⟨value⟩) ∧
    (∀ text, parse? text = read? text) ∧
    (∀ text, (∃ id, parse? text = some id) ↔ Spelling text) ∧
    (∀ text, Spelling text → ∃ word, word? 16 text = some word ∧
      Spells 16 text word.toNat ∧ parse? text = some ⟨word⟩) ∧
    (∀ text id, parse? text = some id → id.display.toList = canonical text) ∧
    ∀ text other id id', parse? text = some id → parse? other = some id' →
      (id = id' ↔ canonical text = canonical other) := by
  refine ⟨fun value => ⟨?_, fun c hc => ?_, ?_⟩, parse?_eq_read?, fun text => exists_parse?_iff,
    fun text hspelling => ?_, fun text id h => display_of_parse? h,
    fun text other id id' h h' => ?_⟩
  · rw [display, String.length_ofList, chars, length_padded]
  · rw [toList_display] at hc
    exact mem_lowerHexDigits (isDigit_of_mem_padded (by omega) (by omega) 16 _ c hc)
  · rw [toList_display, parse?_chars]
  · obtain ⟨id, h⟩ := exists_parse?_iff.2 hspelling
    exact ⟨id.value, word?_of_parse? h, (parse?_eq_some_iff.1 h).2, h⟩
  · rw [← display_of_parse? h, ← display_of_parse? h', toList_display, toList_display]
    exact ⟨fun heq => heq ▸ rfl, chars_injective⟩

open InstanceId in
/-- The largest identifier has sixteen digits, and leading zeros name no other volume.  A sign and
    one digit more are refused before the conversion, which takes the one and has no word for the
    other. -/
theorem identifier_spellings_largest :
    let text := List.replicate 16 'F'
    let largest : InstanceId := ⟨0xFFFFFFFFFFFFFFFF⟩
    (Spelling text ∧ word? 16 text = some largest.value ∧ parse? text = some largest ∧
        largest.display.toList = List.replicate 16 'f') ∧
      (parse? ['0', '0', 'a', 'B'] = some ⟨0xAB⟩ ∧ parse? ['A', 'b'] = some ⟨0xAB⟩ ∧
        canonical ['0', '0', 'a', 'B'] = canonical ['A', 'b']) ∧
      (word? 16 ['+', '1'] = some 1 ∧ parse? ['+', '1'] = none) ∧
      word? 16 ('1' :: List.replicate 16 '0') = none ∧
        parse? ('1' :: List.replicate 16 '0') = none := by
  intro text largest
  obtain ⟨-, -, haccepted, hconverted, hdisplayed, hsame⟩ := identifier_spellings
  have hrefused (text : List Char) (h : ¬ Spelling text) : parse? text = none :=
    Option.eq_none_iff_forall_ne_some.2 fun id hid => h ((haccepted text).1 ⟨id, hid⟩)
  have hspelling : Spelling text := by decide
  have hlargest : parse? text = some largest := by decide
  have hzeros : parse? ['0', '0', 'a', 'B'] = some ⟨0xAB⟩ := by decide
  have hbare : parse? ['A', 'b'] = some ⟨0xAB⟩ := by decide
  refine ⟨⟨hspelling, ?_, hlargest, ?_⟩, ⟨hzeros, hbare, (hsame _ _ _ _ hzeros hbare).1 rfl⟩,
    ⟨by decide, ?_⟩, by decide, ?_⟩
  · obtain ⟨word, hword, -, hread⟩ := hconverted text hspelling
    exact hword.trans (congrArg (Option.map InstanceId.value) (hread.symm.trans hlargest))
  · exact hdisplayed text largest hlargest
  · exact hrefused _ (by decide)
  · exact hrefused _ (by decide)

end MountControl.Volume
