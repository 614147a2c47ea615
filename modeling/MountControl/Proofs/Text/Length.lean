/-
  MountControl — how long texts are.

  * `linesLength` counts the bytes of lines, of which the last one may lack
    its line feed; `linesLength_afterLine` says what one line takes away;
  * `length_decimal_le`: no spelling of a number is shorter than the decimal
    one;
  * `byteLength_decodeLossy`: a text is at most three times as long as the
    bytes that it is read from.
-/
import MountControl.Proofs.Text.Cutting
import MountControl.Proofs.Text.Numeral

namespace MountControl.Text

/-! ## Bytes and characters -/

@[simp] theorem byteLength_nil : byteLength [] = 0 := rfl

@[simp] theorem byteLength_append (front rest : List Char) :
    byteLength (front ++ rest) = byteLength front + byteLength rest := by
  simp [byteLength_eq_sum]

@[simp] theorem byteLength_bar (rest : List Char) :
    byteLength ('|' :: rest) = byteLength rest + 1 := by
  have hbar : '|'.utf8Size = 1 := by decide
  rw [byteLength_cons, hbar, Nat.add_comm]

@[simp] theorem byteLength_lineFeed (rest : List Char) :
    byteLength ('\n' :: rest) = byteLength rest + 1 := by
  have hlineFeed : '\n'.utf8Size = 1 := by decide
  rw [byteLength_cons, hlineFeed, Nat.add_comm]

theorem length_le_byteLength (text : List Char) : text.length ≤ byteLength text := by
  induction text with
  | nil => exact Nat.le_refl _
  | cons c text ih =>
    have hpos := c.utf8Size_pos
    rw [List.length_cons, byteLength_cons]
    omega

/-- Where every character is a byte, there are as many of both. -/
theorem byteLength_eq_length {text : List Char} (h : ∀ c ∈ text, c.utf8Size = 1) :
    byteLength text = text.length := by
  rw [byteLength_eq_sum, List.map_congr_left h, List.map_const', List.sum_replicate_nat,
    Nat.mul_one]

/-- As many bytes are sent as are counted. -/
theorem length_encode (text : List Char) : (encode text).length = byteLength text := by
  rw [encode, List.length_flatMap, byteLength_eq_sum]
  simp only [String.length_utf8EncodeChar]

/-! ## Lines -/

/-- The number of bytes of lines, of which the last one may lack its line feed. -/
def linesLength (text : List Char) : Nat :=
  if text = [] then 0 else byteLength text + 1

theorem linesLength_le (text : List Char) : linesLength text ≤ byteLength text + 1 := by
  rw [linesLength]
  split <;> omega

/-- **A line and the lines after it** are no longer than all of them. -/
theorem linesLength_afterLine (text : List Char) :
    byteLength (line text) + linesLength (afterLine text) ≤ byteLength text := by
  have htext : byteLength text =
      byteLength (line text) + byteLength (text.dropWhile (· != '\n')) := by
    rw [← byteLength_append, line, List.takeWhile_append_dropWhile]
  rw [htext, afterLine]
  cases text.dropWhile (· != '\n') with
  | nil => simp [linesLength]
  | cons c rest =>
    have hpos := c.utf8Size_pos
    have hle := linesLength_le rest
    rw [List.drop_succ_cons, List.drop_zero, byteLength_cons]
    omega

/-! ## Cuts -/

/-- A cut takes a character out. -/
theorem byteLength_of_cutLast {sep : Char} {text front rest : List Char}
    (h : cutLast sep text = some (front, rest)) :
    byteLength front + byteLength rest + 1 ≤ byteLength text := by
  have hpos := sep.utf8Size_pos
  rw [(of_cutLast_eq_some h).1, byteLength_append, byteLength_cons]
  omega

/-! ## Any bytes -/

theorem length_matchRanges_le (ranges : List (UInt8 × UInt8)) (bytes : List UInt8) :
    (matchRanges ranges bytes).length ≤ bytes.length := by
  fun_induction matchRanges ranges bytes with
  | case1 low high ranges b bytes h ih => simpa using ih
  | case2 => exact Nat.zero_le _
  | case3 => exact Nat.zero_le _

/-- Only a byte below `0x80` is a character by itself. -/
theorem lt_of_continuations_nil {first : UInt8} (h : continuations first = some []) :
    first < 0x80 := by
  rw [continuations] at h
  split at h
  next hlt => exact hlt
  next =>
    repeat' split at h
    all_goals cases h

theorem decodeFirst_le (first : UInt8) (bytes : List UInt8) :
    (decodeFirst first bytes).2 ≤ bytes.length ∧
      (decodeFirst first bytes).1.utf8Size ≤ 3 * ((decodeFirst first bytes).2 + 1) := by
  have hreplacement : replacement.utf8Size = 3 := by decide
  rw [decodeFirst]
  split
  next => exact ⟨Nat.zero_le _, hreplacement.le⟩
  next ranges hranges =>
    have hlength := length_matchRanges_le ranges bytes
    simp only
    split
    next hall =>
      refine ⟨hlength, ?_⟩
      simp only
      cases ranges with
      | nil =>
        have hone : ∀ n < 0x80, (Char.ofNat n).utf8Size = 1 := by decide
        have hlt := UInt8.lt_iff_toNat_lt.1 (lt_of_continuations_nil hranges)
        have hchar : (assemble first (matchRanges [] bytes)).utf8Size = 1 := by
          rw [List.eq_nil_of_length_eq_zero hall]
          exact hone _ hlt
        omega
      | cons range ranges =>
        have hfour := (assemble first (matchRanges (range :: ranges) bytes)).utf8Size_le_four
        rw [List.length_cons] at hall
        omega
    next =>
      refine ⟨hlength, ?_⟩
      simp only [hreplacement]
      omega

theorem byteLength_decodeLossy_loop (bytes : List UInt8) (front : List Char) :
    byteLength (decodeLossy.loop bytes front) ≤ byteLength front + 3 * bytes.length := by
  fun_induction decodeLossy.loop bytes front with
  | case1 front => simp [byteLength_eq_sum]
  | case2 front first rest c taken hfirst ih =>
    obtain ⟨htaken, hsize⟩ := decodeFirst_le first rest
    rw [hfirst] at htaken hsize
    rw [byteLength_cons, List.length_drop] at ih
    rw [List.length_cons]
    simp only at htaken hsize
    omega

/-- **A text is at most three times as long as the bytes that it is read from.** -/
theorem byteLength_decodeLossy (bytes : List UInt8) :
    byteLength (decodeLossy bytes) ≤ 3 * bytes.length := by
  have h := byteLength_decodeLossy_loop bytes []
  rwa [byteLength_nil, Nat.zero_add] at h

/-! ## Numbers -/

namespace Numeral

theorem utf8Size_of_isDigit {c : Char} (h : IsDigit c) : c.utf8Size = 1 := by
  obtain ⟨d, hd, rfl⟩ := h
  have hsize : ∀ d < 16, (Nat.digitChar d).utf8Size = 1 := by decide
  exact hsize d hd

theorem byteLength_decimal (n : Nat) : byteLength (decimal n) = (decimal n).length :=
  byteLength_eq_length fun c hc =>
    utf8Size_of_isDigit (isDigit_of_mem_digits (by omega) (by omega) c hc)

/-- Digits that follow a value make a number of so many digits more. -/
theorem continue?_lt {base value n : Nat} {text : List Char}
    (h : continue? base value text = some n) : n < (value + 1) * base ^ text.length := by
  induction text generalizing value with
  | nil =>
    cases h
    simp
  | cons c text ih =>
    rw [continue?] at h
    split at h
    next d hd =>
      have hlt := lt_of_digitIn? hd
      calc n < (value * base + d + 1) * base ^ text.length := ih h
        _ ≤ (value + 1) * base * base ^ text.length :=
          Nat.mul_le_mul_right _ (by rw [Nat.add_mul]; omega)
        _ = (value + 1) * base ^ (c :: text).length := by
          rw [List.length_cons, Nat.pow_succ, Nat.mul_assoc, Nat.mul_comm base]
    next => cases h

theorem length_digits_le {base n width : Nat} (h2 : 2 ≤ base) (hpos : 0 < width)
    (h : n < base ^ width) : (digits base n).length ≤ width := by
  induction width generalizing n with
  | zero => cases hpos
  | succ width ih =>
    rw [digits]
    split
    next hmany =>
      have hdiv : n / base < base ^ width := by
        rw [Nat.div_lt_iff_lt_mul (by omega), ← Nat.pow_succ]
        exact h
      have hwidth : 0 < width := by
        rcases Nat.eq_zero_or_pos width with rfl | hwidth
        · have := Nat.div_pos hmany.2 (by omega)
          rw [Nat.pow_zero] at hdiv
          omega
        · exact hwidth
      have hle := ih hwidth hdiv
      rw [List.length_append, List.length_singleton]
      omega
    next => simp

theorem length_decimal_le_of_lt {n width : Nat} (hpos : 0 < width) (h : n < 10 ^ width) :
    (decimal n).length ≤ width :=
  length_digits_le (by omega) hpos h

/-- **No spelling of a number is shorter than the decimal one.** -/
theorem length_decimal_le {bound n : Nat} {text : List Char}
    (h : unsigned? bound text = some n) : (decimal n).length ≤ text.length := by
  have hvalue : ∀ {digits : List Char}, value? 10 digits = some n →
      (decimal n).length ≤ digits.length := by
    intro digits hdigits
    rw [value?] at hdigits
    split at hdigits
    next => cases hdigits
    next hne =>
      have hlt := continue?_lt hdigits
      rw [Nat.zero_add, Nat.one_mul] at hlt
      refine length_decimal_le_of_lt (List.length_pos_iff.2 ?_) hlt
      simpa using hne
  obtain ⟨hread, -⟩ := Option.filter_eq_some_iff.1 h
  split at hread
  next rest => exact (hvalue hread).trans (Nat.le_succ _)
  next => exact hvalue hread

end Numeral

end MountControl.Text
