/-
  MountControl — pieces of a text by offsets that are machine words.

  Offsets count bytes.  `past?` and `slice?` have no result where an offset
  is outside of the text or inside a character, and `checkedSum?` has none
  where a sum is too large for a word.

  * `past?_append` and `slice?_append`: at the boundary of a front part there
    is a cut, and it gives the parts back;
  * `slice?_checkedSum?`: a piece of any length, up to the largest word, is
    there exactly if a cut of so many bytes is.
-/
import MountControl.Proofs.Text.Length

namespace MountControl.Text

/-- The number of bytes of a text as a word. -/
def size (text : List Char) : UInt64 := .ofNat (byteLength text)

/-- The sum of two words, if it is a word. -/
def checkedSum? (a b : UInt64) : Option UInt64 :=
  if a.toNat + b.toNat < UInt64.size then some (a + b) else none

/-- The text from an offset on. -/
def past? (text : List Char) (start : UInt64) : Option (List Char) :=
  (splitBytes start.toNat text).map (·.2)

/-- The text between two offsets. -/
def slice? (text : List Char) (start stop : UInt64) : Option (List Char) :=
  if start ≤ stop then
    (past? text start).bind fun rest => (splitBytes (stop.toNat - start.toNat) rest).map (·.1)
  else none

/-! ## Sums -/

variable {text front piece rest : List Char} {a b c : UInt64}

theorem toNat_size (h : byteLength text < UInt64.size) : (size text).toNat = byteLength text :=
  UInt64.toNat_ofNat_of_lt' h

theorem toNat_add (h : a.toNat + b.toNat < UInt64.size) : (a + b).toNat = a.toNat + b.toNat := by
  rw [UInt64.toNat_add, Nat.mod_eq_of_lt h]

theorem checkedSum?_eq_some (h : a.toNat + b.toNat = c.toNat) : checkedSum? a b = some c := by
  have hlt : a.toNat + b.toNat < UInt64.size := h ▸ c.toNat_lt
  rw [checkedSum?, if_pos hlt, ← UInt64.toNat_inj.1 ((toNat_add hlt).trans h)]

theorem checkedSum?_size (front piece : List Char)
    (h : byteLength (front ++ piece) < UInt64.size) :
    checkedSum? (size front) (size piece) = some (size (front ++ piece)) := by
  have hsum := byteLength_append front piece
  apply checkedSum?_eq_some
  rw [toNat_size (by omega), toNat_size (by omega), toNat_size h, hsum]

theorem checkedSum?_one (text : List Char) (h : byteLength text + 1 < UInt64.size) :
    ∃ next, checkedSum? (size text) 1 = some next ∧ next.toNat = byteLength text + 1 := by
  have hone : (1 : UInt64).toNat = 1 := rfl
  have hsize := toNat_size (Nat.lt_of_succ_lt h)
  have hsum : (size text + 1).toNat = byteLength text + 1 := by
    rw [toNat_add (by rw [hsize, hone]; exact h), hsize, hone]
  exact ⟨_, checkedSum?_eq_some (by rw [hsum, hsize, hone]), hsum⟩

theorem checkedSum?_bar (text : List Char) (h : byteLength text + 1 < UInt64.size) :
    checkedSum? (size text) 1 = some (size (text ++ ['|'])) :=
  checkedSum?_size text ['|'] (by simpa using h)

/-! ## Cuts -/

theorem past?_append (h : byteLength front < UInt64.size) :
    past? (front ++ rest) (size front) = some rest := by
  rw [past?, toNat_size h, splitBytes_append]
  rfl

theorem slice?_append (h : byteLength (front ++ piece) < UInt64.size) :
    slice? (front ++ (piece ++ rest)) (size front) (size (front ++ piece)) = some piece := by
  have hsum := byteLength_append front piece
  have hfront : byteLength front < UInt64.size := by omega
  have hle : size front ≤ size (front ++ piece) := by
    rw [UInt64.le_iff_toNat_le, toNat_size hfront, toNat_size h, hsum]
    exact Nat.le_add_right _ _
  rw [slice?, if_pos hle, past?_append hfront, toNat_size hfront, toNat_size h, hsum,
    Nat.add_sub_cancel_left, Option.bind_some, splitBytes_append]
  rfl

/-- **No length is too large for a slice to be asked for.**  Where the end of the piece is no word,
    the text is too short as well. -/
theorem slice?_checkedSum? (h : byteLength (front ++ rest) < UInt64.size) (length : UInt64) :
    (checkedSum? (size front) length).bind (slice? (front ++ rest) (size front)) =
      (splitBytes length.toNat rest).map (·.1) := by
  have hsum := byteLength_append front rest
  have hfront : (size front).toNat = byteLength front := toNat_size (by omega)
  by_cases hlt : (size front).toNat + length.toNat < UInt64.size
  · have hstop := toNat_add hlt
    have hle : size front ≤ size front + length := by
      rw [UInt64.le_iff_toNat_le, hstop]
      exact Nat.le_add_right _ _
    rw [checkedSum?, if_pos hlt, Option.bind_some, slice?, if_pos hle, past?_append (by omega),
      Option.bind_some, hstop, Nat.add_sub_cancel_left]
  · rw [checkedSum?, if_neg hlt, Option.bind_none]
    cases hsplit : splitBytes length.toNat rest with
    | none => rfl
    | some parts =>
      -- so many bytes do not fit behind the front part
      have hlength := byteLength_of_splitBytes hsplit
      have hparts := congrArg byteLength (splitBytes_eq hsplit)
      rw [byteLength_append] at hparts
      omega

end MountControl.Text
