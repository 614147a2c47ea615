/-
  MountControl — cutting what was put together.

  Lines, the parts around a last separator, and cuts after a number of bytes
  give back the parts that a text was made of.
-/
import Mathlib.Algebra.Ring.Nat
import Mathlib.Data.List.TakeDrop
import Mathlib.Data.List.TakeWhile
import MountControl.Text.Split
import MountControl.Text.Utf8

namespace MountControl.Text

/-! ## Lines -/

theorem takeWhile_append {p : Char → Bool} {front : List Char} {c : Char} (rest : List Char)
    (hfront : ∀ a ∈ front, p a) (hc : p c = false) :
    (front ++ c :: rest).takeWhile p = front := by
  rw [List.takeWhile_append_of_pos hfront, List.takeWhile_cons_of_neg (by simp [hc]),
    List.append_nil]

theorem dropWhile_append {p : Char → Bool} {front : List Char} {c : Char} (rest : List Char)
    (hfront : ∀ a ∈ front, p a) (hc : p c = false) :
    (front ++ c :: rest).dropWhile p = c :: rest := by
  rw [List.dropWhile_append_of_pos hfront, List.dropWhile_cons_of_neg (by simp [hc])]

theorem ne_of_not_mem {sep : Char} {text : List Char} (h : sep ∉ text) : ∀ a ∈ text, a != sep := by
  intro a ha
  simp only [bne_iff_ne, ne_eq]
  rintro rfl
  exact h ha

theorem line_append {text : List Char} (h : '\n' ∉ text) (rest : List Char) :
    line (text ++ '\n' :: rest) = text :=
  takeWhile_append rest (ne_of_not_mem h) (by simp)

theorem afterLine_append {text : List Char} (h : '\n' ∉ text) (rest : List Char) :
    afterLine (text ++ '\n' :: rest) = rest := by
  rw [afterLine, dropWhile_append rest (ne_of_not_mem h) (by simp)]
  rfl

theorem line_of_not_mem {text : List Char} (h : '\n' ∉ text) : line text = text :=
  List.takeWhile_eq_self_iff.2 (ne_of_not_mem h)

theorem afterLine_of_not_mem {text : List Char} (h : '\n' ∉ text) : afterLine text = [] := by
  rw [afterLine, List.dropWhile_eq_nil_iff.2 (ne_of_not_mem h)]
  rfl

theorem not_mem_line (text : List Char) : '\n' ∉ line text := by
  intro h
  simpa using List.mem_takeWhile_imp h

/-- What has no line feed in it stands at the front of the text if it stands at the front of the
    first line. -/
theorem prefix_line_iff {front text : List Char} (h : '\n' ∉ front) :
    front <+: line text ↔ front <+: text := by
  constructor
  · exact fun hline => hline.trans (List.takeWhile_prefix _)
  · rintro ⟨rest, rfl⟩
    rw [line, List.takeWhile_append_of_pos (ne_of_not_mem h)]
    exact List.prefix_append _ _

/-! ## Separators -/

theorem cut_append {sep : Char} {front : List Char} (h : sep ∉ front) (rest : List Char) :
    cut sep (front ++ sep :: rest) = some (front, rest) := by
  rw [cut, List.span_eq_takeWhile_dropWhile, takeWhile_append rest (ne_of_not_mem h) (by simp),
    dropWhile_append rest (ne_of_not_mem h) (by simp)]

theorem cut_eq_none {sep : Char} {text : List Char} (h : sep ∉ text) : cut sep text = none := by
  rw [cut, List.span_eq_takeWhile_dropWhile, List.dropWhile_eq_nil_iff.2 (ne_of_not_mem h)]

theorem cutLast_append {sep : Char} {rest : List Char} (h : sep ∉ rest) (front : List Char) :
    cutLast sep (front ++ sep :: rest) = some (front, rest) := by
  have hrev : (front ++ sep :: rest).reverse = rest.reverse ++ sep :: front.reverse := by simp
  rw [cutLast, hrev, cut_append (by simpa using h)]
  simp

theorem of_cut_eq_some {sep : Char} {text front rest : List Char}
    (h : cut sep text = some (front, rest)) : text = front ++ sep :: rest ∧ sep ∉ front := by
  simp only [cut, List.span_eq_takeWhile_dropWhile] at h
  have hsplit : text.takeWhile (· != sep) ++ text.dropWhile (· != sep) = text :=
    List.takeWhile_append_dropWhile
  split at h
  next c after heq =>
    cases h
    have hstop := List.head_dropWhile_not (· != sep) (l := text) (by rw [heq]; simp)
    simp only [heq, List.head_cons, bne_eq_false_iff_eq] at hstop
    rw [heq, hstop] at hsplit
    exact ⟨hsplit.symm, fun hmem => by simpa using List.mem_takeWhile_imp hmem⟩
  next => cases h

/-- The last separator has none behind it. -/
theorem of_cutLast_eq_some {sep : Char} {text front rest : List Char}
    (h : cutLast sep text = some (front, rest)) : text = front ++ sep :: rest ∧ sep ∉ rest := by
  obtain ⟨⟨suffix, before⟩, hcut, heq⟩ := Option.map_eq_some_iff.1 h
  cases heq
  obtain ⟨hreverse, hsuffix⟩ := of_cut_eq_some hcut
  refine ⟨?_, by simpa using hsuffix⟩
  rw [← List.reverse_reverse text, hreverse]
  simp

/-- The fields of a text are made of its characters, without the separator. -/
theorem mem_of_mem_fields {sep : Char} {text : List Char} :
    ∀ part ∈ fields sep text, ∀ c ∈ part, c ∈ text ∧ c ≠ sep := by
  induction text with
  | nil => simp [fields]
  | cons first text ih =>
    intro part hpart c hc
    rw [fields, List.splitOn_cons_eq_if_modifyHead] at hpart
    split at hpart
    next =>
      rcases List.mem_cons.1 hpart with rfl | hpart
      · cases hc
      · exact (ih part hpart c hc).imp_left (List.mem_cons_of_mem first)
    next hne =>
      obtain ⟨head, parts, hparts⟩ := List.exists_cons_of_ne_nil (List.splitOn_ne_nil sep text)
      rw [hparts, List.modifyHead_cons] at hpart
      have hold : ∀ part ∈ head :: parts, ∀ c ∈ part, c ∈ first :: text ∧ c ≠ sep :=
        fun part hpart c hc =>
          (ih part (by rwa [fields, hparts]) c hc).imp_left (List.mem_cons_of_mem first)
      rcases List.mem_cons.1 hpart with rfl | hpart
      · rcases List.mem_cons.1 hc with rfl | hc
        · exact ⟨List.mem_cons_self, by simpa using hne⟩
        · exact hold head List.mem_cons_self c hc
      · exact hold part (List.mem_cons_of_mem head hpart) c hc

theorem mem_intercalate {sep : Char} {parts : List (List Char)} :
    ∀ c ∈ [sep].intercalate parts, c = sep ∨ ∃ part ∈ parts, c ∈ part := by
  induction parts with
  | nil => nofun
  | cons part parts ih =>
    intro c hc
    cases parts with
    | nil => exact .inr ⟨part, List.mem_cons_self, by simpa using hc⟩
    | cons next parts =>
      rw [List.intercalate_cons_cons, List.append_assoc, List.mem_append, List.mem_append,
        List.mem_singleton] at hc
      rcases hc with hc | rfl | hc
      · exact .inr ⟨part, List.mem_cons_self, hc⟩
      · exact .inl rfl
      · obtain rfl | ⟨other, hother, hc⟩ := ih c hc
        · exact .inl rfl
        · exact .inr ⟨other, List.mem_cons_of_mem part hother, hc⟩

/-! ## Bytes -/

theorem byteLength_eq_sum (text : List Char) : byteLength text = (text.map Char.utf8Size).sum := by
  suffices h : ∀ total, text.foldl (fun total c => total + c.utf8Size) total =
      total + (text.map Char.utf8Size).sum by
    simpa [byteLength] using h 0
  induction text with
  | nil => intro total; rfl
  | cons c text ih => intro total; rw [List.foldl_cons, ih]; simp [Nat.add_assoc]

theorem byteLength_cons (c : Char) (text : List Char) :
    byteLength (c :: text) = c.utf8Size + byteLength text := by
  simp [byteLength_eq_sum]

/-- The length that is written in front of a value is that of its characters. -/
theorem utf8ByteSize_ofList (text : List Char) :
    (String.ofList text).utf8ByteSize = byteLength text := by
  induction text with
  | nil => rfl
  | cons c text ih =>
    have hcons : String.ofList (c :: text) = String.singleton c ++ String.ofList text := by
      apply String.toList_injective
      simp
    rw [hcons, String.utf8ByteSize_append, ih, byteLength_cons, String.utf8ByteSize_singleton]

theorem byteLength_toList (text : String) : byteLength text.toList = text.utf8ByteSize := by
  rw [← utf8ByteSize_ofList, String.ofList_toList]

theorem splitBytes_loop_append (value : List Char) (tail front : List Char) :
    splitBytes.loop (byteLength value) (value ++ tail) front =
      some (front.reverse ++ value, tail) := by
  induction value generalizing front with
  | nil => simp [byteLength, splitBytes.loop]
  | cons c value ih =>
    have hpos := c.utf8Size_pos
    obtain ⟨bytes, hbytes⟩ : ∃ bytes, byteLength (c :: value) = bytes + 1 :=
      ⟨byteLength (c :: value) - 1, by rw [byteLength_cons]; omega⟩
    have hrest : bytes + 1 - c.utf8Size = byteLength value := by
      rw [← hbytes, byteLength_cons]; omega
    have hle : c.utf8Size ≤ bytes + 1 := by rw [← hbytes, byteLength_cons]; omega
    rw [hbytes, List.cons_append, splitBytes.loop, if_pos hle, hrest, ih]
    simp

/-- **A cut after as many bytes as a value has gives the value back**, whatever follows it. -/
theorem splitBytes_append (value tail : List Char) :
    splitBytes (byteLength value) (value ++ tail) = some (value, tail) :=
  splitBytes_loop_append value tail []

theorem byteLength_of_splitBytes_loop {bytes : Nat} {text front : List Char}
    {p : List Char × List Char} (h : splitBytes.loop bytes text front = some p) :
    byteLength p.1 = byteLength front + bytes := by
  fun_induction splitBytes.loop bytes text front with
  | case1 text front =>
    obtain rfl := Option.some.inj h
    simp [byteLength_eq_sum]
  | case2 => cases h
  | case3 bytes c text front hle ih =>
    rw [ih h, byteLength_cons]
    omega
  | case4 => cases h

theorem byteLength_of_splitBytes {bytes : Nat} {text value tail : List Char}
    (h : splitBytes bytes text = some (value, tail)) : byteLength value = bytes := by
  have hlen := byteLength_of_splitBytes_loop h
  simpa [byteLength] using hlen

theorem splitBytes_loop_eq {bytes : Nat} {text front : List Char} {p : List Char × List Char}
    (h : splitBytes.loop bytes text front = some p) : front.reverse ++ text = p.1 ++ p.2 := by
  fun_induction splitBytes.loop bytes text front with
  | case1 => cases h; rfl
  | case2 => cases h
  | case3 bytes c text front hle ih =>
    rw [← ih h]
    simp
  | case4 => cases h

theorem splitBytes_eq {bytes : Nat} {text value tail : List Char}
    (h : splitBytes bytes text = some (value, tail)) : text = value ++ tail := by
  simpa using splitBytes_loop_eq h

end MountControl.Text
