/-
  MountControl — paths that reading a URL leaves as they are.

  Reading a path encodes what may not stand in it and resolves the segments
  that are dots.  A path that comes out has neither, and such a path comes out
  as it went in.

  * `forall_mem_encode`: what an encoded text is made of;
  * `Settled`: a path with nothing to encode and nothing to resolve;
    `slashedPath_eq_iff`: these are the paths that are read as themselves.
-/
import MountControl.Net.Url
import MountControl.Proofs.Text.Cutting
import MountControl.Proofs.Text.Numeral

namespace MountControl.Net

/-! ## Encoding -/

namespace Percent

/-- What is neither a control nor a blank comes after both. -/
theorem blank_lt {c : Char} (hcontrol : isControl c = false) (hne : c ≠ ' ') : 0x20 < c.toNat := by
  have hblank : c.toNat ≠ 0x20 := fun heq => hne (Char.ext (UInt32.toNat_inj.1 heq))
  simp only [isControl, Bool.or_eq_false_iff, decide_eq_false_iff_not] at hcontrol
  omega

theorem mem_encodeByte {b : UInt8} :
    ∀ c ∈ encodeByte b, c = '%' ∨ ∃ d < 16, c = (Nat.digitChar d).toUpper := by
  intro c hc
  rcases List.mem_cons.1 hc with rfl | hc
  · exact .inl rfl
  · obtain ⟨digit, hdigit, rfl⟩ := List.mem_map.1 hc
    obtain ⟨d, hd, rfl⟩ :=
      Text.Numeral.isDigit_of_mem_padded (by omega) (by omega) 2 b.toNat digit hdigit
    exact .inr ⟨d, hd, rfl⟩

section
variable {p : Char → Bool} {text : List Char}

/-- **An encoded text** is made of characters that need no encoding, percent signs and digits. -/
theorem forall_mem_encode {q : Char → Prop} (htext : ∀ c ∈ text, p c = false → q c)
    (hpercent : q '%') (hdigit : ∀ d < 16, q (Nat.digitChar d).toUpper) :
    ∀ c ∈ encode p text, q c := by
  intro c hc
  obtain ⟨source, hsource, hc⟩ := List.mem_flatMap.1 hc
  split at hc
  next =>
    obtain ⟨byte, -, hc⟩ := List.mem_flatMap.1 hc
    obtain rfl | ⟨d, hd, rfl⟩ := mem_encodeByte c hc
    · exact hpercent
    · exact hdigit d hd
  next hplain =>
    obtain rfl := List.mem_singleton.1 hc
    exact htext c hsource (by simpa using hplain)

/-- A text with nothing to encode stays as it is. -/
theorem encode_eq_self (h : ∀ c ∈ text, p c = false) : encode p text = text := by
  induction text with
  | nil => rfl
  | cons c text ih =>
    have hrest := ih fun a ha => h a (List.mem_cons_of_mem c ha)
    rw [encode] at hrest ⊢
    rw [List.flatMap_cons, hrest, h c List.mem_cons_self]
    rfl

end

end Percent

/-! ## Resolving -/

/-- Does the text of a segment mean a directory? -/
def isDots (segment : List Char) : Bool := isSingleDot segment || isDoubleDot segment

theorem leave_subset (above : List (List Char)) : leave above ⊆ above := by
  cases above with
  | nil => exact List.Subset.refl _
  | cons segment above =>
    rw [leave]
    split
    · exact List.Subset.refl _
    · exact List.subset_cons_self _ _

/-- What resolving leaves are segments that are no dots, or empty. -/
theorem forall_mem_resolve {P : List Char → Prop} (hnil : P []) {above segments : List (List Char)}
    (habove : ∀ segment ∈ above, P segment)
    (hsegments : ∀ segment ∈ segments, isDots segment = false → P segment) :
    ∀ segment ∈ resolve above segments, P segment := by
  have hleave : ∀ above : List (List Char), (∀ segment ∈ above, P segment) →
      ∀ segment ∈ leave above, P segment := fun above h segment hmem =>
    h segment (leave_subset above hmem)
  fun_induction resolve above segments with
  | case1 above => simpa using ⟨hnil, habove⟩
  | case2 above last hdouble => simpa using ⟨hnil, hleave above habove⟩
  | case3 above last hdouble hsingle => simpa using ⟨hnil, habove⟩
  | case4 above last hdouble hsingle =>
    simpa using ⟨hsegments last List.mem_cons_self (by simp [isDots, hdouble, hsingle]), habove⟩
  | case5 above segment rest hrest hdouble ih =>
    exact ih (hleave above habove) fun segment h => hsegments segment (List.mem_cons_of_mem _ h)
  | case6 above segment rest hrest hdouble hsingle ih =>
    exact ih habove fun segment h => hsegments segment (List.mem_cons_of_mem _ h)
  | case7 above segment rest hrest hdouble hsingle ih =>
    refine ih ?_ fun segment h => hsegments segment (List.mem_cons_of_mem _ h)
    simpa using ⟨hsegments segment List.mem_cons_self (by simp [isDots, hdouble, hsingle]), habove⟩

theorem resolve_ne_nil (above segments : List (List Char)) : resolve above segments ≠ [] := by
  fun_induction resolve above segments <;> simp_all

/-- Segments that are no dots stay as they are. -/
theorem resolve_eq {above segments : List (List Char)} (hne : segments ≠ [])
    (h : ∀ segment ∈ segments, isDots segment = false) :
    resolve above segments = segments.reverse ++ above := by
  have hdots : ∀ segment ∈ segments, isSingleDot segment = false ∧ isDoubleDot segment = false :=
    fun segment hmem => by simpa [isDots] using h segment hmem
  fun_induction resolve above segments with
  | case1 above => exact absurd rfl hne
  | case2 above last hdouble => simp [hdots last] at hdouble
  | case3 above last hdouble hsingle => simp [hdots last] at hsingle
  | case4 above last hdouble hsingle => rfl
  | case5 above segment rest hrest hdouble ih => simp [hdots segment] at hdouble
  | case6 above segment rest hrest hdouble hsingle ih => simp [hdots segment] at hsingle
  | case7 above segment rest hrest hdouble hsingle ih =>
    have hrest : rest ≠ [] := by rintro rfl; exact hrest rfl
    rw [ih hrest (fun segment hmem => h segment (List.mem_cons_of_mem _ hmem))
      fun segment hmem => hdots segment (List.mem_cons_of_mem _ hmem)]
    simp

/-! ## Paths -/

/-- What follows the first slash of a path that is read as itself: nothing in it is encoded, and no
    segment is resolved. -/
structure Settled (rest : List Char) : Prop where
  plain : ∀ c ∈ rest, Percent.inPath c = false
  segments : ∀ segment ∈ Text.fields '/' rest, isDots segment = false

theorem Settled.blank_lt {rest : List Char} (h : Settled rest) : ∀ c ∈ rest, 0x20 < c.toNat := by
  intro c hc
  have hplain := h.plain c hc
  refine Percent.blank_lt (Bool.or_eq_false_iff.1 hplain).1 ?_
  rintro rfl
  revert hplain
  decide

theorem inPath_of_endsPath {c : Char} (h : endsPath c) : Percent.inPath c := by
  simp only [endsPath, Bool.or_eq_true, decide_eq_true_eq] at h
  rcases h with rfl | rfl <;> decide

/-- **What comes out of reading a path is settled.** -/
theorem exists_slashedPath (text : List Char) :
    ∃ rest, slashedPath text = '/' :: rest ∧ Settled rest := by
  have hencoded : ∀ c ∈ Percent.encode Percent.inPath (text.takeWhile (!endsPath ·)),
      Percent.inPath c = false :=
    Percent.forall_mem_encode (fun _ _ h => h) (by decide) (by decide)
  -- no segment that is left has anything to encode or to resolve
  have hsegments : ∀ segment ∈ resolve []
      (Text.fields '/' (Percent.encode Percent.inPath (text.takeWhile (!endsPath ·)))),
      isDots segment = false ∧ ∀ c ∈ segment, Percent.inPath c = false ∧ c ≠ '/' := by
    refine forall_mem_resolve ⟨by decide, nofun⟩ nofun fun segment hmem hdots => ?_
    exact ⟨hdots, fun c hc => (Text.mem_of_mem_fields segment hmem c hc).imp_left (hencoded c)⟩
  have hne := resolve_ne_nil []
    (Text.fields '/' (Percent.encode Percent.inPath (text.takeWhile (!endsPath ·))))
  rw [slashedPath]
  generalize resolve [] _ = segments at hsegments hne
  have hfields : Text.fields '/' (['/'].intercalate segments.reverse) = segments.reverse :=
    List.splitOn_intercalate '/'
      (fun segment hmem hslash => ((hsegments segment (List.mem_reverse.1 hmem)).2 _ hslash).2 rfl)
      (by simpa using hne)
  refine ⟨_, rfl, fun c hc => ?_, fun segment hmem => ?_⟩
  · obtain rfl | ⟨segment, hmem, hc⟩ := Text.mem_intercalate c hc
    · decide
    · exact ((hsegments segment (List.mem_reverse.1 hmem)).2 c hc).1
  · rw [hfields] at hmem
    exact (hsegments segment (List.mem_reverse.1 hmem)).1

/-- A settled path is read as itself. -/
theorem Settled.slashedPath_eq {rest : List Char} (h : Settled rest) :
    slashedPath rest = '/' :: rest := by
  have htake : rest.takeWhile (!endsPath ·) = rest := by
    refine List.takeWhile_eq_self_iff.2 fun c hc => ?_
    by_contra hends
    have hin := inPath_of_endsPath (c := c) (by simpa using hends)
    rw [h.plain c hc] at hin
    cases hin
  have hresolve : resolve [] (Text.fields '/' rest) = (Text.fields '/' rest).reverse := by
    have hne : Text.fields '/' rest ≠ [] := List.splitOn_ne_nil '/' rest
    rw [resolve_eq hne h.segments, List.append_nil]
  rw [slashedPath, htake, Percent.encode_eq_self h.plain, hresolve, List.reverse_reverse]
  exact congrArg _ (List.intercalate_splitOn '/')

theorem settled_of_slashedPath {text rest : List Char} (h : slashedPath text = '/' :: rest) :
    Settled rest := by
  obtain ⟨rest', heq, hsettled⟩ := exists_slashedPath text
  obtain rfl := (List.cons.inj (heq.symm.trans h)).2
  exact hsettled

/-- **The paths that are read as themselves.** -/
theorem slashedPath_eq_iff {rest : List Char} : slashedPath rest = '/' :: rest ↔ Settled rest :=
  ⟨settled_of_slashedPath, Settled.slashedPath_eq⟩

end MountControl.Net
