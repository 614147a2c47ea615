/-
  MountControl — IPv6 addresses are read back as they were written.

  The shortest text of an address leaves out a run of at least two zeros, if
  there is one.  Where it does, the gap is the only place of the text with
  two colons side by side, and the numbers around it tell how long it is.

  * `isAddress_of_parse`: what is read is an address, eight numbers of 16
    bits;
  * `parse?_write`: the text of every address is read as that address.
-/
import MountControl.Net.Ipv6
import MountControl.Proofs.Text.Length

namespace MountControl.Net.Ipv6

open Text.Numeral

/-- Eight numbers of 16 bits. -/
structure IsAddress (numbers : List Nat) : Prop where
  length : numbers.length = 8
  lt : ∀ n ∈ numbers, n < 65536

/-! ## What is read -/

theorem octet?_lt {text : List Char} {n : Nat} (h : octet? text = some n) : n < 256 := by
  rw [octet?] at h
  split at h
  next value _ =>
    split at h
    next hcond =>
      cases h
      exact hcond.1
    next => cases h
  next => cases h

theorem octet?_mapM_lt {parts : List (List Char)} {octets : List Nat}
    (h : parts.mapM octet? = some octets) : ∀ n ∈ octets, n < 256 := by
  induction parts generalizing octets with
  | nil => cases h; nofun
  | cons part parts ih =>
    simp only [List.mapM_cons, Option.bind_eq_bind, Option.bind_eq_some_iff,
      Option.pure_def, Option.some.injEq] at h
    obtain ⟨n, hn, more, hmore, rfl⟩ := h
    intro m hm
    rcases List.mem_cons.1 hm with rfl | hm
    · exact octet?_lt hn
    · exact ih hmore m hm

theorem octets?_lt {text : List Char} {numbers : List Nat} (h : octets? text = some numbers) :
    ∀ n ∈ numbers, n < 65536 := by
  rw [octets?] at h
  split at h
  next a b c d hread =>
    have hlt := octet?_mapM_lt hread
    cases h
    simp only [List.mem_cons, List.not_mem_nil, or_false, forall_eq_or_imp, forall_eq] at hlt ⊢
    omega
  next => cases h

theorem piece?_lt {text : List Char} {n : Nat} (h : piece? text = some n) : n < 65536 := by
  rw [piece?] at h
  split at h
  next hlength =>
    rw [value?] at h
    split at h
    next => cases h
    next =>
      calc n < (0 + 1) * 16 ^ text.length := continue?_lt h
        _ ≤ 1 * 16 ^ 4 := Nat.mul_le_mul_left 1 (Nat.pow_le_pow_right (by omega) hlength)
  next => cases h

theorem pieces?_lt {parts : List (List Char)} {numbers : List Nat}
    (h : pieces? parts = some numbers) : ∀ n ∈ numbers, n < 65536 := by
  fun_induction pieces? parts generalizing numbers with
  | case1 => cases h; nofun
  | case2 last hdot => exact octets?_lt h
  | case3 last hdot =>
    obtain ⟨n, hn, rfl⟩ := Option.map_eq_some_iff.1 h
    simpa using piece?_lt hn
  | case4 first rest hrest ih =>
    simp only [Option.bind_eq_bind, Option.bind_eq_some_iff, Option.some.injEq] at h
    obtain ⟨n, hn, more, hmore, rfl⟩ := h
    intro m hm
    rcases List.mem_cons.1 hm with rfl | hm
    · exact piece?_lt hn
    · exact ih hmore m hm

theorem group?_lt {text : List Char} {numbers : List Nat} (h : group? text = some numbers) :
    ∀ n ∈ numbers, n < 65536 := by
  rw [group?] at h
  split at h
  · cases h
    nofun
  · exact pieces?_lt h

/-- **What is read is an address.** -/
theorem isAddress_of_parse {text : List Char} {numbers : List Nat}
    (h : parse? text = some numbers) : IsAddress numbers := by
  rw [parse?] at h
  split at h
  next =>
    obtain ⟨hread, hlength⟩ := Option.filter_eq_some_iff.1 h
    exact ⟨by simpa using hlength, group?_lt hread⟩
  next front back _ =>
    by_cases hdot : '.' ∈ front
    · simp [hdot] at h
    · simp only [hdot, if_false, Option.bind_eq_bind, Option.bind_eq_some_iff] at h
      obtain ⟨high, hhigh, low, hlow, h⟩ := h
      split at h
      next hle =>
        cases h
        refine ⟨?_, fun n hn => ?_⟩
        · simp only [List.length_append, List.length_replicate]
          omega
        · simp only [List.mem_append, List.mem_replicate] at hn
          rcases hn with (hn | ⟨-, rfl⟩) | hn
          · exact group?_lt hhigh n hn
          · omega
          · exact group?_lt hlow n hn
      next => cases h

/-! ## Groups of numbers -/

theorem not_mem_digits {n : Nat} : ':' ∉ digits 16 n ∧ '.' ∉ digits 16 n := by
  have hne : ∀ d < 16, ':' ≠ Nat.digitChar d ∧ '.' ≠ Nat.digitChar d := by decide
  constructor
  all_goals
    intro hmem
    obtain ⟨d, hd, hc⟩ := exists_of_mem_digits (by omega) _ hmem
  · exact (hne d hd).1 hc
  · exact (hne d hd).2 hc

theorem piece?_digits {n : Nat} (h : n < 65536) : piece? (digits 16 n) = some n := by
  rw [piece?, if_pos (length_digits_le (by omega) (by omega) h),
    value?_digits (by omega) (by omega)]

theorem pieces?_digits {numbers : List Nat} (h : ∀ n ∈ numbers, n < 65536) :
    pieces? (numbers.map (digits 16)) = some numbers := by
  induction numbers with
  | nil => rfl
  | cons n numbers ih =>
    have hn := piece?_digits (h n List.mem_cons_self)
    have hrest := ih fun m hm => h m (List.mem_cons_of_mem n hm)
    cases numbers with
    | nil => simp [pieces?, not_mem_digits, hn]
    | cons m numbers =>
      rw [List.map_cons] at hrest ⊢
      rw [List.map_cons, pieces?, hn, hrest]
      · rfl
      · nofun

theorem writeGroup_cons_cons (n m : Nat) (numbers : List Nat) :
    writeGroup (n :: m :: numbers) = digits 16 n ++ ':' :: writeGroup (m :: numbers) := by
  simp [writeGroup, List.intercalate_cons_cons]

theorem exists_cons_writeGroup (n : Nat) (numbers : List Nat) :
    ∃ c rest, writeGroup (n :: numbers) = c :: rest ∧ c ≠ ':' := by
  obtain ⟨c, rest, hdigits⟩ := List.exists_cons_of_ne_nil (digits_ne_nil 16 n)
  have hc : c ≠ ':' := by
    rintro rfl
    exact not_mem_digits.1 (hdigits ▸ List.mem_cons_self)
  cases numbers with
  | nil => exact ⟨c, rest, by simpa [writeGroup] using hdigits, hc⟩
  | cons m numbers =>
    exact ⟨c, rest ++ ':' :: writeGroup (m :: numbers), by
      rw [writeGroup_cons_cons, hdigits, List.cons_append], hc⟩

theorem mem_writeGroup {numbers : List Nat} : ∀ c ∈ writeGroup numbers, IsDigit c ∨ c = ':' := by
  have hdigit : ∀ n, ∀ c ∈ digits 16 n, IsDigit c ∨ c = ':' := fun n c hc =>
    .inl (isDigit_of_mem_digits (by omega) (by omega) c hc)
  induction numbers with
  | nil => nofun
  | cons n numbers ih =>
    cases numbers with
    | nil => simpa [writeGroup] using hdigit n
    | cons m numbers =>
      intro c hc
      rw [writeGroup_cons_cons, List.mem_append, List.mem_cons] at hc
      rcases hc with hc | rfl | hc
      · exact hdigit n c hc
      · exact .inr rfl
      · exact ih c hc

/-- **Numbers between colons are read back.** -/
theorem group?_writeGroup {numbers : List Nat} (h : ∀ n ∈ numbers, n < 65536) :
    group? (writeGroup numbers) = some numbers := by
  cases numbers with
  | nil => rfl
  | cons n numbers =>
    have hparts : Text.fields ':' (writeGroup (n :: numbers)) =
        (n :: numbers).map (digits 16) := by
      refine List.splitOn_intercalate ':' (fun part hpart => ?_) (by simp)
      obtain ⟨m, -, rfl⟩ := List.mem_map.1 hpart
      exact not_mem_digits.1
    obtain ⟨c, rest, hne, -⟩ := exists_cons_writeGroup n numbers
    rw [group?, if_neg (by simp [hne]), hparts, pieces?_digits h]

/-! ## The gap -/

theorem cutGap_append {front : List Char} (h : ':' ∉ front) (rest : List Char) :
    cutGap (front ++ rest) = (cutGap rest).map fun cut => (front ++ cut.1, cut.2) := by
  induction front with
  | nil => simp
  | cons c front ih =>
    have hc : c ≠ ':' := fun hc => h (hc ▸ List.mem_cons_self)
    rw [List.cons_append, cutGap, ih fun hmem => h (List.mem_cons_of_mem c hmem)]
    · cases cutGap rest <;> rfl
    · exact fun rest heq _ => hc heq

/-- Between the numbers of a group there is no gap. -/
theorem cutGap_writeGroup (n : Nat) (numbers : List Nat) (rest : List Char) :
    cutGap (writeGroup (n :: numbers) ++ rest) =
      (cutGap rest).map fun cut => (writeGroup (n :: numbers) ++ cut.1, cut.2) := by
  induction numbers generalizing n with
  | nil => simpa [writeGroup] using cutGap_append not_mem_digits.1 rest
  | cons m numbers ih =>
    obtain ⟨c, back, hback, hc⟩ := exists_cons_writeGroup m numbers
    have hcolon : cutGap (':' :: (writeGroup (m :: numbers) ++ rest)) =
        (cutGap (writeGroup (m :: numbers) ++ rest)).map fun cut => (':' :: cut.1, cut.2) := by
      rw [hback, List.cons_append, cutGap]
      rintro rest - heq
      exact hc (List.cons.inj heq).1
    rw [writeGroup_cons_cons, List.append_assoc, cutGap_append not_mem_digits.1, List.cons_append,
      hcolon, ih]
    cases cutGap rest <;> simp

theorem cutGap_gap (high : List Nat) (rest : List Char) :
    cutGap (writeGroup high ++ ':' :: ':' :: rest) = some (writeGroup high, rest) := by
  cases high with
  | nil => rfl
  | cons n numbers =>
    rw [cutGap_writeGroup, cutGap]
    simp

/-! ## The longest run of zeros -/

/-- A run of at least two zeros: its place and length. -/
structure IsGap (numbers : List Nat) (gap : Nat × Nat) : Prop where
  many : 2 ≤ gap.2
  zeros : gap.2 = zeros (numbers.drop gap.1)

/-- The numbers around a gap tell the gap. -/
theorem IsGap.eq {numbers : List Nat} {i n : Nat} (h : IsGap numbers (i, n)) :
    numbers = numbers.take i ++ List.replicate n 0 ++ numbers.drop (i + n) := by
  have hrun : (numbers.drop i).takeWhile (· = 0) = List.replicate n 0 :=
    List.eq_replicate_iff.2 ⟨h.zeros.symm, fun m hm => by simpa using List.mem_takeWhile_imp hm⟩
  have hfront : (numbers.drop i).take n = List.replicate n 0 := by
    have hprefix := List.prefix_iff_eq_take.1 (List.takeWhile_prefix (· = 0) (l := numbers.drop i))
    rw [hrun, List.length_replicate] at hprefix
    exact hprefix.symm
  rw [← hfront, ← List.drop_drop, List.append_assoc, List.take_append_drop,
    List.take_append_drop]

theorem isGap_of_longestGap {numbers : List Nat} {gap : Nat × Nat}
    (h : longestGap numbers = some gap) : IsGap numbers gap := by
  -- the best run so far is always a gap, if there is one
  have hbest : ∀ gap, longestGap numbers = some gap → IsGap numbers gap := by
    refine List.foldlRecOn (motive := fun best : Option (Nat × Nat) =>
      ∀ gap, best = some gap → IsGap numbers gap) _ _ nofun ?_
    intro best hbest run hrun gap hgap
    obtain ⟨i, -, rfl⟩ := List.mem_map.1 hrun
    rcases best with _ | ⟨j, m⟩
    · dsimp only at hgap
      split at hgap
      next hmany =>
        cases hgap
        exact ⟨hmany, rfl⟩
      next => cases hgap
    · dsimp only at hgap
      split at hgap
      next hlonger =>
        cases hgap
        have hmany := (hbest _ rfl).many
        exact ⟨by omega, rfl⟩
      next => exact hbest gap hgap
  exact hbest gap h

/-! ## Whole addresses -/

theorem parse?_gap {high low : List Nat} (hhigh : ∀ n ∈ high, n < 65536)
    (hlow : ∀ n ∈ low, n < 65536) (hlength : high.length + low.length ≤ 7) :
    parse? (writeGroup high ++ [':', ':'] ++ writeGroup low) =
      some (high ++ List.replicate (8 - high.length - low.length) 0 ++ low) := by
  have hcut : cutGap (writeGroup high ++ [':', ':'] ++ writeGroup low) =
      some (writeGroup high, writeGroup low) := by
    rw [List.append_assoc]
    exact cutGap_gap high _
  have hdot : '.' ∉ writeGroup high := by
    intro hmem
    rcases mem_writeGroup _ hmem with ⟨d, hd, hc⟩ | hc
    · have hne : ∀ d < 16, '.' ≠ Nat.digitChar d := by decide
      exact hne d hd hc
    · cases hc
  simp only [parse?, hcut, hdot, group?_writeGroup hhigh, group?_writeGroup hlow, hlength,
    if_false, if_true, Option.bind_eq_bind, Option.bind_some]

/-- **The text of an address is read back.** -/
theorem parse?_write {numbers : List Nat} (h : IsAddress numbers) :
    parse? (write numbers) = some numbers := by
  rw [write]
  rcases hlongest : longestGap numbers with _ | ⟨i, n⟩
  · obtain ⟨m, rest, rfl⟩ := List.exists_cons_of_length_pos (by rw [h.length]; omega)
    have hcut : cutGap (writeGroup (m :: rest)) = none := by
      simpa [cutGap] using cutGap_writeGroup m rest []
    simp only [parse?, hcut, group?_writeGroup h.lt, Option.filter_some, h.length, decide_true,
      if_true]
  · have hgap := isGap_of_longestGap hlongest
    have hmany : 2 ≤ n := hgap.many
    have hlength : (numbers.take i).length + (n + (numbers.drop (i + n)).length) = 8 := by
      have hparts := congrArg List.length hgap.eq
      rwa [h.length, List.length_append, List.length_append, List.length_replicate,
        Nat.add_assoc, eq_comm] at hparts
    have hn : 8 - (numbers.take i).length - (numbers.drop (i + n)).length = n := by omega
    dsimp only
    rw [parse?_gap (fun m hm => h.lt m (List.mem_of_mem_take hm))
      (fun m hm => h.lt m (List.mem_of_mem_drop hm)) (by omega), hn, ← hgap.eq]

/-- What stands in the text of an address. -/
theorem mem_write {numbers : List Nat} : ∀ c ∈ write numbers, IsDigit c ∨ c = ':' := by
  intro c hc
  rw [write] at hc
  split at hc
  · exact mem_writeGroup c hc
  · simp only [List.mem_append, List.mem_cons, List.not_mem_nil, or_false, or_self] at hc
    rcases hc with (hc | rfl) | hc
    · exact mem_writeGroup c hc
    · exact .inr rfl
    · exact mem_writeGroup c hc

end MountControl.Net.Ipv6
