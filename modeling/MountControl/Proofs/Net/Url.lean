/-
  MountControl — what URLs of ordinary schemes are made of.

  * `IsHost`: a name with nothing to encode, or an address in brackets, as
    short as can be.  `isHost_of_opaqueHost`: every host that is read is one;
    `takeAuthority_written`: each of them is read, with a port behind it, as
    it stands;
  * `parse_parts`: of a URL of an ordinary scheme, the host is such a host,
    and a path that begins with a slash is settled.
-/
import MountControl.Proofs.Net.Ipv6
import MountControl.Proofs.Net.Path

namespace MountControl.Net

open Text.Numeral (IsDigit)

/-! ## Hosts -/

/-- The hosts that are read as themselves. -/
inductive IsHost : List Char → Prop
  | name {host} : host ≠ [] →
      (∀ c ∈ host, Percent.isControl c = false ∧ isForbiddenInHost c = false) → IsHost host
  | address {numbers} : Ipv6.IsAddress numbers → IsHost ('[' :: Ipv6.write numbers ++ [']'])

theorem isHost_of_bracketed {text host : List Char} (h : bracketed text = .ok host) :
    IsHost host := by
  rw [bracketed] at h
  split at h
  next => cases h
  next =>
    split at h
    next numbers hread =>
      cases h
      exact .address (Ipv6.isAddress_of_parse hread)
    next => cases h

/-- **Every host that is read** is read as itself again. -/
theorem isHost_of_opaqueHost {text host : List Char} (h : opaqueHost text = .ok host)
    (hne : host ≠ []) : IsHost host := by
  rw [opaqueHost] at h
  split at h
  next => exact isHost_of_bracketed h
  next =>
    split at h
    next => cases h
    next hfree =>
      cases h
      refine .name hne (Percent.forall_mem_encode (fun c hc hplain => ⟨hplain, ?_⟩) (by decide)
        (by decide))
      simp only [List.any_eq_true, not_exists, not_and, Bool.not_eq_true] at hfree
      exact hfree c hc

theorem opaqueHost_of_isHost {host : List Char} (h : IsHost host) :
    opaqueHost host = .ok host := by
  cases h with
  | name hne hplain =>
    have hhead : host.head? ≠ some '[' := fun hhead => by
      have hfree := (hplain '[' (List.mem_of_head? hhead)).2
      revert hfree
      decide
    have hfree : host.any isForbiddenInHost = false :=
      List.any_eq_false.2 fun c hc => by simp [(hplain c hc).2]
    rw [opaqueHost, if_neg hhead, hfree, Percent.encode_eq_self fun c hc => (hplain c hc).1]
    rfl
  | @address numbers haddress =>
    have hlast : ('[' :: Ipv6.write numbers ++ [']']).getLast? = some ']' := List.getLast?_concat
    have hwithin : (('[' :: Ipv6.write numbers ++ [']']).drop 1).dropLast = Ipv6.write numbers := by
      simp
    have hhead : ('[' :: Ipv6.write numbers ++ [']']).head? = some '[' := rfl
    rw [opaqueHost, if_pos hhead, bracketed, if_neg (by simp only [hlast]; simp), hwithin,
      Ipv6.parse?_write haddress]

theorem IsHost.ne_nil {host : List Char} (h : IsHost host) : host ≠ [] := by
  cases h with
  | name hne => exact hne
  | address => exact List.cons_ne_nil _ _

/-- May the character stand in a host, brackets and colons apart? -/
def isHostChar (c : Char) : Bool :=
  0x20 < c.toNat && c ∉ ['@', '[', ']'] && !endsAuthority .plain c

theorem isHostChar_of_isDigit {c : Char} (h : IsDigit c) : isHostChar c := by
  obtain ⟨d, hd, rfl⟩ := h
  have hchar : ∀ d < 16, isHostChar (Nat.digitChar d) := by decide
  exact hchar d hd

theorem ne_colon_of_isDigit {c : Char} (h : IsDigit c) : c ≠ ':' := by
  obtain ⟨d, hd, rfl⟩ := h
  have hne : ∀ d < 16, Nat.digitChar d ≠ ':' := by decide
  exact hne d hd

theorem isHostChar_of_plain {c : Char} (hcontrol : Percent.isControl c = false)
    (hfree : isForbiddenInHost c = false) : isHostChar c ∧ c ≠ ':' := by
  have hblank : 0x20 < c.toNat := by
    refine Percent.blank_lt hcontrol ?_
    rintro rfl
    revert hfree
    decide
  simp only [isForbiddenInHost, List.mem_cons, List.not_mem_nil, decide_eq_false_iff_not,
    not_or] at hfree
  simp [isHostChar, endsAuthority, hblank, hfree]

theorem blank_lt_of_isHostChar {c : Char} (h : isHostChar c) : 0x20 < c.toNat := by
  simp only [isHostChar, Bool.and_eq_true, decide_eq_true_eq] at h
  exact h.1.1

/-- What stands in a host. -/
theorem IsHost.mem {host : List Char} (h : IsHost host) :
    ∀ c ∈ host, isHostChar c ∨ c ∈ ['[', ']', ':'] := by
  cases h with
  | name hne hplain =>
    exact fun c hc => .inl (isHostChar_of_plain (hplain c hc).1 (hplain c hc).2).1
  | @address numbers haddress =>
    intro c hc
    simp only [List.cons_append, List.mem_cons, List.mem_append, List.not_mem_nil, or_false] at hc ⊢
    rcases hc with rfl | hc | rfl
    · exact .inr (.inl rfl)
    · rcases Ipv6.mem_write c hc with hdigit | rfl
      · exact .inl (isHostChar_of_isDigit hdigit)
      · exact .inr (.inr (.inr rfl))
    · exact .inr (.inr (.inl rfl))

/-- Characters of a host are passed, and colons if they are in brackets. -/
theorem takeHost_append {inside : Bool} {front : List Char}
    (h : ∀ c ∈ front, isHostChar c ∧ c ≠ ':' ∨ c = ':' ∧ inside) (rest : List Char) :
    takeHost .plain inside (front ++ rest) =
      (front ++ (takeHost .plain inside rest).1, (takeHost .plain inside rest).2) := by
  induction front with
  | nil => rfl
  | cons c front ih =>
    have hgo : ((c = ':' && !inside) || endsAuthority .plain c) = false ∧ c ≠ '[' ∧ c ≠ ']' := by
      rcases h c List.mem_cons_self with ⟨hchar, hc⟩ | ⟨rfl, rfl⟩
      · simp only [isHostChar, List.mem_cons, List.not_mem_nil, or_false, Bool.and_eq_true,
          decide_eq_true_eq, Bool.not_eq_true', not_or] at hchar
        simp [hc, hchar]
      · decide
    have hrest := ih fun a ha => h a (List.mem_cons_of_mem c ha)
    rw [List.cons_append, takeHost, if_neg (by simp [hgo.1]), if_neg hgo.2.1, if_neg hgo.2.2]
    dsimp only
    rw [hrest]
    rfl

theorem takeHost_of_isHost {host : List Char} (h : IsHost host) (rest : List Char) :
    takeHost .plain false (host ++ ':' :: rest) = (host, ':' :: rest) := by
  have hcolon : takeHost .plain false (':' :: rest) = ([], ':' :: rest) := rfl
  cases h with
  | name hne hplain =>
    have hpass : ∀ c ∈ host, isHostChar c ∧ c ≠ ':' ∨ c = ':' ∧ false := fun c hc =>
      .inl (isHostChar_of_plain (hplain c hc).1 (hplain c hc).2)
    rw [takeHost_append hpass, hcolon, List.append_nil]
  | @address numbers haddress =>
    have hpass : ∀ c ∈ Ipv6.write numbers, isHostChar c ∧ c ≠ ':' ∨ c = ':' ∧ true := by
      intro c hc
      rcases Ipv6.mem_write c hc with hdigit | rfl
      · exact .inl ⟨isHostChar_of_isDigit hdigit, ne_colon_of_isDigit hdigit⟩
      · exact .inr ⟨rfl, rfl⟩
    have hopen : ∀ text, takeHost .plain false ('[' :: text) =
        ('[' :: (takeHost .plain true text).1, (takeHost .plain true text).2) := fun _ => rfl
    have hclose : takeHost .plain true (']' :: ':' :: rest) = ([']'], ':' :: rest) := rfl
    rw [List.cons_append, List.cons_append, hopen, List.append_assoc, takeHost_append hpass]
    simp [hclose]

/-! ## Authorities -/

theorem cutLast_eq_none {sep : Char} {text : List Char} (h : sep ∉ text) :
    Text.cutLast sep text = none := by
  have hrev : ∀ a ∈ text.reverse, a != sep := Text.ne_of_not_mem (by simpa using h)
  simp [Text.cutLast, Text.cut, List.span_eq_takeWhile_dropWhile,
    List.dropWhile_eq_nil_iff.2 hrev]

theorem skipUser_eq {kind : SchemeKind} {text : List Char} (h : '@' ∉ text) :
    skipUser kind text = .ok (text, false) := by
  have hauthority : '@' ∉ text.takeWhile fun c => !endsAuthority kind c := fun hmem =>
    h ((List.takeWhile_prefix _).subset hmem)
  simp only [skipUser, cutLast_eq_none hauthority]

theorem takePort_decimal {port : Nat} (h : port < 65536) :
    takePort (Text.Numeral.decimal port) = .ok (some port, []) := by
  have hdigits : (Text.Numeral.decimal port).takeWhile Char.isDigit =
      Text.Numeral.decimal port := by
    refine List.takeWhile_eq_self_iff.2 fun c hc => ?_
    obtain ⟨d, hd, rfl⟩ := Text.Numeral.exists_of_mem_digits (by omega) c hc
    have hdigit : ∀ d < 10, (Nat.digitChar d).isDigit := by decide
    exact hdigit d hd
  have hvalue : Text.Numeral.value? 10 (Text.Numeral.decimal port) = some port :=
    Text.Numeral.value?_digits (by omega) (by omega) port
  simp only [takePort, hdigits, hvalue, List.drop_length, if_neg (Nat.not_le.2 h), takePort.ends,
    if_true]

/-- What stands in a host and a port. -/
theorem IsHost.mem_written {host : List Char} (h : IsHost host) (port : Nat) :
    ∀ c ∈ host ++ ':' :: Text.Numeral.decimal port, isHostChar c ∨ c ∈ ['[', ']', ':'] := by
  intro c hc
  rcases List.mem_append.1 hc with hc | hc
  · exact h.mem c hc
  · rcases List.mem_cons.1 hc with rfl | hc
    · simp
    · exact .inl (isHostChar_of_isDigit
        (Text.Numeral.isDigit_of_mem_digits (by omega) (by omega) c hc))

/-- **Host and port are read as they were written.** -/
theorem takeAuthority_written {host : List Char} {port : Nat} (h : IsHost host)
    (hport : port < 65536) :
    takeAuthority .plain (host ++ ':' :: Text.Numeral.decimal port) =
      .ok (some host, some port, []) := by
  have huser : '@' ∉ host ++ ':' :: Text.Numeral.decimal port := fun hmem => by
    have hchar := h.mem_written port _ hmem
    revert hchar
    decide
  have hne : host.isEmpty = false := by simpa using h.ne_nil
  simp only [takeAuthority, bind, Except.bind, skipUser_eq huser, takeHost_of_isHost h,
    opaqueHost_of_isHost h, hne, takePort_decimal hport]
  rfl

theorem isHost_of_takeAuthority {text rest name : List Char} {port : Option Nat}
    (h : takeAuthority .plain text = .ok (some name, port, rest)) : IsHost name := by
  simp only [takeAuthority, bind, Except.bind, reduceCtorEq, false_and, if_false, if_true] at h
  split at h
  next => cases h
  next skipped _ =>
    split at h
    next => cases h
    next host hhost =>
      -- whatever is read of the port, the host is this one, if it is not empty
      have hname : (if host.isEmpty then none else some host) = some name := by
        split at h
        next => cases h
        next =>
          split at h
          next =>
            split at h
            next => cases h
            next => exact congrArg Prod.fst (Except.ok.inj h)
          next => exact congrArg Prod.fst (Except.ok.inj h)
      split at hname
      next => cases hname
      next hne =>
        cases hname
        exact isHost_of_opaqueHost hhost (by simpa using hne)

/-! ## Whole URLs -/

theorem settled_of_pathAfterAuthority {text rest : List Char}
    (h : pathAfterAuthority text = '/' :: rest) : Settled rest := by
  unfold pathAfterAuthority at h
  split at h
  · cases h
  · exact settled_of_slashedPath h
  · split at h
    · cases h
    · exact settled_of_slashedPath h

theorem pathAfterAuthority_slashed (text : List Char) :
    pathAfterAuthority text = [] ∨ ∃ rest, pathAfterAuthority text = '/' :: rest := by
  unfold pathAfterAuthority
  split
  · exact .inl rfl
  · exact .inr ⟨_, rfl⟩
  · split
    · exact .inl rfl
    · exact .inr ⟨_, rfl⟩

/-- An opaque path does not begin with a slash. -/
theorem opaque_ne_slashed {text rest : List Char} (h : text.head? ≠ some '/') :
    Percent.encode Percent.isControl (text.takeWhile (!endsPath ·)) ≠ '/' :: rest := by
  intro hpath
  cases htake : text.takeWhile (!endsPath ·) with
  | nil =>
    rw [htake] at hpath
    cases hpath
  | cons c front =>
    have hc : c ≠ '/' := by
      rintro rfl
      obtain ⟨back, hback⟩ := htake ▸ List.takeWhile_prefix (!endsPath ·) (l := text)
      exact h (hback ▸ rfl)
    rw [htake, Percent.encode, List.flatMap_cons] at hpath
    split at hpath
    next =>
      have hne : String.utf8EncodeChar c ≠ [] := by
        rw [← List.length_pos_iff, String.length_utf8EncodeChar]
        exact Char.utf8Size_pos c
      obtain ⟨b, bytes, hbytes⟩ := List.exists_cons_of_ne_nil hne
      rw [hbytes, List.flatMap_cons] at hpath
      cases hpath
    next => exact hc (List.cons.inj hpath).1

/-- **What URLs of ordinary schemes are made of.** -/
theorem parsePlain_parts {scheme text : List Char} {url : Url}
    (h : parsePlain scheme text = .ok url) :
    url.scheme = scheme ∧ (∀ host, url.host = some host → IsHost host) ∧
      ∀ rest, url.path = '/' :: rest → Settled rest := by
  unfold parsePlain at h
  split at h
  next text =>
    rcases hauthority : takeAuthority .plain text with error | ⟨host, port, after⟩
    · rw [hauthority] at h
      cases h
    · rw [hauthority] at h
      cases h
      refine ⟨rfl, ?_, fun _ => settled_of_pathAfterAuthority⟩
      rintro name rfl
      exact isHost_of_takeAuthority hauthority
  next =>
    cases h
    exact ⟨rfl, nofun, fun _ => settled_of_slashedPath⟩
  next text _ hslash =>
    cases h
    refine ⟨rfl, nofun, fun rest hpath => absurd hpath (opaque_ne_slashed ?_)⟩
    intro hhead
    obtain ⟨rest, rfl⟩ := List.head?_eq_some_iff.1 hhead
    exact hslash rest rfl

theorem scheme_of_parseNamed {scheme rest : List Char} {url : Url}
    (h : parseNamed scheme rest = .ok url) : url.scheme = scheme := by
  unfold parseNamed at h
  dsimp only at h
  rcases hauthority : takeAuthority .named _ with error | parts
  · rw [hauthority] at h
    cases h
  · rw [hauthority] at h
    cases h
    rfl

theorem scheme_of_parseFile {scheme rest : List Char} {url : Url}
    (h : parseFile scheme rest = .ok url) : url.scheme = scheme := by
  unfold parseFile at h
  dsimp only at h
  split at h
  next a b text =>
    split at h
    next =>
      split at h
      next => cases h; rfl
      next =>
        rcases hhost : namedHost _ with error | name
        · rw [hhost] at h
          cases h
        · rw [hhost] at h
          cases h
          rfl
    next => cases h; rfl
  next => cases h; rfl

theorem Url.parse_parts {text : List Char} {url : Url} (h : Url.parse text = .ok url)
    (hkind : SchemeKind.of url.scheme = .plain) :
    (∀ host, url.host = some host → IsHost host) ∧
      ∀ rest, url.path = '/' :: rest → Settled rest := by
  unfold Url.parse at h
  split at h
  next => cases h
  next scheme rest _ =>
    split at h
    next => exact (parsePlain_parts h).2
    next hnamed =>
      rw [scheme_of_parseNamed h, hnamed] at hkind
      cases hkind
    next hfile =>
      rw [scheme_of_parseFile h, hfile] at hkind
      cases hkind

/-! ## The text around -/

theorem trimEndOf_append {p : Char → Bool} {front : List Char} (h : ∀ c ∈ front, p c = false)
    (text : List Char) : Text.trimEndOf p (front ++ text) = front ++ Text.trimEndOf p text := by
  have hfront : front.reverse.dropWhile p = front.reverse := by
    cases hrev : front.reverse with
    | nil => rfl
    | cons c rest =>
      have hmem : c ∈ front := List.mem_reverse.1 (hrev ▸ List.mem_cons_self)
      rw [List.dropWhile_cons_of_neg (by simp [h c hmem])]
  rw [Text.trimEndOf, Text.trimEndOf, List.reverse_append, List.dropWhile_append, hfront]
  split
  next hempty => simp [List.isEmpty_iff.1 hempty]
  next => simp

/-- What a text begins with is not stripped, if it is free of blanks and controls. -/
theorem strip_append {front : List Char} (hne : front ≠ []) (h : ∀ c ∈ front, 0x20 < c.toNat)
    (text : List Char) :
    strip (front ++ text) =
      front ++ (Text.trimEndOf (·.toNat ≤ 0x20) text).filter (· ∉ ['\t', '\n', '\r']) := by
  have houter : ∀ c ∈ front, decide (c.toNat ≤ 0x20) = false := fun c hc => by
    simpa using h c hc
  have hbreak : front.filter (· ∉ ['\t', '\n', '\r']) = front := by
    refine List.filter_eq_self.2 fun c hc => ?_
    have hc := h c hc
    simp only [List.mem_cons, List.not_mem_nil, or_false, decide_eq_true_eq, not_or]
    refine ⟨?_, ?_, ?_⟩ <;>
      · rintro rfl
        revert hc
        decide
  have hdrop : (front ++ text).dropWhile (·.toNat ≤ 0x20) = front ++ text := by
    obtain ⟨c, rest, rfl⟩ := List.exists_cons_of_ne_nil hne
    rw [List.cons_append, List.dropWhile_cons_of_neg (by simp [houter c List.mem_cons_self])]
  simp only [strip]
  rw [hdrop, trimEndOf_append houter, List.filter_append, hbreak]

/-- A text without blanks and controls is not stripped of anything. -/
theorem strip_eq_self {text : List Char} (hne : text ≠ []) (h : ∀ c ∈ text, 0x20 < c.toNat) :
    strip text = text := by
  have hstrip := strip_append hne h []
  rwa [List.append_nil, Text.trimEndOf, List.reverse_nil, List.dropWhile_nil, List.reverse_nil,
    List.filter_nil, List.append_nil] at hstrip

theorem Url.parse_eq {text scheme rest : List Char}
    (hcut : cutScheme (strip text) = some (scheme, rest)) (hkind : SchemeKind.of scheme = .plain) :
    Url.parse text = parsePlain scheme rest := by
  rw [Url.parse, hcut]
  simp only [hkind]

end MountControl.Net
