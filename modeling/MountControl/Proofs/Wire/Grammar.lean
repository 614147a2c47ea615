/-
  MountControl — the grammar of records.

  The reader takes its text to pieces by functions; here is what it takes for
  a record, said of the text at once.  A counted record starts with a counted
  key, a bar, a length and one more bar, and has as many bytes as the length
  says behind it; a plain one is a line.

  * `CountedFront` and `PlainLine` are the records of the two kinds, and
    `Fault` is what is wrong with a line that is neither;
  * `ofLine_eq_ok_iff` and `ofLine_eq_error_iff`: a line is read by that;
  * `countedFront_iff`: and so are counted records;
  * `next_by_grammar`: hence each step of the reader goes by the grammar.
-/
import MountControl.Proofs.Volume.Identifier
import MountControl.Proofs.Wire.Reencoding

namespace MountControl.Volume

open Text.Numeral (Spells value?_eq_some_iff)

/-! ## Identifiers -/

theorem Uuid.mem_of_dehyphenate? {sizes : List Nat} {text digits : List Char}
    (h : dehyphenate? sizes text = some digits) : ∀ c ∈ text, c = '-' ∨ c ∈ digits := by
  fun_induction dehyphenate? sizes text generalizing digits with
  | case1 => cases h
  | case2 => cases h; exact fun c hc => .inr hc
  | case3 => cases h
  | case4 size sizes text hsizes rest hrest ih =>
    obtain ⟨inner, hinner, rfl⟩ := Option.map_eq_some_iff.1 h
    intro c hc
    rw [← List.take_append_drop size text, hrest, List.mem_append, List.mem_cons] at hc
    rcases hc with hc | rfl | hc
    · exact .inr (List.mem_append_left _ hc)
    · exact .inl rfl
    · exact (ih hinner c hc).imp_right (List.mem_append_right _)
  | case5 => cases h

theorem Uuid.noBar_of_ofDigits? {text : List Char} {id : Uuid} (h : ofDigits? text = some id) :
    '|' ∉ text := by
  rw [ofDigits?] at h
  split at h
  next =>
    obtain ⟨n, hread, -⟩ := Option.map_eq_some_iff.1 h
    exact (value?_eq_some_iff.1 hread).not_mem rfl
  next => cases h

theorem Uuid.noBar_of_ofGrouped? {text : List Char} {id : Uuid} (h : ofGrouped? text = some id) :
    '|' ∉ text := by
  obtain ⟨digits, hdigits, hread⟩ := Option.bind_eq_some_iff.1 h
  intro hmem
  rcases mem_of_dehyphenate? hdigits _ hmem with hhyphen | hmem
  · revert hhyphen; decide
  · exact noBar_of_ofDigits? hread hmem

theorem Uuid.eq_of_unbrace? {text inner : List Char} (h : unbrace? text = some inner) :
    text = '\x7b' :: (inner ++ ['\x7d']) := by
  rw [unbrace?.eq_def] at h
  split at h
  next rest hlast =>
    cases h
    have hne : rest ≠ [] := by rintro rfl; revert hlast; decide
    rw [List.getLast?_cons_of_ne_nil hne] at hlast
    rw [List.dropLast_append_getLast?]
    exact hlast
  next => cases h

theorem Uuid.noBar_of_afterUrn? {text rest : List Char} (h : afterUrn? text = some rest)
    (hrest : '|' ∉ rest) : '|' ∉ text := by
  simp only [afterUrn?] at h
  split at h
  next hurn =>
    cases h
    intro hmem
    rw [← List.take_append_drop "urn:uuid:".toList.length text, List.mem_append] at hmem
    rcases hmem with hmem | hmem
    · -- a bar would still be one in lower case
      have hlower := List.mem_map_of_mem (f := Char.toLower) hmem
      rw [hurn] at hlower
      revert hlower
      decide
    · exact hrest hmem
  next => cases h

/-- None of the four forms has a bar in it. -/
theorem Uuid.noBar_of_parse? {text : List Char} {id : Uuid} (h : Uuid.parse? text = some id) :
    '|' ∉ text := by
  rw [parse?] at h
  split at h
  next => exact noBar_of_ofDigits? h
  next => exact noBar_of_ofGrouped? h
  next =>
    obtain ⟨inner, hinner, hread⟩ := Option.bind_eq_some_iff.1 h
    rw [eq_of_unbrace? hinner]
    simp [noBar_of_ofGrouped? hread]
  next =>
    obtain ⟨rest, hrest, hread⟩ := Option.bind_eq_some_iff.1 h
    exact noBar_of_afterUrn? hrest (noBar_of_ofGrouped? hread)
  next => cases h

end MountControl.Volume

namespace MountControl.Wire

open Text.Numeral (Decimal Spells)
open Volume (InstanceId State Uuid)

/-! ## The grammar -/

/-- A counted record at the front of a text: its key is one of the spellings, its length a decimal
    number, and the value has so many bytes.  The tail is what is left. -/
inductive CountedFront : List Char → CountedKey → List Char → List Char → Prop
  | intro {name : String} {key : CountedKey} {length value tail : List Char} :
      (name, key) ∈ countedKeys → Decimal length (Text.byteLength value) →
      Text.byteLength value < UInt64.size →
      CountedFront (name.toList ++ '|' :: (length ++ '|' :: (value ++ tail))) key value tail

/-- Does the first line start with a counted key and a bar? -/
def Keyed (text : List Char) : Prop :=
  ∃ spelling ∈ countedKeys, spelling.1.toList ++ ['|'] <+: Text.line text

/-- A line that is a record on its own. -/
inductive PlainLine : List Char → Field → Prop
  | entry : PlainLine "Entry".toList .entry
  | noEntries : PlainLine "No Entries".toList .noEntries
  | testRun : PlainLine "Option|TestRun".toList (.testRun true)
  | testRunTrue : PlainLine "Option|TestRun|True".toList (.testRun true)
  | testRunFalse : PlainLine "Option|TestRun|False".toList (.testRun false)
  | subvolId {value : List Char} {id : UInt64} : Decimal value id.toNat →
      PlainLine ("Option|SubvolID|".toList ++ value) (.subvolId id)
  | instanceId {value : List Char} {id : InstanceId} : value.length ≤ 16 →
      Spells 16 value id.value.toNat → PlainLine ("InstanceID|".toList ++ value) (.instanceId id)
  | starting : PlainLine "State|Starting".toList (.state .starting)
  | mounted : PlainLine "State|Mounted".toList (.state .mounted)
  | fsUuid {key : String} {value : List Char} {id : Uuid} : key ∈ ["FSUUID|", "fsUUID|"] →
      Uuid.parse? value = some id → PlainLine (key.toList ++ value) (.fsUuid id)

/-- The keys of plain records, and what is wrong with a record whose value cannot be read. -/
def plainKeys : List (String × IssueKind) :=
  [(keySubvolId, .badNumber), (keyTestRun, .badValue), (keyInstanceId, .badValue),
   (keyState, .badValue), (keyFsUuid, .badValue), ("fsUUID", .badValue)]

/-- What is wrong with a line that is no plain record. -/
inductive Fault : List Char → IssueKind → Prop
  | empty : Fault [] .emptyLine
  | value {key : String} {value : List Char} {kind : IssueKind} : (key, kind) ∈ plainKeys →
      '|' ∉ value → (∀ field, ¬ PlainLine (key.toList ++ '|' :: value) field) →
      Fault (key.toList ++ '|' :: value) kind
  | key {line : List Char} : line ≠ [] → (∀ field, ¬ PlainLine line field) →
      (∀ spelling ∈ plainKeys, ∀ value, '|' ∉ value → line ≠ spelling.1.toList ++ '|' :: value) →
      Fault line .unknownField

/-- What one step of the reader does: the item that it makes of the text, and where it stands
    then.  A counted record ends with the line on which its value does: what else stands there is
    dropped, and reported with the step after.  Anything but a counted record is one line. -/
inductive Recognized : Reader → Item → Reader → Prop
  | late {rest : List Char} {line : Nat} {issue : Issue} :
      Recognized ⟨rest, line, some issue⟩ (.issue issue) ⟨rest, line, none⟩
  | counted {rest value tail : List Char} {line : Nat} {key : CountedKey} :
      CountedFront rest key value tail → Text.line tail = [] →
      Recognized ⟨rest, line, none⟩ (.field line (key.field (String.ofList value)))
        ⟨Text.afterLine tail, line + value.count '\n' + 1, none⟩
  | trailing {rest value tail : List Char} {line : Nat} {key : CountedKey} :
      CountedFront rest key value tail → Text.line tail ≠ [] →
      Recognized ⟨rest, line, none⟩ (.field line (key.field (String.ofList value)))
        ⟨Text.afterLine tail, line + value.count '\n' + 1,
          some (.about (line + value.count '\n') .trailingBytes (Text.line tail))⟩
  | badLength {rest : List Char} {line : Nat} : Keyed rest →
      (∀ key value tail, ¬ CountedFront rest key value tail) →
      Recognized ⟨rest, line, none⟩ (.issue (.about line .badLength (Text.line rest)))
        ⟨Text.afterLine rest, line + 1, none⟩
  | plain {rest : List Char} {line : Nat} {field : Field} : ¬ Keyed rest →
      PlainLine (Text.line rest) field →
      Recognized ⟨rest, line, none⟩ (.field line field) ⟨Text.afterLine rest, line + 1, none⟩
  | fault {rest : List Char} {line : Nat} {kind : IssueKind} : rest ≠ [] → ¬ Keyed rest →
      Fault (Text.line rest) kind →
      Recognized ⟨rest, line, none⟩ (.issue (.about line kind (Text.line rest)))
        ⟨Text.afterLine rest, line + 1, none⟩

/-! ## Plain lines -/

theorem ofLine_of_plainLine {line : List Char} {field : Field} (h : PlainLine line field) :
    Field.ofLine line = .ok field := by
  cases h with
  | entry | noEntries | testRun | testRunTrue | testRunFalse | starting | mounted => rfl
  | @subvolId value id hvalue =>
    show Field.ofLine (keySubvolId.toList ++ '|' :: value) = _
    rw [ofLine_keyed hvalue.not_mem.1 (by simp [keySubvolId, keyTestRun]), if_pos rfl,
      number?_eq_some_iff.2 hvalue]
    rfl
  | @instanceId value id hshort hvalue =>
    show Field.ofLine (keyInstanceId.toList ++ '|' :: value) = _
    rw [ofLine_keyed (hvalue.not_mem rfl) (by simp [keyInstanceId, keyTestRun]),
      InstanceId.parse?_eq_some_iff.2 ⟨hshort, hvalue⟩]
    rfl
  | @fsUuid key value id hkey hvalue =>
    have hbar := Uuid.noBar_of_parse? hvalue
    simp only [List.mem_cons, List.not_mem_nil, or_false] at hkey
    rcases hkey with rfl | rfl
    · show Field.ofLine ("FSUUID".toList ++ '|' :: value) = _
      rw [ofLine_keyed hbar (by simp [keyTestRun]), hvalue]
      rfl
    · show Field.ofLine ("fsUUID".toList ++ '|' :: value) = _
      rw [ofLine_keyed hbar (by simp [keyTestRun]), hvalue]
      rfl

theorem plainLine_of_flag {value : List Char} {flag : Bool} (h : flag? value = some flag) :
    PlainLine ("Option|TestRun|".toList ++ value) (.testRun flag) := by
  rw [flag?] at h
  split at h
  next hvalue => cases h; rw [hvalue]; exact .testRunTrue
  split at h
  next hvalue => cases h; rw [hvalue]; exact .testRunFalse
  next => cases h

theorem plainLine_of_ofLine {line : List Char} {field : Field} (h : Field.ofLine line = .ok field) :
    PlainLine line field := by
  rw [Field.ofLine] at h
  split at h
  next heq => cases h; rw [heq]; exact .entry
  split at h
  next heq => cases h; rw [heq]; exact .noEntries
  split at h
  next heq => cases h; rw [heq]; exact .testRun
  split at h
  next => cases h
  next key value hcut =>
    obtain ⟨rfl, hbar⟩ := Text.of_cutLast_eq_some hcut
    split at h
    next hkey =>
      obtain ⟨id, hread, rfl⟩ := of_orIssue h
      rw [hkey]
      exact .subvolId (number?_eq_some_iff.1 hread)
    split at h
    next hkey =>
      obtain ⟨flag, hread, rfl⟩ := of_orIssue h
      rw [hkey]
      exact plainLine_of_flag hread
    split at h
    next hkey =>
      obtain ⟨id, hread, rfl⟩ := of_orIssue h
      obtain ⟨hshort, hspells⟩ := InstanceId.parse?_eq_some_iff.1 hread
      rw [hkey]
      exact .instanceId hshort hspells
    split at h
    next hkey =>
      obtain ⟨state, hread, rfl⟩ := of_orIssue h
      rw [hkey, State.eq_of_parse? hread]
      cases state with
      | starting => exact .starting
      | mounted => exact .mounted
    split at h
    next hkey =>
      obtain ⟨id, hread, rfl⟩ := of_orIssue h
      rcases hkey with rfl | rfl
      · show PlainLine ("FSUUID|".toList ++ value) _
        exact .fsUuid (by simp) hread
      · show PlainLine ("fsUUID|".toList ++ value) _
        exact .fsUuid (by simp) hread
    next => cases h

/-- **Just the plain records are read**, each as its field. -/
theorem ofLine_eq_ok_iff {line : List Char} {field : Field} :
    Field.ofLine line = .ok field ↔ PlainLine line field :=
  ⟨plainLine_of_ofLine, ofLine_of_plainLine⟩

theorem orIssue_map {α : Type} (kind : IssueKind) (value : Option α) (make : α → Field) :
    (∃ field, (orIssue kind value).map make = .ok field) ∨
      (orIssue kind value).map make = .error kind := by
  cases value with
  | none => exact .inr rfl
  | some a => exact .inl ⟨make a, rfl⟩

/-- A line with the key of a plain record has that record on it, or a value that cannot be read. -/
theorem ofLine_plainKey {key : String} {value : List Char} {kind : IssueKind}
    (hkey : (key, kind) ∈ plainKeys) (hbar : '|' ∉ value) :
    (∃ field, Field.ofLine (key.toList ++ '|' :: value) = .ok field) ∨
      Field.ofLine (key.toList ++ '|' :: value) = .error kind := by
  -- the last bar of the bare marker stands behind another key
  have hmarker : key.toList ++ '|' :: value ≠ keyTestRun.toList := by
    intro heq
    have hcut := Text.cutLast_append hbar key.toList
    rw [heq] at hcut
    obtain ⟨hname, -⟩ := Prod.mk.inj (Option.some.inj hcut)
    have hother : ∀ spelling ∈ plainKeys, "Option".toList ≠ spelling.1.toList := by decide
    exact hother _ hkey hname
  rw [ofLine_keyed hbar hmarker]
  simp only [plainKeys, List.mem_cons, Prod.mk.injEq, List.not_mem_nil, or_false] at hkey
  rcases hkey with ⟨rfl, rfl⟩ | ⟨rfl, rfl⟩ | ⟨rfl, rfl⟩ | ⟨rfl, rfl⟩ | ⟨rfl, rfl⟩ | ⟨rfl, rfl⟩ <;>
    exact orIssue_map _ _ _

theorem ofLine_of_no_key {line : List Char}
    (hkey : ∀ spelling ∈ plainKeys, ∀ value, '|' ∉ value →
      line ≠ spelling.1.toList ++ '|' :: value)
    (hplain : ∀ field, ¬ PlainLine line field) : Field.ofLine line = .error .unknownField := by
  rw [Field.ofLine, if_neg, if_neg, if_neg]
  · split
    next => rfl
    next key value hcut =>
      obtain ⟨rfl, hbar⟩ := Text.of_cutLast_eq_some hcut
      have hne : ∀ spelling ∈ plainKeys, key ≠ spelling.1.toList := by
        rintro spelling hmem rfl
        exact hkey spelling hmem value hbar rfl
      simp only [plainKeys, List.forall_mem_cons] at hne
      obtain ⟨hsubvolId, htestRun, hinstanceId, hstate, hfsUuid, holder, -⟩ := hne
      rw [if_neg hsubvolId, if_neg htestRun, if_neg hinstanceId, if_neg hstate, if_neg]
      rintro (heq | heq)
      · exact hfsUuid heq
      · exact holder heq
  · rintro rfl; exact hplain _ .testRun
  · rintro rfl; exact hplain _ .noEntries
  · rintro rfl; exact hplain _ .entry

theorem not_plainLine_of_error {line : List Char} {kind : IssueKind}
    (h : Field.ofLine line = .error kind) (field : Field) : ¬ PlainLine line field := by
  intro hline
  rw [ofLine_eq_ok_iff.2 hline] at h
  cases h

/-- **A line is a plain record or has one fault**, and this is what is wrong with it. -/
theorem ofLine_eq_error_iff {line : List Char} {kind : IssueKind} (hne : line ≠ []) :
    Field.ofLine line = .error kind ↔ Fault line kind := by
  constructor
  · intro h
    have hnone := not_plainLine_of_error h
    by_cases hkey : ∀ spelling ∈ plainKeys, ∀ value, '|' ∉ value →
        line ≠ spelling.1.toList ++ '|' :: value
    · rw [ofLine_of_no_key hkey hnone] at h
      cases h
      exact .key hne hnone hkey
    · push Not at hkey
      obtain ⟨⟨key, other⟩, hmem, value, hbar, rfl⟩ := hkey
      obtain ⟨field, hread⟩ | hread := ofLine_plainKey hmem hbar
      · exact absurd (ofLine_eq_ok_iff.1 hread) (hnone field)
      · rw [hread] at h
        cases h
        exact .value hmem hbar hnone
  · intro h
    cases h with
    | empty => exact absurd rfl hne
    | value hmem hbar hnone =>
      obtain ⟨field, hread⟩ | hread := ofLine_plainKey hmem hbar
      · exact absurd (ofLine_eq_ok_iff.1 hread) (hnone field)
      · exact hread
    | key _ hnone hkey => exact ofLine_of_no_key hkey hnone

theorem plainItem_of_plainLine {number : Nat} {line : List Char} {field : Field}
    (h : PlainLine line field) : plainItem number line = .field number field := by
  have hread := ofLine_eq_ok_iff.2 h
  have hne : line.isEmpty = false := by
    rw [List.isEmpty_eq_false_iff]
    rintro rfl
    cases hread
  simp only [plainItem, hne, hread, Bool.false_eq_true, if_false]

theorem plainItem_of_fault {number : Nat} {line : List Char} {kind : IssueKind}
    (h : Fault line kind) : plainItem number line = .issue (.about number kind line) := by
  rcases eq_or_ne line [] with hempty | hne
  · cases h with
    | empty => rfl
    | value => simp at hempty
    | key hne => exact absurd hempty hne
  · have hread := (ofLine_eq_error_iff hne).2 h
    simp only [plainItem, List.isEmpty_eq_false_iff.2 hne, hread, Bool.false_eq_true, if_false]

theorem plainLine_or_fault (line : List Char) :
    (∃ field, PlainLine line field) ∨ ∃ kind, Fault line kind := by
  rcases eq_or_ne line [] with rfl | hne
  · exact .inr ⟨_, .empty⟩
  · cases hread : Field.ofLine line with
    | ok field => exact .inl ⟨field, ofLine_eq_ok_iff.1 hread⟩
    | error kind => exact .inr ⟨kind, (ofLine_eq_error_iff hne).1 hread⟩

/-! ## Counted records -/

theorem keyed_iff {text : List Char} : Keyed text ↔ ∃ p, countedKey? text = some p := by
  rw [← Option.isSome_iff_exists, Option.isSome_iff_ne_none, ne_eq, countedKey?_eq_none_iff]
  simp [Keyed]

theorem countedKey?_of_mem {name : String} {key : CountedKey} (h : (name, key) ∈ countedKeys)
    (afterKey : List Char) :
    countedKey? (name.toList ++ '|' :: afterKey) = some (key, afterKey) := by
  simp only [countedKeys, List.mem_cons, Prod.mk.injEq, List.not_mem_nil, or_false] at h
  rcases h with ⟨rfl, rfl⟩ | ⟨rfl, rfl⟩ | ⟨rfl, rfl⟩ | ⟨rfl, rfl⟩ | ⟨rfl, rfl⟩ | ⟨rfl, rfl⟩ |
    ⟨rfl, rfl⟩ | ⟨rfl, rfl⟩ <;> rfl

/-- **The two cuts find the counted records**, whatever their values hold. -/
theorem countedFront_iff {text value tail : List Char} {key : CountedKey} :
    CountedFront text key value tail ↔
      ∃ afterKey, countedKey? text = some (key, afterKey) ∧
        countedValue? afterKey = some (value, tail) := by
  constructor
  · rintro ⟨hname, hlength, hsize⟩
    refine ⟨_, countedKey?_of_mem hname _, ?_⟩
    rw [countedValue?_length hlength hsize, Text.splitBytes_append]
  · rintro ⟨afterKey, hkey, hvalue⟩
    obtain ⟨name, hname, rfl⟩ := exists_of_countedKey? hkey
    obtain ⟨length, bytes, hnumber, hbytes, rfl⟩ := exists_of_countedValue? hvalue
    have hlength := number?_eq_some_iff.1 hnumber
    rw [← hbytes] at hlength
    exact .intro hname hlength (hbytes ▸ bytes.toNat_lt)

/-! ## The reader -/

section
variable {rest value tail : List Char} {line : Nat} {key : CountedKey}

theorem ne_nil_of_keyed (h : Keyed rest) : rest ≠ [] := by
  rintro rfl
  obtain ⟨_, hkey⟩ := keyed_iff.1 h
  cases hkey

theorem CountedFront.keyed (h : CountedFront rest key value tail) : Keyed rest := by
  obtain ⟨afterKey, hkey, -⟩ := countedFront_iff.1 h
  exact keyed_iff.2 ⟨_, hkey⟩

theorem CountedFront.next (h : CountedFront rest key value tail) :
    Reader.next ⟨rest, line, none⟩ =
      some (.field line (key.field (String.ofList value)),
        Reader.afterValue ⟨rest, line, none⟩ value tail) := by
  have hne := List.isEmpty_eq_false_iff.2 (ne_nil_of_keyed h.keyed)
  obtain ⟨afterKey, hkey, hvalue⟩ := countedFront_iff.1 h
  simp only [Reader.next, hne, hkey, hvalue, Bool.false_eq_true, if_false]

theorem next_badLength (hkeyed : Keyed rest)
    (h : ∀ key value tail, ¬ CountedFront rest key value tail) :
    Reader.next ⟨rest, line, none⟩ =
      some (.issue (.about line .badLength (Text.line rest)),
        Reader.skipLine ⟨rest, line, none⟩) := by
  have hne := List.isEmpty_eq_false_iff.2 (ne_nil_of_keyed hkeyed)
  obtain ⟨⟨key, afterKey⟩, hkey⟩ := keyed_iff.1 hkeyed
  have hvalue : countedValue? afterKey = none := by
    rw [Option.eq_none_iff_forall_ne_some]
    exact fun ⟨value, tail⟩ hvalue => h key value tail (countedFront_iff.2 ⟨afterKey, hkey, hvalue⟩)
  simp only [Reader.next, hne, hkey, hvalue, Bool.false_eq_true, if_false]

theorem next_of_not_keyed (hne : rest ≠ []) (h : ¬ Keyed rest) :
    Reader.next ⟨rest, line, none⟩ =
      some (plainItem line (Text.line rest), Reader.skipLine ⟨rest, line, none⟩) := by
  have hkey : countedKey? rest = none := by
    rw [Option.eq_none_iff_forall_ne_some]
    exact fun p hp => h (keyed_iff.2 ⟨p, hp⟩)
  simp only [Reader.next, List.isEmpty_eq_false_iff.2 hne, hkey, Bool.false_eq_true, if_false]

end

theorem next_of_recognized {reader after : Reader} {item : Item}
    (h : Recognized reader item after) : reader.next = some (item, after) := by
  cases h with
  | late => rfl
  | counted hfront htail =>
    rw [hfront.next, Reader.afterValue, htail]
    rfl
  | trailing hfront htail =>
    have hsome := List.isEmpty_eq_false_iff.2 htail
    simp only [hfront.next, Reader.afterValue, hsome, Bool.false_eq_true, if_false]
  | badLength hkeyed hnone => exact next_badLength hkeyed hnone
  | @plain rest line field hkeyed hline =>
    have hne : rest ≠ [] := by
      rintro rfl
      cases ofLine_eq_ok_iff.2 hline
    rw [next_of_not_keyed hne hkeyed, plainItem_of_plainLine hline]
    rfl
  | fault hne hkeyed hfault =>
    rw [next_of_not_keyed hne hkeyed, plainItem_of_fault hfault]
    rfl

theorem exists_recognized {reader : Reader} (h : ¬ (reader.pending = none ∧ reader.rest = [])) :
    ∃ item after, Recognized reader item after := by
  obtain ⟨rest, line, _ | issue⟩ := reader
  · have hne : rest ≠ [] := fun hempty => h ⟨rfl, hempty⟩
    by_cases hkeyed : Keyed rest
    · by_cases hfront : ∃ key value tail, CountedFront rest key value tail
      · obtain ⟨key, value, tail, hfront⟩ := hfront
        by_cases htail : Text.line tail = []
        · exact ⟨_, _, .counted hfront htail⟩
        · exact ⟨_, _, .trailing hfront htail⟩
      · exact ⟨_, _, .badLength hkeyed fun key value tail hcounted =>
          hfront ⟨key, value, tail, hcounted⟩⟩
    · obtain ⟨field, hline⟩ | ⟨kind, hfault⟩ := plainLine_or_fault (Text.line rest)
      · exact ⟨_, _, .plain hkeyed hline⟩
      · exact ⟨_, _, .fault hne hkeyed hfault⟩
  · exact ⟨_, _, .late⟩

theorem next_eq_none_iff {reader : Reader} :
    reader.next = none ↔ reader.pending = none ∧ reader.rest = [] := by
  constructor
  · intro h
    by_contra hmore
    obtain ⟨item, after, hstep⟩ := exists_recognized hmore
    rw [next_of_recognized hstep] at h
    cases h
  · obtain ⟨rest, line, pending⟩ := reader
    rintro ⟨rfl, rfl⟩
    rfl

theorem recognized_of_next {reader after : Reader} {item : Item}
    (h : reader.next = some (item, after)) : Recognized reader item after := by
  have hmore : ¬ (reader.pending = none ∧ reader.rest = []) := by
    rw [← next_eq_none_iff, h]
    nofun
  obtain ⟨item', after', hstep⟩ := exists_recognized hmore
  rw [next_of_recognized hstep] at h
  cases h
  exact hstep

/-- **The reader recognizes exactly its grammar.**  It stops at the end, and each of its steps is
    the one that the records at the front of the text ask for. -/
theorem next_by_grammar (reader : Reader) :
    (reader.next = none ↔ reader.pending = none ∧ reader.rest = []) ∧
      ∀ item after, reader.next = some (item, after) ↔ Recognized reader item after :=
  ⟨next_eq_none_iff, fun _ _ => ⟨recognized_of_next, next_of_recognized⟩⟩

/-- The length reaches over a line feed, and not to the end of the second line. -/
example : Reader.next ⟨"label|+3|a\nbc\nEntry\n".toList, 1, none⟩ =
    some (.field 1 (.label "a\nb"), ⟨"Entry\n".toList, 3, some ⟨2, .trailingBytes, "c"⟩⟩) := by
  decide

end MountControl.Wire
