/-
  MountControl — issues tell the lines that they are about.

  The reader counts lines as it goes on, over values that have line feeds in
  them and past what is left behind such a value.  Here the records of a text
  are found by the grammar instead, each with all that stands before it.

  * `Spots` are the records and what else is found on the way, from one line
    to the next;
  * `Spots.items_eq`: the reader hands out just these, each with the number of
    line feeds before it;
  * `Spots.pairwise_before`: and they come one behind the other;
  * `issues_tell_their_lines`: so each issue has the line of what it is about.
-/
import MountControl.Proofs.Wire.Grammar
import MountControl.Proofs.Wire.Groups

namespace MountControl.Text

/-! ## Whole lines -/

/-- The first line, with the line feed that ends it. -/
def wholeLine (text : List Char) : List Char := line text ++ (text.dropWhile (· != '\n')).take 1

theorem wholeLine_append_afterLine (text : List Char) :
    wholeLine text ++ afterLine text = text := by
  rw [wholeLine, afterLine, line, List.append_assoc, List.take_append_drop,
    List.takeWhile_append_dropWhile]

theorem wholeLine_append {front : List Char} (h : '\n' ∉ front) (rest : List Char) :
    wholeLine (front ++ '\n' :: rest) = front ++ ['\n'] := by
  rw [wholeLine, line_append h, dropWhile_append rest (ne_of_not_mem h) (by simp)]
  rfl

/-- Where something follows a line, a line feed has ended it. -/
theorem count_wholeLine {text : List Char} (h : afterLine text ≠ []) :
    (wholeLine text).count '\n' = 1 := by
  have hbreak : '\n' ∈ text := by
    by_contra hnone
    exact h (afterLine_of_not_mem hnone)
  obtain ⟨front, rest, rfl, hfront⟩ := List.eq_append_cons_of_mem hbreak
  rw [wholeLine_append hfront, List.count_append, List.count_eq_zero_of_not_mem hfront]
  rfl

end MountControl.Text

namespace MountControl.Wire

/-! ## Spots -/

/-- What is found in a body: a field, or something that cannot be read. -/
inductive Found
  | field (field : Field)
  | wrong (kind : IssueKind) (text : List Char)

/-- A spot in a text: all that stands before it, and what is found there. -/
structure Spot where
  before : List Char
  found : Found

/-- What is found on the first line of a text, if that has no counted record on it. -/
inductive OnLine (rest : List Char) : Found → Prop
  | badLength : Keyed rest → (∀ key value tail, ¬ CountedFront rest key value tail) →
      OnLine rest (.wrong .badLength (Text.line rest))
  | plain {field : Field} : ¬ Keyed rest → PlainLine (Text.line rest) field →
      OnLine rest (.field field)
  | fault {kind : IssueKind} : ¬ Keyed rest → Fault (Text.line rest) kind →
      OnLine rest (.wrong kind (Text.line rest))

/-- What is found stands at the front of a text: it is what the first line is, or a counted record,
    or what is left of a line behind a counted value. -/
inductive Stands (rest : List Char) : Found → Prop
  | line {found : Found} : OnLine rest found → Stands rest found
  | counted {key : CountedKey} {value tail : List Char} : CountedFront rest key value tail →
      Stands rest (.field (key.field (String.ofList value)))
  | leftover : Text.line rest ≠ [] → Stands rest (.wrong .trailingBytes (Text.line rest))

/-- The spots in the rest of a text, given what stands before it.  Nothing is counted here: each
    record starts behind the line on which the one before it ends. -/
inductive Spots : List Char → List Char → List Spot → Prop
  | ended {before : List Char} : Spots before [] []
  | line {before rest : List Char} {found : Found} {spots : List Spot} :
      rest ≠ [] → OnLine rest found →
      Spots (before ++ Text.wholeLine rest) (Text.afterLine rest) spots →
      Spots before rest (⟨before, found⟩ :: spots)
  | counted {before front value tail : List Char} {key : CountedKey} {spots : List Spot} :
      CountedFront (front ++ tail) key value tail → Text.line tail = [] →
      Spots (before ++ front ++ Text.wholeLine tail) (Text.afterLine tail) spots →
      Spots before (front ++ tail)
        (⟨before, .field (key.field (String.ofList value))⟩ :: spots)
  | trailing {before front value tail : List Char} {key : CountedKey} {spots : List Spot} :
      CountedFront (front ++ tail) key value tail → Text.line tail ≠ [] →
      Spots (before ++ front ++ Text.wholeLine tail) (Text.afterLine tail) spots →
      Spots before (front ++ tail)
        (⟨before, .field (key.field (String.ofList value))⟩ ::
          ⟨before ++ front, .wrong .trailingBytes (Text.line tail)⟩ :: spots)

/-- The spots in the body of a message. -/
def BodySpots (text : List Char) (spots : List Spot) : Prop :=
  Spots (Text.wholeLine text) (Text.afterLine text) spots

/-- The number of line feeds before a spot. -/
def Spot.line (spot : Spot) : Nat := spot.before.count '\n'

/-- What the reader should hand out for a spot. -/
def Spot.item (spot : Spot) : Item :=
  match spot.found with
  | .field field => .field spot.line field
  | .wrong kind text => .issue (.about spot.line kind text)

/-- The issue is about what is found at the spot. -/
def Spot.Draws (spot : Spot) (issue : Issue) : Prop :=
  match spot.found with
  | .field field => ∃ kind, issue = .about spot.line kind field.describe
  | .wrong kind text => issue = .about spot.line kind text

theorem Spot.line_item (spot : Spot) : spot.item.line = spot.line := by
  rcases spot with ⟨before, field | ⟨kind, text⟩⟩ <;> rfl

/-! ## Counted records -/

section
variable {rest front tail value : List Char} {key : CountedKey}

/-- A counted record has its line feeds in its value. -/
theorem CountedFront.count_front (h : CountedFront (front ++ tail) key value tail) :
    front.count '\n' = value.count '\n' := by
  generalize hrest : front ++ tail = rest at h
  cases h with
  | @intro name _ length _ _ hname hlength =>
    have hfront : front = name.toList ++ '|' :: (length ++ '|' :: value) :=
      List.append_cancel_right (by simpa using hrest)
    have hnames : ∀ spelling ∈ countedKeys, '\n' ∉ spelling.1.toList := by decide
    have hname : name.toList.count '\n' = 0 := List.count_eq_zero_of_not_mem (hnames _ hname)
    have hlength : length.count '\n' = 0 := List.count_eq_zero_of_not_mem hlength.not_mem.2
    simp [hfront, hname, hlength]

theorem CountedFront.exists_front (h : CountedFront rest key value tail) :
    ∃ front, front ≠ [] ∧ rest = front ++ tail := by
  cases h with
  | @intro name _ length => exact ⟨name.toList ++ '|' :: (length ++ '|' :: value), by simp⟩

end

/-! ## Reading -/

section
variable {before rest : List Char} {found : Found} {spots : List Spot}

theorem OnLine.recognized (h : OnLine rest found) (hne : rest ≠ []) :
    Recognized ⟨rest, before.count '\n', none⟩ (Spot.item ⟨before, found⟩)
      ⟨Text.afterLine rest, before.count '\n' + 1, none⟩ := by
  cases h with
  | badLength hkeyed hnone => exact .badLength hkeyed hnone
  | plain hkeyed hline => exact .plain hkeyed hline
  | fault hkeyed hfault => exact .fault hne hkeyed hfault

/-- **The reader hands out what is at the spots**, with the number of line feeds before it. -/
theorem Spots.items_eq (h : Spots before rest spots) {line : Nat}
    (hline : rest ≠ [] → line = before.count '\n') :
    Reader.items ⟨rest, line, none⟩ = spots.map Spot.item := by
  induction h generalizing line with
  | ended => exact items_of_end rfl
  | @line before rest found spots hne hfound _ ih =>
    obtain rfl := hline hne
    rw [items_of_next (next_of_recognized (hfound.recognized hne)), List.map_cons, ih]
    intro hmore
    rw [List.count_append, Text.count_wholeLine hmore]
  | @counted before front value tail key spots hfront htail _ ih =>
    obtain rfl := hline (ne_nil_of_keyed hfront.keyed)
    rw [items_of_next (next_of_recognized (.counted hfront htail)), List.map_cons, ih]
    · rfl
    · intro hmore
      rw [List.count_append, List.count_append, hfront.count_front, Text.count_wholeLine hmore]
  | @trailing before front value tail key spots hfront htail _ ih =>
    obtain rfl := hline (ne_nil_of_keyed hfront.keyed)
    -- the issue about the leftover is handed out with the next step
    rw [items_of_next (next_of_recognized (.trailing hfront htail)),
      items_of_next (next_of_recognized .late), List.map_cons, List.map_cons, ih]
    · rw [← hfront.count_front, ← List.count_append]
      rfl
    · intro hmore
      rw [List.count_append, List.count_append, hfront.count_front, Text.count_wholeLine hmore]

theorem exists_onLine (hnone : ∀ key value tail, ¬ CountedFront rest key value tail) :
    ∃ found, OnLine rest found := by
  by_cases hkeyed : Keyed rest
  · exact ⟨_, .badLength hkeyed hnone⟩
  · obtain ⟨field, hline⟩ | ⟨kind, hfault⟩ := plainLine_or_fault (Text.line rest)
    · exact ⟨_, .plain hkeyed hline⟩
    · exact ⟨_, .fault hkeyed hfault⟩

/-- **Every text has its spots.** -/
theorem exists_spots (before rest : List Char) : ∃ spots, Spots before rest spots := by
  induction hn : rest.length using Nat.strongRecOn generalizing before rest with
  | _ n ih =>
    subst hn
    by_cases hempty : rest = []
    · subst hempty
      exact ⟨[], .ended⟩
    by_cases hcounted : ∃ key value tail, CountedFront rest key value tail
    · obtain ⟨key, value, tail, hcounted⟩ := hcounted
      obtain ⟨front, hfront, rfl⟩ := hcounted.exists_front
      have hshort : (Text.afterLine tail).length < (front ++ tail).length := by
        have hpos := List.length_pos_iff.2 hfront
        have hle := length_afterLine_le tail
        rw [List.length_append]
        omega
      obtain ⟨spots, hspots⟩ := ih _ hshort (before ++ front ++ Text.wholeLine tail) _ rfl
      by_cases htail : Text.line tail = []
      · exact ⟨_, .counted hcounted htail hspots⟩
      · exact ⟨_, .trailing hcounted htail hspots⟩
    · obtain ⟨found, hfound⟩ := exists_onLine fun key value tail hfront =>
        hcounted ⟨key, value, tail, hfront⟩
      obtain ⟨spots, hspots⟩ :=
        ih _ (length_afterLine_lt hempty) (before ++ Text.wholeLine rest) _ rfl
      exact ⟨_, .line hempty hfound hspots⟩

/-! ## Order -/

/-- At each spot of a text stands what is found there. -/
theorem Spots.stands (h : Spots before rest spots) :
    ∀ spot ∈ spots, ∃ later, before ++ rest = spot.before ++ later ∧ Stands later spot.found := by
  induction h with
  | ended => nofun
  | @line before rest found spots _ hfound _ ih =>
    rw [List.append_assoc, Text.wholeLine_append_afterLine] at ih
    exact List.forall_mem_cons.2 ⟨⟨rest, rfl, .line hfound⟩, ih⟩
  | @counted before front value tail key spots hfront _ _ ih =>
    rw [List.append_assoc, Text.wholeLine_append_afterLine, List.append_assoc] at ih
    exact List.forall_mem_cons.2 ⟨⟨_, rfl, .counted hfront⟩, ih⟩
  | @trailing before front value tail key spots hfront htail _ ih =>
    rw [List.append_assoc, Text.wholeLine_append_afterLine, List.append_assoc] at ih
    refine List.forall_mem_cons.2 ⟨⟨_, rfl, .counted hfront⟩, List.forall_mem_cons.2 ⟨?_, ih⟩⟩
    exact ⟨tail, (List.append_assoc ..).symm, .leftover htail⟩

theorem forall_prefix_of_append {front more : List Char}
    (h : ∀ spot ∈ spots, front ++ more <+: spot.before) :
    ∀ spot ∈ spots, front <+: spot.before := fun spot hspot =>
  (List.prefix_append front more).trans (h spot hspot)

theorem Spots.prefix_before (h : Spots before rest spots) :
    ∀ spot ∈ spots, before <+: spot.before := by
  induction h with
  | ended => nofun
  | line _ _ _ ih =>
    exact List.forall_mem_cons.2 ⟨List.prefix_rfl, forall_prefix_of_append ih⟩
  | counted _ _ _ ih =>
    have hlater := forall_prefix_of_append (forall_prefix_of_append ih)
    exact List.forall_mem_cons.2 ⟨List.prefix_rfl, hlater⟩
  | trailing _ _ _ ih =>
    have hlater := forall_prefix_of_append (forall_prefix_of_append ih)
    refine List.forall_mem_cons.2 ⟨List.prefix_rfl, List.forall_mem_cons.2 ⟨?_, hlater⟩⟩
    exact List.prefix_append _ _

/-- **The spots come one behind the other.** -/
theorem Spots.pairwise_before (h : Spots before rest spots) :
    spots.Pairwise (·.before <+: ·.before) := by
  induction h with
  | ended => exact .nil
  | line _ _ hspots ih => exact .cons (forall_prefix_of_append hspots.prefix_before) ih
  | counted _ _ hspots ih =>
    have hlater := forall_prefix_of_append hspots.prefix_before
    exact .cons (forall_prefix_of_append hlater) ih
  | trailing _ _ hspots ih =>
    have hlater := forall_prefix_of_append hspots.prefix_before
    refine .cons (List.forall_mem_cons.2 ⟨?_, forall_prefix_of_append hlater⟩) (.cons hlater ih)
    exact List.prefix_append _ _

end

/-! ## Issues -/

section
variable {objection : List Field → Field → Option IssueKind} {spots : List Spot}

theorem lines_complaints (items : List Item) (before : List Field) :
    ((complaints objection before items).map Issue.line).Sublist (items.map Item.line) := by
  induction items generalizing before with
  | nil => exact .slnil
  | cons item items ih =>
    cases item with
    | issue issue => exact (ih before).cons_cons _
    | field line field =>
      rw [complaints, List.map_append, List.map_cons]
      cases objection before field with
      | none => exact (ih _).cons _
      | some kind => exact (ih _).cons_cons _

theorem draws_of_mem_complaints {issue : Issue} {before : List Field}
    (h : issue ∈ complaints objection before (spots.map Spot.item)) :
    ∃ spot ∈ spots, spot.Draws issue := by
  induction spots generalizing before with
  | nil => cases h
  | cons spot spots ih =>
    have hlater : ∀ before, issue ∈ complaints objection before (spots.map Spot.item) →
        ∃ other ∈ spot :: spots, other.Draws issue := by
      intro before hissue
      obtain ⟨other, hother, hdraws⟩ := ih hissue
      exact ⟨other, List.mem_cons_of_mem _ hother, hdraws⟩
    rcases spot with ⟨front, field | ⟨kind, text⟩⟩
    · rcases List.mem_append.1 h with hissue | hissue
      · obtain ⟨kind, -, rfl⟩ : ∃ kind, objection before field = some kind ∧
            Issue.about (Spot.line ⟨front, .field field⟩) kind field.describe = issue := by
          simpa using hissue
        exact ⟨_, List.mem_cons_self, kind, rfl⟩
      · exact hlater _ hissue
    · rcases List.mem_cons.1 h with rfl | hissue
      · exact ⟨_, List.mem_cons_self, rfl⟩
      · exact hlater _ hissue

/-- The issues are those that what is found gives rise to; each is about one of the spots and has
    its line, and they are in the order of lines. -/
structure Located (objection : List Field → Field → Option IssueKind) (spots : List Spot)
    (issues : List Issue) : Prop where
  complete : issues = complaints objection [] (spots.map Spot.item)
  drawn : ∀ issue ∈ issues, ∃ spot ∈ spots, issue.line = spot.before.count '\n' ∧ spot.Draws issue
  ordered : (issues.map Issue.line).Pairwise (· ≤ ·)

theorem Spot.Draws.line_eq {spot : Spot} {issue : Issue} (h : spot.Draws issue) :
    issue.line = spot.before.count '\n' := by
  rcases spot with ⟨before, field | ⟨kind, text⟩⟩
  · obtain ⟨kind, rfl⟩ := h
    rfl
  · cases h
    rfl

theorem located_of_spots {text : List Char} (h : BodySpots text spots) {issues : List Issue}
    (hissues : issues = complaints objection [] (Reader.items ⟨Text.afterLine text, 1, none⟩)) :
    Located objection spots issues := by
  unfold BodySpots at h
  rw [h.items_eq fun hbody => (Text.count_wholeLine hbody).symm] at hissues
  subst hissues
  refine ⟨rfl, fun issue hissue => ?_, ?_⟩
  · obtain ⟨spot, hspot, hdraws⟩ := draws_of_mem_complaints hissue
    exact ⟨spot, hspot, hdraws.line_eq, hdraws⟩
  · have hspots : (spots.map Spot.line).Pairwise (· ≤ ·) :=
      List.pairwise_map.2 (h.pairwise_before.imp fun hprefix => hprefix.sublist.count_le _)
    have hlines : (spots.map Spot.item).map Item.line = spots.map Spot.line := by
      rw [List.map_map]
      exact List.map_congr_left fun spot _ => spot.line_item
    rw [← hlines] at hspots
    exact hspots.sublist (lines_complaints _ [])

end

/-- **Issues tell the lines that they are about.**  Of a request of any kind that is understood, and
    of a data reply, each issue is about a record, or about what is left behind one, and has as its
    line the number of line feeds in all that stands before that.  The issues are in the order of
    their lines. -/
theorem issues_tell_their_lines (text : List Char) :
    (∃ spots, BodySpots text spots) ∧
    ∀ spots, BodySpots text spots →
      (∀ spot ∈ spots, ∃ rest, text = spot.before ++ rest ∧ Stands rest spot.found) ∧
      ((Request.ofKind (Text.line text)).Known →
        Located (objection (Request.ofKind (Text.line text)).takes) spots
          (Request.decode text).issues) ∧
      (Text.line text = kindData.toList → Text.afterLine text ≠ [] →
        ∃ decoded, Reply.decode text = .ok decoded ∧
          Located dataObjection spots decoded.issues) := by
  refine ⟨exists_spots _ _, fun spots hspots => ⟨?_, fun hknown => ?_, fun hkind hbody => ?_⟩⟩
  · have hstands := hspots.stands
    rwa [Text.wholeLine_append_afterLine] at hstands
  · exact located_of_spots hspots (Request.decode_follows hknown).2
  · refine ⟨_, Reply.decode_data_line hkind hbody, ?_⟩
    exact located_of_spots hspots (decodeData_issues _)

/-- A label of two lines with something behind it, an empty line, a repeat, a field without a place
    and a length that is too large, in a request; and some of that in a data reply. -/
theorem issues_tell_their_lines_mixed :
    let request := ("DrvMounted\nLabel|3|a\nbX\n\nInstanceID|7\nInstanceID|8\nEntry\n" ++
      "label|9|c").toList
    let reply := "Data\nLabel|3|a\nbX\nNo Entries\n\n".toList
    (Request.ofKind (Text.line request)).Known ∧
      (Request.decode request).issues.map (fun issue => (issue.line, issue.kind)) =
        [(2, .trailingBytes), (3, .emptyLine), (5, .duplicateField), (6, .unexpectedField),
          (7, .badLength)] ∧
      (∀ issue ∈ (Request.decode request).issues, ∃ front rest,
        request = front ++ rest ∧ issue.line = front.count '\n') ∧
    Text.line reply = kindData.toList ∧ Text.afterLine reply ≠ [] ∧
      ∃ decoded, Reply.decode reply = .ok decoded ∧
        decoded.issues = [⟨2, .trailingBytes, "X"⟩, ⟨3, .unexpectedField, "NoEntries"⟩,
          ⟨4, .emptyLine, ""⟩] := by
  intro request reply
  have hknown : (Request.ofKind (Text.line request)).Known := nofun
  have hkind : Text.line reply = kindData.toList := by decide
  have hbody : Text.afterLine reply ≠ [] := by decide
  obtain ⟨⟨spots, hspots⟩, hall⟩ := issues_tell_their_lines request
  obtain ⟨hstands, hrequest, -⟩ := hall spots hspots
  obtain ⟨⟨others, hothers⟩, hall⟩ := issues_tell_their_lines reply
  obtain ⟨-, -, hreply⟩ := hall others hothers
  obtain ⟨decoded, hdecode, -⟩ := hreply hkind hbody
  refine ⟨hknown, by decide +kernel, fun issue hissue => ?_, hkind, hbody, decoded, hdecode, ?_⟩
  · obtain ⟨spot, hspot, hline, -⟩ := (hrequest hknown).drawn issue hissue
    obtain ⟨rest, htext, -⟩ := hstands spot hspot
    exact ⟨spot.before, rest, htext, hline⟩
  · have hissues : (Reply.decode reply).map Decoded.issues = .ok [⟨2, .trailingBytes, "X"⟩,
        ⟨3, .unexpectedField, "NoEntries"⟩, ⟨4, .emptyLine, ""⟩] := by decide +kernel
    rw [hdecode] at hissues
    exact Except.ok.inj hissues

end MountControl.Wire
