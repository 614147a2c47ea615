/-
  MountControl — a stray line hides nothing.

  A line that is no record is skipped with an issue.  All that stands before
  and after it is read as if the line were not there, only that what comes
  after it is said to stand one line further down.

  * `items_moved`: on which line a body starts is of no account for what is
    read in it;
  * `next_stray`: a stray line makes one item, an issue;
  * `readBody_stray`: hence a body with a stray line makes the same message,
    with one more issue;
  * `stray_line_hides_nothing` says so of requests and of data replies.
-/
import MountControl.Proofs.Wire.ReplyRoundTrip

namespace MountControl.Wire

/-! ## Further down -/

/-- The issue, some lines further down. -/
def Issue.moved (lines : Nat) (issue : Issue) : Issue :=
  { issue with line := issue.line + lines }

/-- The item, some lines further down. -/
def Item.moved (lines : Nat) : Item → Item
  | .field number read => .field (number + lines) read
  | .issue found => .issue (found.moved lines)

/-- The line of an item. -/
def Item.line : Item → Nat
  | .field number _ => number
  | .issue found => found.line

/-- The same position in a body that starts some lines further down. -/
def Reader.moved (lines : Nat) (reader : Reader) : Reader where
  rest := reader.rest
  line := reader.line + lines
  pending := reader.pending.map (Issue.moved lines)

theorem plainItem_moved (number lines : Nat) (line : List Char) :
    plainItem (number + lines) line = (plainItem number line).moved lines := by
  simp only [plainItem]
  split
  · rfl
  · split <;> rfl

theorem afterValue_moved (lines : Nat) (reader : Reader) (value tail : List Char) :
    (reader.moved lines).afterValue value tail = (reader.afterValue value tail).moved lines := by
  have hline : reader.line + lines + value.count '\n' = reader.line + value.count '\n' + lines :=
    Nat.add_right_comm ..
  simp only [Reader.afterValue, Reader.moved, hline]
  split
  · simp only [Option.map_none, Nat.add_right_comm]
  · simp only [Option.map_some, Issue.moved, Issue.about, Nat.add_right_comm]

theorem next_moved (lines : Nat) (reader : Reader) :
    (reader.moved lines).next =
      reader.next.map fun (item, after) => (item.moved lines, after.moved lines) := by
  have hskip : (reader.moved lines).skipLine = reader.skipLine.moved lines := by
    simp only [Reader.skipLine, Reader.moved, Option.map_none, Nat.add_right_comm]
  have hvalue := afterValue_moved lines reader
  rcases hpending : reader.pending with _ | issue
  · have hnone : (reader.moved lines).pending = none := by
      rw [Reader.moved, hpending]
      rfl
    have hrest : (reader.moved lines).rest = reader.rest := rfl
    have hline : (reader.moved lines).line = reader.line + lines := rfl
    simp only [Reader.next, hpending, hnone, hrest, hline, hskip, hvalue, plainItem_moved]
    split
    · rfl
    · split
      · rfl
      · split <;> rfl
  · have hsome : (reader.moved lines).pending = some (issue.moved lines) := by
      rw [Reader.moved, hpending]
      rfl
    simp only [Reader.next, hpending, hsome]
    rfl

/-- **On which line a body starts is of no account for what is read in it.** -/
theorem items_moved (lines : Nat) (reader : Reader) :
    (reader.moved lines).items = reader.items.map (Item.moved lines) := by
  induction hn : reader.remaining using Nat.strongRecOn generalizing reader with
  | _ n ih =>
    subst hn
    have hmoved := next_moved lines reader
    rcases hnext : reader.next with _ | ⟨item, after⟩
    · rw [hnext] at hmoved
      rw [items_of_end hnext, items_of_end hmoved, List.map_nil]
    · rw [hnext] at hmoved
      rw [items_of_next hnext, items_of_next hmoved, ih _ (Reader.remaining_next hnext) after rfl,
        List.map_cons]

/-! ## Lines -/

/-- A reader goes down only. -/
theorem le_line_of_next {reader after : Reader} {item : Item} {bound : Nat}
    (h : reader.next = some (item, after)) (hline : bound ≤ reader.line)
    (hpending : ∀ issue ∈ reader.pending, bound ≤ issue.line) :
    bound ≤ item.line ∧ bound ≤ after.line ∧ ∀ issue ∈ after.pending, bound ≤ issue.line := by
  rw [Reader.next] at h
  split at h
  next issue hissue =>
    cases h
    exact ⟨hpending issue hissue, hline, by simp⟩
  next =>
    split at h
    next => cases h
    next =>
      split at h
      next =>
        cases h
        refine ⟨?_, Nat.le_succ_of_le hline, by simp [Reader.skipLine]⟩
        rw [plainItem]
        split
        · exact hline
        · split <;> exact hline
      next =>
        split at h
        next =>
          cases h
          exact ⟨hline, Nat.le_succ_of_le hline, by simp [Reader.skipLine]⟩
        next value tail hvalue =>
          cases h
          have hle : bound ≤ reader.line + value.count '\n' := Nat.le_add_right_of_le hline
          refine ⟨hline, Nat.le_succ_of_le hle, ?_⟩
          simp only [Reader.afterValue]
          split
          · simp
          · rintro issue hissue
            cases hissue
            exact hle

theorem le_line_of_mem_items {reader : Reader} {bound : Nat} (hline : bound ≤ reader.line)
    (hpending : ∀ issue ∈ reader.pending, bound ≤ issue.line) :
    ∀ item ∈ reader.items, bound ≤ item.line := by
  induction hn : reader.remaining using Nat.strongRecOn generalizing reader with
  | _ n ih =>
    subst hn
    intro item hitem
    rcases hnext : reader.next with _ | ⟨first, after⟩
    · rw [items_of_end hnext] at hitem
      cases hitem
    · obtain ⟨hfirst, hafter, hlater⟩ := le_line_of_next hnext hline hpending
      rw [items_of_next hnext] at hitem
      rcases List.mem_cons.1 hitem with rfl | hitem
      · exact hfirst
      · exact ih _ (Reader.remaining_next hnext) hafter hlater rfl item hitem

/-- Every record ends its line. -/
theorem count_render_pos (field : Field) : 0 < field.render.count '\n' := by
  cases hc : field.counted? with
  | none =>
    obtain ⟨text, hrender, -⟩ := render_plain hc
    simp [hrender]
  | some value =>
    obtain ⟨key, rfl⟩ := exists_of_counted? hc
    rw [count_render_counted]
    exact Nat.succ_pos _

theorem lt_of_mem_recordLines {fields : List Field} {line number : Nat}
    (h : number ∈ recordLines line fields) :
    number < line + (fields.flatMap Field.render).count '\n' := by
  induction fields generalizing line with
  | nil => cases h
  | cons field fields ih =>
    have hpos := count_render_pos field
    rw [List.flatMap_cons, List.count_append]
    rcases List.mem_cons.1 h with rfl | h
    · omega
    · have hlt := ih h
      omega

theorem mem_zipWith_field {numbers : List Nat} {fields : List Field} {item : Item}
    (h : item ∈ List.zipWith Item.field numbers fields) :
    ∃ number field, number ∈ numbers ∧ field ∈ fields ∧ item = .field number field := by
  rw [← List.map_uncurry_zip_eq_zipWith] at h
  obtain ⟨⟨number, field⟩, hmem, rfl⟩ := List.mem_map.1 h
  obtain ⟨hnumber, hfield⟩ := List.of_mem_zip hmem
  exact ⟨number, field, hnumber, hfield, rfl⟩

/-! ## Messages -/

section
variable {α : Type} {accept : α → Field → Except IssueKind α}

theorem foldl_offer_moved (lines : Nat) (items : List Item) (message : α) (issues : List Issue) :
    (items.map (Item.moved lines)).foldl (Decoded.offer accept)
        ⟨message, issues.map (Issue.moved lines)⟩ =
      ⟨(items.foldl (Decoded.offer accept) ⟨message, issues⟩).message,
        (items.foldl (Decoded.offer accept) ⟨message, issues⟩).issues.map
          (Issue.moved lines)⟩ := by
  induction items generalizing message issues with
  | nil => rfl
  | cons item items ih =>
    rw [List.map_cons, List.foldl_cons, List.foldl_cons]
    cases item with
    | issue issue => exact ih message (issue :: issues)
    | field line field =>
      simp only [Item.moved, Decoded.offer]
      cases accept message field with
      | ok next => exact ih next issues
      | error kind => exact ih message (.about line kind field.describe :: issues)

/-- Issues that were met before stay where they are. -/
theorem foldl_offer_issues (items : List Item) (message : α) (issues : List Issue) :
    items.foldl (Decoded.offer accept) ⟨message, issues⟩ =
      ⟨(items.foldl (Decoded.offer accept) ⟨message, []⟩).message,
        (items.foldl (Decoded.offer accept) ⟨message, []⟩).issues ++ issues⟩ := by
  induction items generalizing message issues with
  | nil => rfl
  | cons item items ih =>
    rw [List.foldl_cons, List.foldl_cons]
    cases item with
    | issue issue =>
      simp only [Decoded.offer]
      rw [ih message (issue :: issues), ih message [issue], List.append_assoc]
      rfl
    | field line field =>
      simp only [Decoded.offer]
      cases accept message field with
      | ok next => exact ih next issues
      | error kind =>
        simp only
        rw [ih message (_ :: issues), ih message [_], List.append_assoc]
        rfl

/-- An issue stands where the item stands that it is about. -/
theorem line_of_mem_issues {items : List Item} {message : α} {issue : Issue}
    (h : issue ∈ (items.foldl (Decoded.offer accept) ⟨message, []⟩).issues) :
    ∃ item ∈ items, issue.line = item.line := by
  induction items generalizing message with
  | nil => cases h
  | cons item items ih =>
    have hlater : ∀ message : α,
        issue ∈ (items.foldl (Decoded.offer accept) ⟨message, []⟩).issues →
          ∃ other ∈ item :: items, issue.line = other.line := fun message h =>
      (ih h).imp fun _ ⟨hmem, hline⟩ => ⟨List.mem_cons_of_mem _ hmem, hline⟩
    rw [List.foldl_cons] at h
    cases item with
    | issue first =>
      simp only [Decoded.offer] at h
      rw [foldl_offer_issues] at h
      rcases List.mem_append.1 h with h | h
      · exact hlater _ h
      · rw [List.mem_singleton.1 h]
        exact ⟨_, List.mem_cons_self, rfl⟩
    | field line field =>
      simp only [Decoded.offer] at h
      split at h
      next next _ => exact hlater next h
      next kind _ =>
        rw [foldl_offer_issues] at h
        rcases List.mem_append.1 h with h | h
        · exact hlater _ h
        · rw [List.mem_singleton.1 h]
          exact ⟨_, List.mem_cons_self, rfl⟩

end

/-- The same message with one more issue in its place: after those of earlier lines, and before
    those of its own line and of later ones, which all stand one line further down. -/
def Decoded.insertIssue {α : Type} (decoded : Decoded α) (issue : Issue) : Decoded α where
  message := decoded.message
  issues := decoded.issues.filter (·.line < issue.line) ++
    issue :: (decoded.issues.filter (issue.line ≤ ·.line)).map (Issue.moved 1)

theorem insertIssue_append {α : Type} {message : α} {front back : List Issue} {issue : Issue}
    (hfront : ∀ other ∈ front, other.line < issue.line)
    (hback : ∀ other ∈ back, issue.line ≤ other.line) :
    (⟨message, front ++ back⟩ : Decoded α).insertIssue issue =
      ⟨message, front ++ issue :: back.map (Issue.moved 1)⟩ := by
  have hown : front.filter (·.line < issue.line) = front := by simpa using hfront
  have hothers : back.filter (issue.line ≤ ·.line) = back := by simpa using hback
  have hnone : front.filter (issue.line ≤ ·.line) = [] := by simpa using hfront
  have hlater : back.filter (·.line < issue.line) = [] := by simpa using hback
  simp only [Decoded.insertIssue, List.filter_append, hown, hothers, hnone, hlater,
    List.append_nil, List.nil_append]

/-! ## Stray lines -/

/-- A line that starts with no counted key and its bar, and that is read as no field. -/
structure Stray (line : List Char) : Prop where
  noBreak : '\n' ∉ line
  notCounted : ∀ spelling ∈ countedKeys, ¬ spelling.1.toList ++ ['|'] <+: line
  notPlain : ∀ field, Field.ofLine line ≠ .ok field

/-- What is wrong with a line that is no record. -/
def strayKind (line : List Char) : IssueKind :=
  if line = [] then .emptyLine
  else
    match Field.ofLine line with
    | .ok _ => .unknownField
    | .error kind => kind

theorem Stray.countedKey?_eq_none {line : List Char} (h : Stray line) (rest : List Char) :
    countedKey? (line ++ '\n' :: rest) = none :=
  countedKey?_eq_none_iff.2 fun spelling hmem => by
    rw [Text.line_append h.noBreak]
    exact h.notCounted spelling hmem

/-- **A stray line makes one item, an issue.** -/
theorem next_stray {line : List Char} (h : Stray line) (rest : List Char) (number : Nat) :
    Reader.next ⟨line ++ '\n' :: rest, number, none⟩ =
      some (.issue (.about number (strayKind line) line), ⟨rest, number + 1, none⟩) := by
  have hne : (line ++ '\n' :: rest).isEmpty = false := by simp
  have hitem : plainItem number line = .issue (.about number (strayKind line) line) := by
    rw [plainItem, strayKind]
    cases hread : Field.ofLine line with
    | ok field => exact absurd hread (h.notPlain field)
    | error kind =>
      simp only [List.isEmpty_iff]
      split <;> rfl
  simp only [Reader.next, hne, h.countedKey?_eq_none, Text.line_append h.noBreak, hitem,
    Reader.skipLine, Text.afterLine_append h.noBreak, Bool.false_eq_true, if_false]

/-- **A body with a stray line makes the same message**, with one more issue. -/
theorem readBody_stray {α : Type} {accept : α → Field → Except IssueKind α} {start : α}
    {fields : List Field} (hs : ∀ field ∈ fields, field.Sized) {line : List Char} (h : Stray line)
    (rest : List Char) :
    let records := fields.flatMap Field.render
    readBody accept start (records ++ (line ++ '\n' :: rest)) =
      (readBody accept start (records ++ rest)).insertIssue
        (.about (records.count '\n' + 1) (strayKind line) line) := by
  intro records
  have hnumber : 1 + records.count '\n' = records.count '\n' + 1 := Nat.add_comm ..
  have hplain : Reader.items ⟨records ++ rest, 1, none⟩ =
      List.zipWith Item.field (recordLines 1 fields) fields ++
        Reader.items ⟨rest, records.count '\n' + 1, none⟩ := by
    rw [items_render hs, hnumber]
  have hstray : Reader.items ⟨records ++ (line ++ '\n' :: rest), 1, none⟩ =
      List.zipWith Item.field (recordLines 1 fields) fields ++
        .issue (.about (records.count '\n' + 1) (strayKind line) line) ::
          (Reader.items ⟨rest, records.count '\n' + 1, none⟩).map (Item.moved 1) := by
    rw [items_render hs, hnumber, items_of_next (next_stray h rest _), ← items_moved]
    rfl
  simp only [readBody, hplain, hstray, List.foldl_append, List.foldl_cons, Decoded.offer]
  -- the issues of the records stand on earlier lines, and those of the rest do not
  have hfront : ∀ issue ∈ ((List.zipWith Item.field (recordLines 1 fields) fields).foldl
      (Decoded.offer accept) ⟨start, []⟩).issues, issue.line < records.count '\n' + 1 := by
    intro issue hissue
    obtain ⟨item, hitem, hline⟩ := line_of_mem_issues hissue
    obtain ⟨number, field, hnumber', -, rfl⟩ := mem_zipWith_field hitem
    have hlt := lt_of_mem_recordLines hnumber'
    rw [hline, ← hnumber]
    exact hlt
  generalize (List.zipWith Item.field (recordLines 1 fields) fields).foldl
    (Decoded.offer accept) ⟨start, []⟩ = front at hfront
  rcases front with ⟨message, issues⟩
  have hback : ∀ issue ∈ ((Reader.items ⟨rest, records.count '\n' + 1, none⟩).foldl
      (Decoded.offer accept) ⟨message, []⟩).issues, records.count '\n' + 1 ≤ issue.line := by
    intro issue hissue
    obtain ⟨item, hitem, hline⟩ := line_of_mem_issues hissue
    rw [hline]
    exact le_line_of_mem_items (Nat.le_refl _) (by simp) item hitem
  have hmoved := @foldl_offer_moved _ accept 1
    (Reader.items ⟨rest, records.count '\n' + 1, none⟩) message []
  rw [List.map_nil] at hmoved
  rw [foldl_offer_issues _ message issues, foldl_offer_issues _ message (_ :: issues), hmoved]
  generalize (Reader.items ⟨rest, records.count '\n' + 1, none⟩).foldl
    (Decoded.offer accept) ⟨message, []⟩ = back at hback
  simp only [List.reverse_append]
  rw [insertIssue_append (fun other h => hfront other (List.mem_reverse.1 h))
    (fun other h => hback other (List.mem_reverse.1 h))]
  simp only [List.reverse_cons, List.map_reverse, List.append_assoc, List.singleton_append]

/-! ## Requests and replies -/

theorem Request.decode_kind {kind : String} (h : kind ∈ Request.kinds) (body : List Char) :
    Request.decode (markerLine kind ++ body) =
      readBody Request.accept (Request.ofKind kind.toList) body := by
  have hbreaks : ∀ kind ∈ Request.kinds, '\n' ∉ kind.toList := by decide
  have htext : markerLine kind ++ body = kind.toList ++ '\n' :: body := by simp [markerLine]
  have hline := Text.line_append (hbreaks kind h) body
  have hknown : (Request.ofKind (Text.line (kind.toList ++ '\n' :: body))).Known := by
    rw [hline]
    intro name hname
    obtain ⟨heq, hother⟩ := Request.ofKind_eq_unknown.1 hname
    exact hother (String.toList_injective heq ▸ h)
  rw [htext, Request.decode_of_known hknown, hline, Text.afterLine_append (hbreaks kind h)]

/-- A reply with data in it is read as its body is. -/
theorem Reply.decode_data_line {text : List Char} (hkind : Text.line text = kindData.toList)
    (hbody : Text.afterLine text ≠ []) :
    Reply.decode text = .ok (decodeData (Text.afterLine text)) := by
  have hsome : text.isEmpty = false := by
    rw [List.isEmpty_eq_false_iff]
    rintro rfl
    exact hbody rfl
  simp only [Reply.decode, hsome, hkind, List.isEmpty_eq_false_iff.2 hbody, Bool.false_eq_true,
    if_false, if_true]
  rw [if_neg (by decide), if_neg (by decide)]

theorem Reply.decode_data {body : List Char} (h : body ≠ []) :
    Reply.decode (markerLine kindData ++ body) = .ok (decodeData body) := by
  have hbreak : '\n' ∉ kindData.toList := by decide
  have htext : markerLine kindData ++ body = kindData.toList ++ '\n' :: body := by
    simp [markerLine]
  have hbody := Text.afterLine_append hbreak body
  rw [htext, Reply.decode_data_line (Text.line_append hbreak body) (by rwa [hbody]), hbody]

/-- **A stray line hides nothing.**  Put behind any records of a request of any kind that is
    understood, in front of any text, it leaves the message that is read as it is, and adds one
    issue, for itself, on its own line; so it does in a data reply that has any other body. -/
theorem stray_line_hides_nothing {fields : List Field} (hs : ∀ field ∈ fields, field.Sized)
    {line : List Char} (hbreak : '\n' ∉ line)
    (hcounted : ∀ spelling ∈ countedKeys, ¬ spelling.1.toList ++ ['|'] <+: line)
    (hplain : ∀ field, Field.ofLine line ≠ .ok field) (rest : List Char) :
    let records := fields.flatMap Field.render
    let issue := Issue.about (records.count '\n' + 1) (strayKind line) line
    (∀ kind ∈ ["Mount", "List", "DrvMountData", "DrvMounted", "Unmount"],
      Request.decode (markerLine kind ++ records ++ line ++ '\n' :: rest) =
        (Request.decode (markerLine kind ++ records ++ rest)).insertIssue issue) ∧
    (records ++ rest ≠ [] → ∃ decoded,
      Reply.decode (markerLine kindData ++ records ++ rest) = .ok decoded ∧
      Reply.decode (markerLine kindData ++ records ++ line ++ '\n' :: rest) =
        .ok (decoded.insertIssue issue)) := by
  intro records issue
  have hstray : Stray line := ⟨hbreak, hcounted, hplain⟩
  simp only [List.append_assoc]
  constructor
  · intro kind hkind
    rw [Request.decode_kind hkind, Request.decode_kind hkind]
    exact readBody_stray hs hstray rest
  · intro hne
    refine ⟨decodeData (records ++ rest), Reply.decode_data hne, ?_⟩
    rw [Reply.decode_data (by simp)]
    have hbody : readBody DataBody.accept {} (records ++ (line ++ '\n' :: rest)) =
      (readBody DataBody.accept {} (records ++ rest)).insertIssue issue :=
        readBody_stray hs hstray rest
    rw [decodeData, hbody]
    rfl

/-- Between a mount point of two lines and a device that comes with bytes too many, an unknown line
    makes an issue on line 3, and the one about those bytes moves on to line 4. -/
theorem stray_line_hides_nothing_unknown :
    let text := "Mount\nMountPoint|4|/a\nb\nDevice|4|/dev1\n".toList
    let strayed := "Mount\nMountPoint|4|/a\nb\nColour|blue\nDevice|4|/dev1\n".toList
    (∀ field, Field.ofLine "Colour|blue".toList ≠ .ok field) ∧
      (Request.decode strayed).message = (Request.decode text).message ∧
      (Request.decode strayed).issues =
        [⟨3, .unknownField, "Colour|blue"⟩, ⟨4, .trailingBytes, "1"⟩] := by
  intro text strayed
  have hplain : ∀ field, Field.ofLine "Colour|blue".toList ≠ .ok field := by
    intro field h
    cases (show Field.ofLine "Colour|blue".toList = .error .unknownField from rfl).symm.trans h
  have hsized : ∀ field ∈ [Field.mountPoint "/a\nb"], field.Sized := by
    simp [Field.Sized, Field.counted?]
    decide
  have hbreak : '\n' ∉ "Colour|blue".toList := by decide
  obtain ⟨hrequest, -⟩ := stray_line_hides_nothing hsized hbreak (by decide) hplain
    "Device|4|/dev1\n".toList
  have hdecode := hrequest "Mount" (by decide)
  have htext : markerLine "Mount" ++ [Field.mountPoint "/a\nb"].flatMap Field.render ++
      "Device|4|/dev1\n".toList = text := by decide +kernel
  have hstrayed : markerLine "Mount" ++ [Field.mountPoint "/a\nb"].flatMap Field.render ++
      "Colour|blue".toList ++ '\n' :: "Device|4|/dev1\n".toList = strayed := by decide +kernel
  rw [htext, hstrayed] at hdecode
  rw [hdecode]
  exact ⟨hplain, rfl, by decide +kernel⟩

end MountControl.Wire
