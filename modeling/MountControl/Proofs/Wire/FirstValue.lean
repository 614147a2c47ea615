/-
  MountControl — the first value wins, and repeats are reported.

  A body is read field by field.  What a message holds in the end, and which
  issues are left, can be said of the fields at once: each place has the
  first value for it, and each later value leaves an issue.  In a listing
  that holds of each volume, from one mark to the next.

  * `complaints` are the issues that a body should leave, item by item;
  * `Obeys` is what one field should do to a message, and `readBody_follows`
    carries that through a body;
  * `Request.decode_follows` and `decodeData_follows` are that for requests
    and for data replies, whose volumes `volumes` tells apart;
  * `first_value_wins` puts both together, and `second_test_run_counts` is
    the one flag that goes another way.
-/
import MountControl.Proofs.Wire.Holdings
import MountControl.Proofs.Wire.StrayLine

namespace MountControl.Wire

/-! ## Bodies -/

/-- The field of an item. -/
def Item.field? : Item → Option Field
  | .field _ read => some read
  | .issue _ => none

/-- The fields that can be read in a body. -/
def readable (items : List Item) : List Field := items.filterMap Item.field?

/-- **The issues that a body should leave**: those that the reader meets, and the objection to a
    field, if there is one, given the fields before it. -/
def complaints (objection : List Field → Field → Option IssueKind) :
    (before : List Field) → List Item → List Issue
  | _, [] => []
  | before, .issue issue :: items => issue :: complaints objection before items
  | before, .field line field :: items =>
    ((objection before field).map (Issue.about line · field.describe)).toList
      ++ complaints objection (before ++ [field]) items

section
variable {α : Type} {accept : α → Field → Except IssueKind α}

/-- A field is refused with the objection to it and the message stays, or there is none and the
    field is taken; what is then so of the message. -/
inductive Obeys (accept : α → Field → Except IssueKind α) (objection : Option IssueKind)
    (message : α) (field : Field) (after : α → Prop) : Prop
  | refused {kind : IssueKind} (hobjection : objection = some kind)
      (haccept : accept message field = .error kind) (hafter : after message)
  | taken {next : α} (hobjection : objection = none) (haccept : accept message field = .ok next)
      (hafter : after next)

section
variable {objection : Option IssueKind} {message : α} {field : Field} {after also : α → Prop}

theorem Obeys.imp (h : Obeys accept objection message field after)
    (himp : ∀ next, after next → also next) : Obeys accept objection message field also := by
  cases h with
  | refused hobjection haccept hafter => exact .refused hobjection haccept (himp _ hafter)
  | taken hobjection haccept hafter => exact .taken hobjection haccept (himp _ hafter)

theorem Obeys.and (h : Obeys accept objection message field after) (hstays : also message)
    (hnext : ∀ next, accept message field = .ok next → also next) :
    Obeys accept objection message field fun next => after next ∧ also next := by
  cases h with
  | refused hobjection haccept hafter => exact .refused hobjection haccept ⟨hafter, hstays⟩
  | taken hobjection haccept hafter =>
    exact .taken hobjection haccept ⟨hafter, hnext _ haccept⟩

end

/-- A message that takes a field as its holdings do goes on to hold what it should. -/
theorem obeys_of_holdings {holdings : α → Holdings} {takes : Field → Bool} {before : List Field}
    {message : α} {field : Field}
    (haccept : (accept message field).map holdings = (holdings message).accept takes field)
    (hheld : holdings message = .of (before.filter takes)) :
    Obeys accept ((Holdings.of (before.filter takes)).objection takes field) message field
      fun next => holdings next = .of ((before ++ [field]).filter takes) := by
  have hafter := Holdings.of_filter_concat takes before field
  rw [hheld, Holdings.accept] at haccept
  cases hobjection : (Holdings.of (before.filter takes)).objection takes field with
  | some kind =>
    rw [hobjection] at haccept hafter
    have hrefused : accept message field = .error kind := by
      cases hresult : accept message field with
      | ok next => rw [hresult] at haccept; cases haccept
      | error other => rw [hresult] at haccept; cases haccept; rfl
    exact .refused rfl hrefused (hheld.trans hafter.symm)
  | none =>
    rw [hobjection] at haccept hafter
    obtain ⟨next, hnext, hholds⟩ := map_eq_ok.1 haccept
    exact .taken rfl hnext (hholds.trans hafter.symm)

variable {follows : List Field → α → Prop} {objection : List Field → Field → Option IssueKind}

theorem foldl_offer_follows
    (hstep : ∀ before message field, follows before message →
      Obeys accept (objection before field) message field (follows (before ++ [field])))
    (items : List Item) {before : List Field} {message : α} (h : follows before message)
    (issues : List Issue) :
    follows (before ++ readable items)
        (items.foldl (Decoded.offer accept) ⟨message, issues⟩).message ∧
      (items.foldl (Decoded.offer accept) ⟨message, issues⟩).issues =
        (complaints objection before items).reverse ++ issues := by
  induction items generalizing before message issues with
  | nil => simpa [readable, complaints] using h
  | cons item items ih =>
    cases item with
    | issue issue =>
      have hread : readable (.issue issue :: items) = readable items := rfl
      obtain ⟨hfollows, hissues⟩ := ih h (issue :: issues)
      rw [hread, complaints, List.reverse_cons, List.append_assoc]
      exact ⟨hfollows, hissues⟩
    | field line field =>
      have hread : before ++ readable (.field line field :: items) =
          before ++ [field] ++ readable items := by simp [readable, Item.field?]
      rw [hread, List.foldl_cons, Decoded.offer, complaints]
      cases hstep before message field h with
      | @refused kind hobjection haccept hafter =>
        obtain ⟨hfollows, hissues⟩ := ih hafter (.about line kind field.describe :: issues)
        rw [hobjection, haccept]
        refine ⟨hfollows, hissues.trans ?_⟩
        simp
      | taken hobjection haccept hafter =>
        rw [hobjection, haccept]
        exact ih hafter issues

/-- **What one field does to a message, a body does field by field.** -/
theorem readBody_follows
    (hstep : ∀ before message field, follows before message →
      Obeys accept (objection before field) message field (follows (before ++ [field])))
    {start : α} (hstart : follows [] start) (body : List Char) :
    follows (readable (Reader.items ⟨body, 1, none⟩)) (readBody accept start body).message ∧
      (readBody accept start body).issues =
        complaints objection [] (Reader.items ⟨body, 1, none⟩) := by
  obtain ⟨hfollows, hissues⟩ :=
    foldl_offer_follows hstep (Reader.items ⟨body, 1, none⟩) hstart []
  refine ⟨hfollows, ?_⟩
  rw [readBody, hissues, List.append_nil, List.reverse_reverse]

end

/-! ## Requests -/

/-- The objection to one field more after others, in a message that has a place for some. -/
def objection (takes : Field → Bool) (before : List Field) (field : Field) : Option IssueKind :=
  (Holdings.of (before.filter takes)).objection takes field

theorem Request.holdings_ofKind (kind : List Char) : (Request.ofKind kind).holdings = .of [] := by
  rw [Request.ofKind]
  split_ifs <;> exact Holdings.ext (funext fun slot => by cases slot <;> rfl) rfl rfl

theorem Request.decode_follows {text : List Char}
    (h : (Request.ofKind (Text.line text)).Known) :
    let takes := (Request.ofKind (Text.line text)).takes
    let items := Reader.items ⟨Text.afterLine text, 1, none⟩
    (Request.decode text).message.holdings = .of ((readable items).filter takes) ∧
      (Request.decode text).issues = complaints (objection takes) [] items := by
  intro takes items
  have hstep : ∀ before (request : Request) field,
      (request.holdings = .of (before.filter takes) ∧ request.takes = takes) →
        Obeys accept (objection takes before field) request field fun next =>
          next.holdings = .of ((before ++ [field]).filter takes) ∧ next.takes = takes := by
    rintro before request field ⟨hheld, htakes⟩
    have hfield := htakes ▸ request.accept_holdings field
    exact (obeys_of_holdings hfield hheld).and htakes fun next haccept =>
      (takes_of_accept haccept).trans htakes
  rw [decode_of_known h]
  obtain ⟨⟨hheld, -⟩, hissues⟩ :=
    readBody_follows hstep ⟨holdings_ofKind _, rfl⟩ (Text.afterLine text)
  exact ⟨hheld, hissues⟩

/-! ## Volumes of a data reply -/

section
variable {α : Type} [BEq α] [LawfulBEq α] {mark a : α} {xs last : List α} {earlier : List (List α)}

/-- The last block is what stands behind the last mark, and all there is without a mark. -/
theorem of_splitOn_eq_concat (h : xs.splitOn mark = earlier ++ [last]) :
    mark ∉ last ∧ (earlier = [] ∧ xs = last ∨
      ∃ front, earlier = front.splitOn mark ∧ xs = front ++ mark :: last) := by
  by_cases hmem : mark ∈ xs
  · obtain ⟨back, front, hreverse, hback⟩ := List.eq_append_cons_of_mem (List.mem_reverse.2 hmem)
    have hxs : xs = front.reverse ++ mark :: back.reverse := by
      rw [← List.reverse_reverse xs, hreverse]
      simp
    have hnone : mark ∉ back.reverse := mt List.mem_reverse.1 hback
    rw [hxs, List.splitOn_append_cons_self, List.splitOn_eq_singleton hnone] at h
    obtain ⟨rfl, hlast⟩ := List.append_inj' h rfl
    cases hlast
    exact ⟨hnone, .inr ⟨front.reverse, rfl, hxs⟩⟩
  · have hone : [] ++ [xs] = earlier ++ [last] := (List.splitOn_eq_singleton hmem).symm.trans h
    obtain ⟨rfl, hlast⟩ := List.append_inj' hone rfl
    cases hlast
    exact ⟨hmem, .inl ⟨rfl, rfl⟩⟩

/-- What is no mark goes on with the last block. -/
theorem splitOn_concat_of_ne (h : xs.splitOn mark = earlier ++ [last]) (ha : a ≠ mark) :
    (xs ++ [a]).splitOn mark = earlier ++ [last ++ [a]] := by
  obtain ⟨hlast, hcases⟩ := of_splitOn_eq_concat h
  have hnone : mark ∉ last ++ [a] := by simp [hlast, Ne.symm ha]
  rcases hcases with ⟨rfl, rfl⟩ | ⟨front, rfl, rfl⟩
  · exact List.splitOn_eq_singleton hnone
  · rw [List.append_assoc, List.cons_append, List.splitOn_append_cons_self,
      List.splitOn_eq_singleton hnone]

end

/-- What the description of a volume should hold after some fields. -/
def Holdings.ofEntry (fields : List Field) : Holdings := .of (fields.filter Field.inRecord)

/-- The volumes of a data reply whose fields stand in these blocks: those behind a mark, and one
    in front of the first mark, if a field of it has a place there. -/
def volumes : List (List Field) → List (List Field)
  | [] => []
  | first :: marked => if first.any Field.inRecord then first :: marked else marked

theorem volumes_concat (earlier : List (List Field)) (last : List Field) :
    volumes (earlier ++ [last]) =
      volumes earlier ++ if !earlier.isEmpty || last.any Field.inRecord then [last] else [] := by
  cases earlier with
  | nil => simp [volumes]
  | cons first marked =>
    simp only [List.cons_append, volumes, List.isEmpty_cons, Bool.not_false, Bool.true_or, if_true]
    split <;> simp

/-- The objection to one field more after others, in a data reply. -/
def objectionToData (before : List Field) (field : Field) : Option IssueKind :=
  if field = .entry then none
  else if field = .noEntries then
    if .entry ∈ before ∨ before.any Field.inRecord then some .unexpectedField else none
  else objection Field.inRecord ((before.splitOn .entry).getLastD []) field

/-- A data body is as it should be after the fields of some complete blocks and of an open one. -/
structure DataBody.Follows (earlier : List (List Field)) (last : List Field) (body : DataBody) :
    Prop where
  complete : body.complete.reverse.map Volume.Record.holdings =
    (volumes earlier).map Holdings.ofEntry
  current : body.current.holdings = .ofEntry last
  entryOpen : body.entryOpen = !earlier.isEmpty
  touched : body.touched = last.any Field.inRecord

/-- A data body is as it should be after some fields. -/
def DataBody.Fits (before : List Field) (body : DataBody) : Prop :=
  ∃ earlier last, before.splitOn .entry = earlier ++ [last] ∧ body.Follows earlier last

theorem takes_of_objection {takes : Field → Bool} {before : List Field} {field : Field}
    (h : objection takes before field = none) : takes field := by
  cases htakes : takes field with
  | true => rfl
  | false => simp [objection, Holdings.objection, htakes] at h

/-- A field to which there is an objection is not the first for its volume. -/
theorem any_of_objection {last : List Field} {field : Field} {kind : IssueKind}
    (h : objection Field.inRecord last field = some kind) :
    (last ++ [field]).any Field.inRecord = last.any Field.inRecord := by
  rw [List.any_append]
  cases hplace : field.inRecord with
  | false => simp [hplace]
  | true =>
    simp only [objection, Holdings.objection, hplace, Bool.not_true, Bool.false_eq_true,
      if_false] at h
    split at h
    next htaken =>
      obtain ⟨slot, -, hheld⟩ := (Option.any_eq_true ..).1 htaken
      obtain ⟨value, hvalue⟩ := Option.isSome_iff_exists.1 hheld
      obtain ⟨hmem, hvalue⟩ := List.mem_filter.1 (List.mem_of_find?_eq_some hvalue)
      rw [List.any_eq_true.2 ⟨value, hmem, hvalue⟩]
      rfl
    next => cases h

theorem holdings_blank : ({} : Volume.Record).holdings = .ofEntry [] :=
  Holdings.ext (funext fun slot => by cases slot <;> rfl) rfl rfl

section
variable {earlier : List (List Field)} {last before : List Field} {body : DataBody}

/-- A mark completes a volume. -/
theorem DataBody.Follows.entry (h : body.Follows earlier last) :
    ∃ next, body.accept .entry = .ok next ∧ next.Follows (earlier ++ [last]) [] := by
  have hopen : (body.entryOpen || body.touched) =
      (!earlier.isEmpty || last.any Field.inRecord) := by rw [h.entryOpen, h.touched]
  refine ⟨_, rfl, ?_, ?_, by simp, rfl⟩
  · rw [volumes_concat, hopen]
    split
    · simp [h.complete, h.current]
    · simp [h.complete]
  · rw [hopen]
    split
    next => exact holdings_blank
    next hidle =>
      have hidle : earlier = [] ∧ ∀ field ∈ last, field.inRecord = false := by simpa using hidle
      have hlast : last.filter Field.inRecord = [] := by simpa using hidle.2
      rw [h.current, Holdings.ofEntry, hlast]
      rfl

/-- The mark of an empty listing says nothing of a volume, and is right only where none is. -/
theorem DataBody.Follows.noEntries (h : body.Follows earlier last)
    (hsplit : before.splitOn .entry = earlier ++ [last]) :
    Obeys accept (objectionToData before .noEntries) body .noEntries
      (Follows earlier (last ++ [.noEntries])) := by
  have hplace : Field.noEntries.inRecord = false := rfl
  have hnext : ∀ denied, Follows earlier (last ++ [.noEntries]) { body with denied } := fun _ =>
    ⟨h.complete, by simp [h.current, Holdings.ofEntry, hplace], h.entryOpen,
      by simp [h.touched, hplace]⟩
  have hfits : (body.entryOpen || body.touched || !body.complete.isEmpty) = true ↔
      .entry ∈ before ∨ before.any Field.inRecord := by
    obtain ⟨hmark, ⟨rfl, rfl⟩ | ⟨front, rfl, rfl⟩⟩ := of_splitOn_eq_concat hsplit
    · have hcomplete : body.complete = [] := by simpa [volumes] using h.complete
      simp [h.entryOpen, h.touched, hcomplete, hmark]
    · simp [h.entryOpen]
  by_cases hnone : .entry ∈ before ∨ before.any Field.inRecord
  · exact .refused (if_pos hnone) (if_pos (hfits.2 hnone)) (hnext body.denied)
  · exact .taken (if_neg hnone) (if_neg (mt hfits.1 hnone)) (hnext true)

/-- Any other field is one of the volume being read. -/
theorem DataBody.Follows.field (h : body.Follows earlier last) {field : Field}
    (hentry : field ≠ .entry) (hnone : field ≠ .noEntries) :
    Obeys accept (objection Field.inRecord last field) body field
      (Follows earlier (last ++ [field])) := by
  have haccept : body.accept field =
      (body.current.accept field).map ({ body with current := ·, touched := true }) := by
    cases field <;> first | rfl | contradiction
  have hrecord : Obeys Volume.Record.accept (objection Field.inRecord last field) body.current
      field (·.holdings = .ofEntry (last ++ [field])) :=
    obeys_of_holdings (body.current.accept_holdings field) h.current
  cases hrecord with
  | refused hobjection hrefused hstays =>
    have hsame := any_of_objection hobjection
    rw [hrefused] at haccept
    exact .refused hobjection haccept
      ⟨h.complete, hstays, h.entryOpen, h.touched.trans hsame.symm⟩
  | taken hobjection htaken hnext =>
    have hplace := takes_of_objection hobjection
    rw [htaken] at haccept
    exact .taken hobjection haccept ⟨h.complete, hnext, h.entryOpen, by simp [hplace]⟩

theorem DataBody.Fits.step (h : body.Fits before) (field : Field) :
    Obeys accept (objectionToData before field) body field (Fits (before ++ [field])) := by
  obtain ⟨earlier, last, hsplit, h⟩ := h
  by_cases hentry : field = .entry
  · subst hentry
    obtain ⟨next, haccept, hnext⟩ := h.entry
    refine .taken rfl haccept ⟨_, _, ?_, hnext⟩
    rw [List.splitOn_append_cons_self, hsplit, List.splitOn_nil]
  · have hafter := splitOn_concat_of_ne hsplit hentry
    by_cases hnone : field = .noEntries
    · subst hnone
      exact (h.noEntries hsplit).imp fun next hnext => ⟨_, _, hafter, hnext⟩
    · have hobjection : objectionToData before field = objection Field.inRecord last field := by
        rw [objectionToData, if_neg hentry, if_neg hnone, hsplit, List.getLastD_concat]
      rw [hobjection]
      exact (h.field hentry hnone).imp fun next hnext => ⟨_, _, hafter, hnext⟩

end

/-- A data reply holds what it should after the fields of its body: one volume, if they have no
    mark, or a listing. -/
def Reply.Holds (fields : List Field) : Reply → Prop
  | .detail record => .entry ∉ fields ∧ record.holdings = .ofEntry fields
  | .listing records =>
    records.map Volume.Record.holdings = (volumes (fields.splitOn .entry)).map Holdings.ofEntry
  | _ => False

theorem DataBody.Fits.reply {fields : List Field} {body : DataBody} (h : body.Fits fields) :
    body.reply.Holds fields := by
  obtain ⟨earlier, last, hsplit, h⟩ := h
  have hall : (volumes (fields.splitOn .entry)).map Holdings.ofEntry =
      body.complete.reverse.map Volume.Record.holdings ++
        if body.entryOpen || body.touched then [body.current.holdings] else [] := by
    rw [hsplit, volumes_concat, List.map_append, h.complete, h.entryOpen, h.touched, h.current]
    split <;> rfl
  rw [DataBody.reply]
  split
  next =>
    split
    next hopen =>
      rw [if_pos hopen] at hall
      simp [Reply.Holds, hall]
    next hidle =>
      rw [if_neg hidle] at hall
      simp [Reply.Holds, hall]
  next hdetail =>
    obtain ⟨hmark, ⟨rfl, rfl⟩ | ⟨front, rfl, rfl⟩⟩ := of_splitOn_eq_concat hsplit
    · exact ⟨hmark, h.current⟩
    · simp [h.entryOpen] at hdetail

theorem decodeData_follows (body : List Char) :
    let items := Reader.items ⟨body, 1, none⟩
    (decodeData body).message.Holds (readable items) ∧
      (decodeData body).issues = complaints objectionToData [] items := by
  have hstart : DataBody.Fits [] {} :=
    ⟨[], [], List.splitOn_nil _, rfl, holdings_blank, rfl, rfl⟩
  have hstep : ∀ before body field, DataBody.Fits before body →
      Obeys DataBody.accept (objectionToData before field) body field
        (DataBody.Fits (before ++ [field])) := fun _ _ field h => h.step field
  obtain ⟨hfits, hissues⟩ := readBody_follows hstep hstart body
  exact ⟨hfits.reply, hissues⟩

/-! ## First values -/

/-- **The first value wins, and repeats are reported.**  Of every request of a kind that is
    understood, and of each volume in every data reply, each place holds the value of the first
    readable field for it, and the devices are all there in their order.  The issues are those that
    the reader met, one for each field without a place, and one for each value whose place is
    taken.  There is none about a device.  Nor is there one about the flag for a test run: it
    has no place of that sort, and the last one counts. -/
theorem first_value_wins (text : List Char) :
    let items := Reader.items ⟨Text.afterLine text, 1, none⟩
    let request := Request.ofKind (Text.line text)
    (request.Known →
      (Request.decode text).message.holdings = .of ((readable items).filter request.takes) ∧
      (Request.decode text).issues = complaints (objection request.takes) [] items) ∧
    (Text.line text = kindData.toList → Text.afterLine text ≠ [] →
      ∃ decoded, Reply.decode text = .ok decoded ∧
        decoded.message.Holds (readable items) ∧
        decoded.issues = complaints objectionToData [] items) := by
  intro items request
  refine ⟨Request.decode_follows, fun hkind hbody => ?_⟩
  have hdecode : Reply.decode text = .ok (decodeData (Text.afterLine text)) := by
    have hsome : text.isEmpty = false := by
      cases text with
      | nil => exact absurd hkind (by decide)
      | cons c text => rfl
    have hrest : (Text.afterLine text).isEmpty = false := by simpa using hbody
    simp only [Reply.decode, hsome, hkind, hrest, Bool.false_eq_true, if_false, if_true]
    rfl
  exact ⟨_, hdecode, decodeData_follows _⟩

/-- Of two mount points, in one spelling and the other, the second is left out with an issue; of
    two volumes each has its own identifier, and one of them a second label. -/
theorem first_value_wins_twice :
    let request := "Mount\nMountPoint|4|/mnt\nmountData|mountPoint|4|/srv\n".toList
    let reply := "Data\nEntry\nInstanceID|1\nLabel|1|a\nlabel|1|b\nEntry\nInstanceID|2\n".toList
    (Request.ofKind (Text.line request)).Known ∧
      (Request.decode request).message.holdings.first .mountPoint = some (.mountPoint "/mnt") ∧
      (Request.decode request).issues = [⟨2, .duplicateField, "MountPoint(\"/srv\")"⟩] ∧
    Text.line reply = kindData.toList ∧ Text.afterLine reply ≠ [] ∧
      ∃ decoded, Reply.decode reply = .ok decoded ∧
        decoded.issues = [⟨4, .duplicateField, "Label(\"b\")"⟩] := by
  intro request reply
  have hknown : (Request.ofKind (Text.line request)).Known := nofun
  have hkind : Text.line reply = kindData.toList := by decide
  have hbody : Text.afterLine reply ≠ [] := by decide
  obtain ⟨hheld, hissues⟩ := (first_value_wins request).1 hknown
  obtain ⟨decoded, hdecode, -, hreported⟩ := (first_value_wins reply).2 hkind hbody
  refine ⟨hknown, ?_, hissues.trans (by decide +kernel), hkind, hbody, decoded, hdecode,
    hreported.trans (by decide +kernel)⟩
  rw [hheld]
  decide +kernel

/-- **Of two flags for a test run the second counts**, and no issue says so. -/
theorem second_test_run_counts :
    let text := ("Mount\nMountPoint|4|/mnt\nDevice|5|/dev1\n" ++
      "Option|TestRun|False\nOption|TestRun\n").toList
    let items := Reader.items ⟨Text.afterLine text, 1, none⟩
    (readable items).filterMap Field.testRun? = [false, true] ∧
      Request.decode text =
        ⟨.mount { mountPoint := some "/mnt", devices := ["/dev1"], testRun := true }, []⟩ := by
  decide +kernel

end MountControl.Wire
