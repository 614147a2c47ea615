/-
  MountControl — replies are read back.

  A data body is read by a machine with three flags (`DataBody`).

  * `DataBody.finished` are the volumes that it has seen so far, the last one
    first; `foldlM_block` says that an entry mark and the fields of a volume
    add that volume, whatever stood before;
  * `Reply.decode_sized`: no other replies than sized ones are ever read;
  * `decode_encode_reply` says which replies are read back.
-/
import MountControl.Proofs.Wire.RequestRoundTrip
import MountControl.Wire.Reply

namespace MountControl.Wire

/-- Is it a field of mount options? -/
def Field.isOption : Field → Bool
  | .subvol _ | .subvolId _ | .dump _ | .testRun _ | .mountPoint _ | .device _ => true
  | _ => false

/-- Is it a mark that belongs to a listing and to no volume? -/
def Field.isMarker : Field → Bool
  | .entry | .noEntries => true
  | _ => false

end MountControl.Wire

namespace MountControl.Volume

open Wire (Field foldlM_append foldlM_part foldlM_slot map_eq_ok setOnce_map_eq_ok)

/-! ## Descriptions of volumes -/

theorem RawOptions.isOption_of_mem_fields {options : RawOptions} {field : Field}
    (h : field ∈ options.fields) : field.isOption = true := by
  simp only [RawOptions.fields, List.mem_append, List.mem_map] at h
  rcases h with ((((⟨_, -, rfl⟩ | ⟨_, -, rfl⟩) | ⟨_, -, rfl⟩) | h) | ⟨_, -, rfl⟩) | ⟨_, -, rfl⟩
  case inl.inl.inr =>
    split at h
    · rw [List.mem_singleton.1 h]; rfl
    · cases h
  all_goals rfl

theorem Record.isMarker_of_mem_fields {record : Record} {field : Field}
    (h : field ∈ record.fields) : field.isMarker = false := by
  simp only [Record.fields, List.mem_append, List.mem_map] at h
  rcases h with (((⟨_, -, rfl⟩ | ⟨_, -, rfl⟩) | ⟨_, -, rfl⟩) | ⟨_, -, rfl⟩) | h
  case inr =>
    have hoption := RawOptions.isOption_of_mem_fields h
    cases field with
    | entry | noEntries => cases hoption
    | _ => rfl
  all_goals rfl

/-- **The fields of a description make the description.** -/
theorem Record.foldlM_fields (record : Record) :
    record.fields.foldlM Record.accept {} = .ok record := by
  rcases record with ⟨id, state, fsUuid, label, options⟩
  have hid : (id.toList.map Field.instanceId).foldlM Record.accept {} = .ok { id } :=
    foldlM_slot (fun id => ({ id } : Record)) id fun _ => rfl
  have hstate : (state.toList.map Field.state).foldlM Record.accept { id } = .ok { id, state } :=
    foldlM_slot (fun state => ({ id, state } : Record)) state fun _ => rfl
  have huuid : (fsUuid.toList.map Field.fsUuid).foldlM Record.accept { id, state } =
      .ok { id, state, fsUuid } :=
    foldlM_slot (fun fsUuid => ({ id, state, fsUuid } : Record)) fsUuid fun _ => rfl
  have hlabel : (label.toList.map Field.label).foldlM Record.accept { id, state, fsUuid } =
      .ok { id, state, fsUuid, label } :=
    foldlM_slot (fun label => ({ id, state, fsUuid, label } : Record)) label fun _ => rfl
  have hoptions : options.fields.foldlM Record.accept { id, state, fsUuid, label } =
      .ok { id, state, fsUuid, label, options } := by
    refine foldlM_part (fun options => ({ id, state, fsUuid, label, options } : Record)) ?_
      options.foldlM_fields
    intro part field hfield
    have hoption := RawOptions.isOption_of_mem_fields hfield
    cases field with
    | instanceId | state | fsUuid | label => cases hoption
    | _ => rfl
  exact foldlM_append (foldlM_append (foldlM_append (foldlM_append hid hstate) huuid) hlabel)
    hoptions

theorem Record.mem_fields_of_accept {record after : Record} {field : Field}
    (h : record.accept field = .ok after) :
    ∀ other ∈ after.fields, other ∈ record.fields ∨ other = field := by
  intro other ho
  rw [Record.accept.eq_def] at h
  split at h
  case h_5 =>
    obtain ⟨options, ha, rfl⟩ := map_eq_ok.1 h
    rcases List.mem_append.1 ho with ho | ho
    · exact .inl (List.mem_append_left _ ho)
    · rcases RawOptions.mem_fields_of_accept ha other ho with ho | ho
      · exact .inl (List.mem_append_right _ ho)
      · exact .inr ho
  all_goals
    obtain ⟨hnone, rfl⟩ := setOnce_map_eq_ok.1 h
    simp only [Record.fields, hnone, Option.toList_none, Option.toList_some, List.map_nil,
      List.map_cons, List.nil_append, List.mem_append, List.mem_singleton] at ho ⊢
    tauto

end MountControl.Volume

namespace MountControl.Wire

open Volume (Record)

/-! ## Data bodies -/

namespace DataBody

/-- The volumes seen so far, the last one first. -/
def finished (body : DataBody) : List Record :=
  if body.entryOpen || body.touched then body.current :: body.complete else body.complete

theorem reply_eq (body : DataBody) :
    body.reply = if body.entryOpen || body.denied then .listing body.finished.reverse
      else .detail body.current := by
  rw [reply, finished]
  split_ifs <;> rfl

theorem accept_of_isMarker {body : DataBody} {field : Field} (h : field.isMarker = false) :
    body.accept field =
      (body.current.accept field).map ({ body with current := ·, touched := true }) := by
  cases field with
  | entry | noEntries => cases h
  | _ => rfl

/-- Fields that the current volume accepts go into it. -/
theorem foldlM_current {fields : List Field} (body : DataBody) {record : Record}
    (hm : ∀ field ∈ fields, field.isMarker = false)
    (h : fields.foldlM Record.accept body.current = .ok record) :
    fields.foldlM accept body =
      .ok { body with current := record, touched := body.touched || !fields.isEmpty } := by
  induction fields generalizing body with
  | nil =>
    cases h
    simp only [List.isEmpty_nil, Bool.not_true, Bool.or_false]
    rfl
  | cons field fields ih =>
    rw [List.forall_mem_cons] at hm
    obtain ⟨next, ha, hrest⟩ := foldlM_cons_eq_ok.1 h
    refine foldlM_cons_eq_ok.2 ⟨{ body with current := next, touched := true }, ?_, ?_⟩
    · rw [accept_of_isMarker hm.1, ha]
      rfl
    · rw [ih _ hm.2 hrest]
      simp

/-- The body after one more entry mark. -/
def opened (body : DataBody) : DataBody :=
  { body with complete := body.finished, current := {}, entryOpen := true, touched := false }

/-- Does nothing of a volume get lost at the next entry mark? -/
def Free (body : DataBody) : Prop := (body.entryOpen || body.touched) = false → body.current = {}

theorem accept_entry {body : DataBody} (h : body.Free) : body.accept .entry = .ok body.opened := by
  by_cases hopen : (body.entryOpen || body.touched) = true
  · simp [accept, opened, finished, hopen]
  · -- the first mark: the current volume is still blank and goes on as the new one
    have hcurrent := h (by simpa using hopen)
    simp [accept, opened, finished, hopen, hcurrent]

/-- **An entry mark and the fields of a volume add that volume.** -/
theorem foldlM_block {body : DataBody} (h : body.Free) (record : Record) :
    ∃ after, (Field.entry :: record.fields).foldlM accept body = .ok after ∧
      after.entryOpen = true ∧ after.finished = record :: body.finished := by
  have hfields := foldlM_current body.opened
    (fun _ => Record.isMarker_of_mem_fields) record.foldlM_fields
  refine ⟨{ body.opened with current := record, touched := !record.fields.isEmpty }, ?_, rfl, rfl⟩
  exact foldlM_cons_eq_ok.2 ⟨body.opened, accept_entry h, hfields⟩

theorem free_of_entryOpen {body : DataBody} (h : body.entryOpen = true) : body.Free := by
  intro hclosed
  rw [h] at hclosed
  cases hclosed

/-- The blocks of several volumes add all of them. -/
theorem foldlM_blocks {body : DataBody} (h : body.entryOpen = true) (records : List Record) :
    ∃ after, (records.flatMap fun record => .entry :: record.fields).foldlM accept body =
        .ok after ∧
      after.entryOpen = true ∧ after.finished = records.reverse ++ body.finished := by
  induction records generalizing body with
  | nil => exact ⟨body, rfl, h, rfl⟩
  | cons record records ih =>
    obtain ⟨middle, hblock, hmiddle, hfinished⟩ := foldlM_block (free_of_entryOpen h) record
    obtain ⟨after, hblocks, hafter, hall⟩ := ih hmiddle
    refine ⟨after, foldlM_append hblock hblocks, hafter, ?_⟩
    simp [hall, hfinished]

/-- **The fields of a listing make the listing.** -/
theorem foldlM_listing (records : List Record) :
    ∃ body, (listingFields records).foldlM accept {} = .ok body ∧
      body.reply = .listing records := by
  cases records with
  -- an empty listing has a mark of its own
  | nil => exact ⟨{ denied := true }, rfl, rfl⟩
  | cons record records =>
    have hfree : DataBody.Free {} := fun _ => rfl
    obtain ⟨middle, hblock, hmiddle, hfinished⟩ := foldlM_block hfree record
    obtain ⟨after, hblocks, hafter, hall⟩ := foldlM_blocks hmiddle records
    refine ⟨after, foldlM_append hblock hblocks, ?_⟩
    rw [reply_eq, hafter, Bool.true_or, if_pos rfl, hall, hfinished]
    simp [finished]

theorem foldlM_detail (record : Record) :
    ∃ body, record.fields.foldlM accept {} = .ok body ∧ body.reply = .detail record :=
  ⟨_, foldlM_current {} (fun _ => Record.isMarker_of_mem_fields) record.foldlM_fields,
    rfl⟩

/-- Are all values of all volumes short enough for their lengths to be read? -/
def Sized (body : DataBody) : Prop :=
  ∀ record ∈ body.current :: body.complete, ∀ field ∈ record.fields, field.Sized

theorem sized_accept {body after : DataBody} {field : Field} (hs : body.Sized)
    (hf : field.Sized) (h : body.accept field = .ok after) : after.Sized := by
  by_cases hm : field.isMarker = false
  · rw [accept_of_isMarker hm] at h
    obtain ⟨record, ha, rfl⟩ := map_eq_ok.1 h
    intro other ho
    rcases List.mem_cons.1 ho with rfl | ho
    · intro own hown
      rcases Record.mem_fields_of_accept ha own hown with hown | rfl
      · exact hs _ List.mem_cons_self own hown
      · exact hf
    · exact hs other (List.mem_cons_of_mem _ ho)
  · cases field with
    | entry =>
      cases h
      intro other ho
      by_cases hopen : (body.entryOpen || body.touched) = true
      · rw [if_pos hopen, if_pos hopen] at ho
        rcases List.mem_cons.1 ho with rfl | ho
        · exact nofun
        · exact hs other ho
      · rw [if_neg hopen, if_neg hopen] at ho
        exact hs other ho
    | noEntries =>
      rw [accept] at h
      split at h
      next => cases h
      next => cases h; exact hs
    | _ => exact absurd rfl hm

end DataBody

/-! ## Replies -/

/-- The fields of the body. -/
def Reply.fields : Reply → List Field
  | .listing records => listingFields records
  | .detail record => record.fields
  | _ => []

/-- Are all values short enough for their lengths to be read?  Every reply in a 64-bit address
    space is. -/
def Reply.Sized (reply : Reply) : Prop := ∀ field ∈ reply.fields, field.Sized

theorem DataBody.reply_sized {body : DataBody} (h : body.Sized) : body.reply.Sized := by
  have hlisting : ∀ {records : List Record},
      (∀ record ∈ records, ∀ field ∈ record.fields, field.Sized) →
        (Reply.listing records).Sized := by
    intro records hrecords field hfield
    cases records with
    | nil => rw [List.mem_singleton.1 hfield]; exact nofun
    | cons first rest =>
      obtain ⟨record, hrecord, hfield⟩ := List.mem_flatMap.1 hfield
      rcases List.mem_cons.1 hfield with rfl | hfield
      · exact nofun
      · exact hrecords record hrecord field hfield
  rw [reply_eq, finished]
  split_ifs
  · exact hlisting fun record hr => h record (List.mem_reverse.1 hr)
  · exact hlisting fun record hr => h record (List.mem_cons_of_mem _ (List.mem_reverse.1 hr))
  · exact h _ List.mem_cons_self

/-- **Only sized replies are ever read.** -/
theorem Reply.decode_sized {text : List Char} {decoded : Decoded Reply}
    (h : Reply.decode text = .ok decoded) : decoded.message.Sized := by
  simp only [Reply.decode] at h
  split_ifs at h
  · cases h; exact nofun
  · cases h; exact nofun
  · cases h
    refine DataBody.reply_sized (readBody_induction DataBody.Sized ?_ DataBody.sized_accept _)
    intro record hr
    rw [List.mem_singleton.1 hr]
    exact nofun

theorem Field.render_ne_nil (field : Field) : field.render ≠ [] := by
  cases hc : field.counted? with
  | none =>
    obtain ⟨text, hrender, -⟩ := render_plain hc
    simp [hrender]
  | some value =>
    obtain ⟨key, rfl⟩ := exists_of_counted? hc
    obtain ⟨name, hrender, -⟩ := render_counted key value
    simp [hrender, countedRecord]

/-- A body is read back if there is one. -/
theorem decode_fields {fields : List Field} {body : DataBody} (hne : fields ≠ [])
    (hs : ∀ field ∈ fields, field.Sized) (h : fields.foldlM DataBody.accept {} = .ok body) :
    Reply.decode (markerLine kindData ++ fields.flatMap Field.render) =
      .ok ⟨body.reply, []⟩ := by
  have hbody : (fields.flatMap Field.render).isEmpty = false := by
    obtain ⟨field, rest, rfl⟩ := List.exists_cons_of_ne_nil hne
    simp [field.render_ne_nil]
  have hbreak : '\n' ∉ kindData.toList := by decide
  have htext : markerLine kindData ++ fields.flatMap Field.render =
      kindData.toList ++ '\n' :: fields.flatMap Field.render := by simp [markerLine]
  rw [htext, Reply.decode, Text.line_append hbreak, Text.afterLine_append hbreak, if_neg (by simp),
    if_neg (by decide), if_neg (by decide), if_pos rfl, hbody]
  simp [decodeData, readBody_render hs h]

theorem Record.fields_eq_nil {record : Record} : record.fields = [] ↔ record = {} := by
  constructor
  · intro h
    have hfields := record.foldlM_fields
    rw [h] at hfields
    cases hfields
    rfl
  · rintro rfl
    rfl

theorem dropLineEnd_endLine (text : List Char) :
    dropLineEnd (endLine text) = text ↔ text.getLast? ≠ some '\n' := by
  by_cases h : text.getLast? = some '\n'
  · have hne : text ≠ [] := by rintro rfl; cases h
    have hlen : (dropLineEnd (endLine text)).length < text.length := by
      have hpos := List.length_pos_iff.2 hne
      rw [endLine, if_pos h, dropLineEnd, if_pos h, List.length_dropLast]
      omega
    simp only [h, ne_eq, not_true_eq_false, iff_false]
    intro heq
    rw [heq] at hlen
    exact lt_irrefl _ hlen
  · have hend : (text ++ ['\n']).getLast? = some '\n' := by simp
    rw [endLine, if_neg h, dropLineEnd, if_pos hend, List.dropLast_concat]
    simp [h]

theorem decode_error (description : String) :
    Reply.decode (Reply.error description).encode = .ok ⟨.error description, []⟩ ↔
      description.toList.getLast? ≠ some '\n' := by
  have hbreak : '\n' ∉ kindError.toList := by decide
  have htext : (Reply.error description).encode =
      kindError.toList ++ '\n' :: endLine description.toList := by
    simp [Reply.encode, markerLine]
  rw [htext, Reply.decode, if_neg (by simp), ← dropLineEnd_endLine]
  simp only [Text.line_append hbreak, Text.afterLine_append hbreak]
  rw [if_neg (by decide), if_true]
  simp only [Except.ok.injEq, Decoded.mk.injEq, Reply.error.injEq, and_true]
  rw [← String.toList_inj, String.toList_ofList]

/-- **Exactly these replies are read back from their wire form**: of those whose values have lengths
    that can be read, all but an error whose text ends in a line feed, and the description of a
    volume of which nothing is known. -/
theorem decode_encode_reply (reply : Reply) :
    Reply.decode reply.encode = .ok ⟨reply, []⟩ ↔
      reply.Sized ∧
        (¬ ∃ description, reply = .error description ∧
          description.toList.getLast? = some '\n') ∧
        reply ≠ .detail {} := by
  cases reply with
  | ok =>
    have hs : Reply.ok.Sized := nofun
    have hdecode : Reply.decode Reply.ok.encode = .ok ⟨.ok, []⟩ := by decide
    simp [hs, hdecode]
  | error description =>
    have hs : (Reply.error description).Sized := nofun
    simp [decode_error, hs]
  | listing records =>
    constructor
    · intro h
      exact ⟨Reply.decode_sized h, nofun, nofun⟩
    · rintro ⟨hs, -⟩
      obtain ⟨body, hbody, hreply⟩ := DataBody.foldlM_listing records
      have hne : listingFields records ≠ [] := by cases records <;> simp [listingFields]
      have h := decode_fields hne hs hbody
      rw [hreply] at h
      exact h
  | detail record =>
    constructor
    · intro h
      refine ⟨Reply.decode_sized h, nofun, ?_⟩
      -- nothing is written of a volume of which nothing is known
      intro heq
      cases heq
      revert h
      decide
    · rintro ⟨hs, -, hne⟩
      obtain ⟨body, hbody, hreply⟩ := DataBody.foldlM_detail record
      have hfields : record.fields ≠ [] := by
        intro hnil
        exact hne (by rw [Record.fields_eq_nil.1 hnil])
      have h := decode_fields hfields hs hbody
      rw [hreply] at h
      exact h

example : Reply.decode (Reply.error "busy\n").encode = .ok ⟨.error "busy", []⟩ := by decide

example : Reply.decode (Reply.detail {}).encode = .error .emptyData := by decide

end MountControl.Wire
