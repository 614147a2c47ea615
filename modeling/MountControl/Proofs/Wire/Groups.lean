/-
  MountControl — a data body is read group by group.

  A data body is read by a machine with three flags, field by field.  What
  comes out can be said of the fields at once: the marks of entries split
  them into groups, and each group is folded into one volume on its own.

  * `groups` are the groups, and `Record.ofFields` is the volume of one;
  * `Reply.ofData` is the reply that the fields should make, and
    `dataObjection` what should be wrong with one field more;
  * `decodeData_message` and `decodeData_issues`: the machine comes to that
    reply, and to those objections besides the issues of the reader.
-/
import Mathlib.Data.List.Induction
import MountControl.Proofs.Wire.FirstValue

namespace MountControl.Volume

open Wire (Field Holdings Obeys Slot obeys_of_holdings objection)

/-! ## Volumes -/

/-- The description with one field more, which is left out if it is refused. -/
def Record.absorb (record : Record) (field : Field) : Record :=
  match record.accept field with
  | .ok next => next
  | .error _ => record

/-- The volume that a group of fields describes. -/
def Record.ofFields (group : List Field) : Record := group.foldl absorb {}

theorem Record.absorb_obeys {wrong : Option Wire.IssueKind} {record : Record} {field : Field}
    {after : Record → Prop} (h : Obeys accept wrong record field after) :
    after (record.absorb field) := by
  cases h with
  | refused _ haccept hafter => rwa [absorb, haccept]
  | taken _ haccept hafter => rwa [absorb, haccept]

theorem Record.ofFields_obeys (group : List Field) (field : Field) :
    (ofFields group).holdings = .ofEntry group ∧
      Obeys accept (objection Field.inRecord group field) (ofFields group) field
        (·.holdings = .ofEntry (group ++ [field])) := by
  have hstep : ∀ group : List Field, (ofFields group).holdings = .ofEntry group → ∀ field,
      Obeys accept (objection Field.inRecord group field) (ofFields group) field
        (·.holdings = .ofEntry (group ++ [field])) := fun group h field =>
    obeys_of_holdings ((ofFields group).accept_holdings field) h
  suffices h : (ofFields group).holdings = .ofEntry group from ⟨h, hstep group h field⟩
  induction group using List.reverseRecOn with
  | nil => exact Wire.holdings_blank
  | append_singleton group last ih =>
    rw [ofFields, List.foldl_append]
    exact absorb_obeys (hstep group ih last)

/-- What a description holds is all that there is to it. -/
theorem Record.holdings_injective : Function.Injective Record.holdings := by
  intro record other h
  have hfirst : ∀ slot, record.holdings.first slot = other.holdings.first slot := fun slot =>
    congrArg (Holdings.first · slot) h
  have hmap : ∀ {β : Type} {make : β → Field} {one two : Option β},
      (∀ a b, make a = make b → a = b) → one.map make = two.map make → one = two :=
    fun hmake heq => Option.map_injective hmake heq
  rcases record with ⟨id, state, fsUuid, label, options⟩
  rcases other with ⟨id', state', fsUuid', label', options'⟩
  obtain rfl : id = id' := hmap (fun _ _ => Field.instanceId.inj) (hfirst .instanceId)
  obtain rfl : state = state' := hmap (fun _ _ => Field.state.inj) (hfirst .state)
  obtain rfl : fsUuid = fsUuid' := hmap (fun _ _ => Field.fsUuid.inj) (hfirst .fsUuid)
  obtain rfl : label = label' := hmap (fun _ _ => Field.label.inj) (hfirst .label)
  rcases options with ⟨mountPoint, devices, subvolName, subvolId, dumpTarget, testRun⟩
  rcases options' with ⟨mountPoint', devices', subvolName', subvolId', dumpTarget', testRun'⟩
  obtain rfl : mountPoint = mountPoint' :=
    hmap (fun _ _ => Field.mountPoint.inj) (hfirst .mountPoint)
  obtain rfl : subvolName = subvolName' := hmap (fun _ _ => Field.subvol.inj) (hfirst .subvol)
  obtain rfl : subvolId = subvolId' := hmap (fun _ _ => Field.subvolId.inj) (hfirst .subvolId)
  obtain rfl : dumpTarget = dumpTarget' := hmap (fun _ _ => Field.dump.inj) (hfirst .dump)
  obtain rfl : devices = devices' := congrArg Holdings.devices h
  obtain rfl : testRun = testRun' := congrArg Holdings.testRun h
  rfl

end MountControl.Volume

namespace MountControl.Wire

open Volume (Record)

/-! ## Groups -/

/-- The groups of fields in a data body: those in front of the first entry mark, and those behind
    each.  The marks of an empty listing belong to none of them. -/
def groups (fields : List Field) : List (List Field) :=
  (fields.splitOn .entry).map (·.filter (· ≠ .noEntries))

/-- The groups that are volumes of a listing: all, but for an empty one in front of the first
    entry mark. -/
def listed : List (List Field) → List (List Field)
  | [] :: marked => marked
  | groups => groups

/-- **The reply that the fields of a data body should make.**  It is a listing if there is an entry
    mark, or if the mark of an empty listing stands before any field of a volume; and else one
    volume.  Each group makes its volume on its own. -/
def Reply.ofData (fields : List Field) : Reply :=
  if .entry ∈ fields ∨ .noEntries ∈ fields.takeWhile Field.isMarker then
    .listing ((listed (groups fields)).map Record.ofFields)
  else .detail (Record.ofFields (fields.filter (· ≠ .noEntries)))

/-- What should be wrong with one field more in a data body: with the mark of an empty listing, that
    something else was read before it; with a field of a volume, that its group has refused it, as
    it is a repeat. -/
def dataObjection (before : List Field) : Field → Option IssueKind
  | .entry => none
  | .noEntries => if before.any (· ≠ .noEntries) then some .unexpectedField else none
  | field =>
    if ((Record.ofFields ((groups before).getLastD [])).accept field).isOk then none
    else some .duplicateField

/-- A group refuses the repeats, and nothing else. -/
theorem dataObjection_of_isMarker {before : List Field} {field : Field}
    (h : field.isMarker = false) :
    dataObjection before field =
      if ((Record.ofFields ((groups before).getLastD [])).accept field).isOk then none
      else some .duplicateField := by
  cases field with
  | entry | noEntries => cases h
  | _ => rfl

section
variable {α : Type} [BEq α] [LawfulBEq α]

/-- The first block reaches up to the first mark, and each mark has one block behind it. -/
theorem splitOn_eq_cons (mark : α) (xs : List α) :
    ∃ marked, xs.splitOn mark = xs.takeWhile (· != mark) :: marked ∧
      marked.length = xs.count mark := by
  induction xs with
  | nil => exact ⟨[], List.splitOn_nil _, rfl⟩
  | cons x xs ih =>
    obtain ⟨marked, hsplit, hlength⟩ := ih
    rw [List.splitOn_cons_eq_if_modifyHead, hsplit]
    by_cases hx : x = mark
    · subst hx
      exact ⟨xs.takeWhile (· != x) :: marked, by simp, by simp [hlength]⟩
    · exact ⟨marked, by simp [hx], by simp [hx, hlength]⟩

end

/-- Without entry marks, the fields of volumes are all but the marks of an empty listing. -/
theorem inRecord_of_block {block : List Field} (h : .entry ∉ block) :
    ∀ field ∈ block, field.inRecord = decide (field ≠ .noEntries) := by
  intro field hfield
  cases field with
  | entry => exact absurd hfield h
  | noEntries => rfl
  | _ => simp [Field.inRecord, Field.inOptions]

/-- The marks of an empty listing say nothing of a volume. -/
theorem ofEntry_filter (block : List Field) :
    Holdings.ofEntry (block.filter (· ≠ .noEntries)) = .ofEntry block := by
  have hplace : ∀ field ∈ block,
      (field.inRecord && decide (field ≠ .noEntries)) = field.inRecord := by
    intro field _
    cases field <;> rfl
  rw [Holdings.ofEntry, List.filter_filter, List.filter_congr hplace]
  rfl

theorem holdings_ofFields (block : List Field) :
    (Record.ofFields (block.filter (· ≠ .noEntries))).holdings = .ofEntry block :=
  (Record.ofFields_obeys _ .entry).1.trans (ofEntry_filter block)

/-- The volumes of a data body are its groups, but for an empty first one. -/
theorem map_volumes (fields : List Field) :
    (volumes (fields.splitOn .entry)).map (·.filter (· ≠ .noEntries)) = listed (groups fields) := by
  obtain ⟨marked, hsplit, -⟩ := splitOn_eq_cons .entry fields
  have hmark : .entry ∉ fields.takeWhile (· != .entry) := fun h => by
    simpa using List.mem_takeWhile_imp h
  rw [groups, hsplit, List.map_cons, volumes]
  generalize fields.takeWhile (· != .entry) = first at hmark
  have hblock := inRecord_of_block hmark
  split
  next hany =>
    obtain ⟨field, hfield, hplace⟩ := List.any_eq_true.1 hany
    have hsome : first.filter (· ≠ .noEntries) ≠ [] :=
      List.ne_nil_of_mem (List.mem_filter.2 ⟨hfield, hblock field hfield ▸ hplace⟩)
    obtain ⟨head, tail, heq⟩ := List.exists_cons_of_ne_nil hsome
    rw [List.map_cons, heq]
    rfl
  next hnone =>
    have hempty : first.filter (· ≠ .noEntries) = [] := by
      rw [List.filter_eq_nil_iff]
      intro field hfield hother
      exact hnone (List.any_eq_true.2 ⟨field, hfield, (hblock field hfield).trans hother⟩)
    rw [hempty]
    rfl

/-! ## What is wrong -/

theorem duplicate_of_objection {takes : Field → Bool} {before : List Field} {field : Field}
    {kind : IssueKind} (htakes : takes field) (h : objection takes before field = some kind) :
    kind = .duplicateField := by
  rw [objection, Holdings.objection, htakes] at h
  split at h
  next hnone => cases hnone
  next =>
    split at h
    next => cases h; rfl
    next => cases h

/-- Something is wrong with a field of a volume exactly if its group refuses it. -/
theorem objection_eq (block : List Field) {field : Field} (hplace : field.inRecord) :
    objection Field.inRecord block field =
      if ((Record.ofFields (block.filter (· ≠ .noEntries))).accept field).isOk then none
      else some .duplicateField := by
  have hgroup := (Record.ofFields_obeys (block.filter (· ≠ .noEntries)) field).2
  have hsame : objection Field.inRecord (block.filter (· ≠ .noEntries)) field =
      objection Field.inRecord block field :=
    congrArg (Holdings.objection · Field.inRecord field) (ofEntry_filter block)
  rw [hsame] at hgroup
  cases hgroup with
  | refused hobjection haccept _ =>
    rw [haccept, hobjection, duplicate_of_objection hplace hobjection]
    rfl
  | taken hobjection haccept _ =>
    rw [haccept, hobjection]
    rfl

theorem getLastD_groups (before : List Field) :
    (groups before).getLastD [] =
      ((before.splitOn .entry).getLastD []).filter (· ≠ .noEntries) := by
  rw [groups, List.getLastD_eq_getLast?, List.getLastD_eq_getLast?, List.getLast?_map]
  cases (before.splitOn .entry).getLast? <;> rfl

theorem objectionToData_eq : objectionToData = dataObjection := by
  funext before field
  have hfield : field.inRecord → field.isMarker = false →
      objectionToData before field = dataObjection before field := by
    intro hplace hmarker
    rw [dataObjection_of_isMarker hmarker, getLastD_groups, ← objection_eq _ hplace,
      objectionToData, if_neg, if_neg]
    · rintro rfl; cases hplace
    · rintro rfl; cases hplace
  cases field with
  | entry => rfl
  | noEntries =>
    have hbefore : .entry ∈ before ∨ before.any Field.inRecord ↔
        before.any (· ≠ .noEntries) := by
      simp only [List.any_eq_true, decide_eq_true_eq]
      constructor
      · rintro (hentry | ⟨field, hmem, hplace⟩)
        · exact ⟨.entry, hentry, by simp⟩
        · exact ⟨field, hmem, by rintro rfl; cases hplace⟩
      · rintro ⟨field, hmem, hne⟩
        cases field with
        | entry => exact .inl hmem
        | noEntries => exact absurd rfl hne
        | _ => exact .inr ⟨_, hmem, rfl⟩
    simp only [objectionToData, dataObjection, hbefore]
    rfl
  | _ => exact hfield rfl rfl

/-! ## The machine -/

theorem objectionToData_nil (field : Field) : objectionToData [] field = none := by
  cases field <;> rfl

theorem DataBody.denied_of_accept {body next : DataBody} {field : Field}
    (h : body.accept field = .ok next) :
    next.denied = (body.denied || field == .noEntries) := by
  cases hmarker : field.isMarker with
  | false =>
    have hne : (field == .noEntries) = false := by
      cases field with
      | noEntries => cases hmarker
      | _ => rfl
    rw [accept_of_isMarker hmarker] at h
    obtain ⟨record, -, rfl⟩ := map_eq_ok.1 h
    simp [hne]
  | true =>
    cases field with
    | entry => cases h; simp
    | noEntries =>
      rw [accept] at h
      split at h
      next => cases h
      next => cases h; simp
    | _ => cases hmarker

/-- The mark of an empty listing counts exactly if it is the first field. -/
theorem DataBody.denied_step {before : List Field} {body next : DataBody} {field : Field}
    (hdenied : body.denied = (before.head? == some .noEntries))
    (hobjection : objectionToData before field = none) (h : body.accept field = .ok next) :
    next.denied = ((before ++ [field]).head? == some .noEntries) := by
  rw [denied_of_accept h, hdenied]
  cases before with
  | nil => simp
  | cons first before =>
    by_cases hfield : field = .noEntries
    · subst hfield
      -- nothing else may stand before a mark that counts
      rw [objectionToData_eq] at hobjection
      have hfirst : first = .noEntries := by
        by_contra hne
        simp [dataObjection, hne] at hobjection
      simp [hfirst]
    · simp [hfield]

theorem decodeData_body (body : List Char) :
    let fields := readable (Reader.items ⟨body, 1, none⟩)
    let read := (readBody DataBody.accept {} body).message
    read.Fits fields ∧ read.denied = (fields.head? == some .noEntries) := by
  have hstep : ∀ before (body : DataBody) field,
      (body.Fits before ∧ body.denied = (before.head? == some .noEntries)) →
        Obeys DataBody.accept (objectionToData before field) body field fun next =>
          next.Fits (before ++ [field]) ∧
            next.denied = ((before ++ [field]).head? == some .noEntries) := by
    rintro before body field ⟨hfits, hdenied⟩
    cases hfits.step field with
    | refused hobjection haccept hafter =>
      refine .refused hobjection haccept ⟨hafter, ?_⟩
      cases before with
      | nil => rw [objectionToData_nil] at hobjection; cases hobjection
      | cons first before => exact hdenied
    | taken hobjection haccept hafter =>
      exact .taken hobjection haccept ⟨hafter, body.denied_step hdenied hobjection haccept⟩
  have hstart : DataBody.Fits [] {} :=
    ⟨[], [], List.splitOn_nil _, rfl, holdings_blank, rfl, rfl⟩
  exact (readBody_follows hstep ⟨hstart, rfl⟩ body).1

theorem DataBody.Fits.entryOpen {fields : List Field} {body : DataBody} (h : body.Fits fields) :
    body.entryOpen = true ↔ .entry ∈ fields := by
  obtain ⟨earlier, last, hsplit, h⟩ := h
  rw [h.entryOpen]
  obtain ⟨hlast, ⟨rfl, rfl⟩ | ⟨front, rfl, rfl⟩⟩ := of_splitOn_eq_concat hsplit
  · simpa using hlast
  · simp

/-- Where there is no entry mark, the mark of an empty listing stands before any field of a volume
    exactly if it is the first. -/
theorem listing_iff (fields : List Field) :
    .entry ∈ fields ∨ fields.head? = some .noEntries ↔
      .entry ∈ fields ∨ .noEntries ∈ fields.takeWhile Field.isMarker := by
  refine or_congr_right' fun hentry => ?_
  cases fields with
  | nil => simp
  | cons first rest =>
    cases first with
    | entry => exact absurd List.mem_cons_self hentry
    | noEntries =>
      rw [List.takeWhile_cons_of_pos rfl]
      simp
    | _ => simp [List.takeWhile, Field.isMarker]

/-- **The machine comes to the reply that its fields should make.** -/
theorem decodeData_message (body : List Char) :
    (decodeData body).message = .ofData (readable (Reader.items ⟨body, 1, none⟩)) := by
  obtain ⟨hfits, hdenied⟩ := decodeData_body body
  have hholds := hfits.reply
  have hmessage : (decodeData body).message = (readBody DataBody.accept {} body).message.reply :=
    rfl
  rw [hmessage]
  generalize (readBody DataBody.accept {} body).message = read at *
  generalize readable (Reader.items ⟨body, 1, none⟩) = fields at *
  have hlisting : (read.entryOpen || read.denied) = true ↔
      .entry ∈ fields ∨ .noEntries ∈ fields.takeWhile Field.isMarker := by
    rw [← listing_iff, Bool.or_eq_true, hfits.entryOpen, hdenied, beq_iff_eq]
  rw [DataBody.reply_eq] at hholds ⊢
  by_cases hlist : (read.entryOpen || read.denied) = true
  · rw [if_pos hlist] at hholds ⊢
    rw [Reply.ofData, if_pos (hlisting.1 hlist), ← map_volumes, List.map_map]
    have hrecords : read.finished.reverse.map Record.holdings =
        (volumes (fields.splitOn .entry)).map Holdings.ofEntry := hholds
    refine congrArg Reply.listing ((List.map_inj_right @Record.holdings_injective).1 ?_)
    rw [hrecords, List.map_map]
    exact List.map_congr_left fun block _ => (holdings_ofFields block).symm
  · rw [if_neg hlist] at hholds ⊢
    rw [Reply.ofData, if_neg (mt hlisting.2 hlist)]
    exact congrArg Reply.detail
      (Record.holdings_injective (hholds.2.trans (holdings_ofFields fields).symm))

/-- The issues are those that the reader meets, and the objections to fields. -/
theorem decodeData_issues (body : List Char) :
    (decodeData body).issues =
      complaints dataObjection [] (Reader.items ⟨body, 1, none⟩) := by
  rw [(decodeData_follows body).2, objectionToData_eq]

/-- **A data body is read as its groups are folded.**  The reply is made of the fields that can be
    read, group by group.  The issues are those that the reader meets, one for each mark of an empty
    listing behind anything else, and one for each repeat within a group. -/
theorem decodeData_by_groups (body : List Char) :
    let items := Reader.items ⟨body, 1, none⟩
    decodeData body = ⟨.ofData (readable items), complaints dataObjection [] items⟩ := by
  intro items
  have hmessage := decodeData_message body
  have hissues := decodeData_issues body
  generalize decodeData body = decoded at hmessage hissues
  cases decoded
  simp only at hmessage hissues
  rw [hmessage, hissues]

/-- Two entries, of which the second has two labels, behind a field of no entry. -/
example : (decodeData "State|Starting\nEntry\nNo Entries\nEntry\nLabel|1|a\nlabel|1|b\n".toList) =
    ⟨.listing [{ state := some .starting }, {}, { label := some "a" }],
      [⟨3, .unexpectedField, "NoEntries"⟩, ⟨6, .duplicateField, "Label(\"b\")"⟩]⟩ := by
  decide +kernel

end MountControl.Wire
