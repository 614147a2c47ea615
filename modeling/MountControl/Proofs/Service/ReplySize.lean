/-
  MountControl — how long replies are.

  The limit on messages bounds every request, but no reply: a reply is as
  long as what it tells.

  * `described_size`: the description of a volume is as long as the requests
    that make it, but for at most 43 bytes;
  * `Refused.utf8ByteSize_message`: a refusal is hardly longer than the
    request;
  * `replies_bounded`: the bounds for all replies of any run;
  * `listing_outgrows_limit`: one volume that was accepted within the limit
    can make a listing that is not.
-/
import MountControl.Proofs.Service.Provenance
import MountControl.Proofs.Service.Refusal
import MountControl.Proofs.Text.Utf8
import MountControl.Proofs.Wire.Framing
import MountControl.Proofs.Wire.Reencoding

namespace MountControl.Volume

open Wire (Field Request)

/-- The bytes of a volume's description. -/
def Record.size (record : Record) : Nat := (record.fields.map Field.size).sum

/-- The bytes of the requests that make it. -/
def Record.told (record : Record) : Nat := (record.requests.map Request.size).sum

end MountControl.Volume

namespace MountControl.Wire

open Text (byteLength byteLength_append byteLength_lineFeed byteLength_nil byteLength_toList)
open Volume (Record)

/-! ## Replies -/

/-- The length of a reply. -/
def Reply.size (reply : Reply) : Nat := byteLength reply.encode

/-- The volumes that a reply tells of. -/
def Reply.records : Reply → List Record
  | .listing records => records
  | .detail record => [record]
  | _ => []

theorem Reply.size_detail (record : Record) :
    (Reply.detail record).size = record.size + 5 := by
  have hkind : kindData.utf8ByteSize = 4 := by decide
  rw [size, encode, byteLength_append, byteLength_render, byteLength_markerLine, hkind,
    Record.size]
  omega

/-- In a listing every volume stands behind a mark. -/
theorem Reply.size_listing (record : Record) (records : List Record) :
    (Reply.listing (record :: records)).size =
      ((record :: records).map fun record => record.size + 6).sum + 5 := by
  have hkind : kindData.utf8ByteSize = 4 := by decide
  have hentry : Field.entry.size = 6 := by decide
  have hblocks : ∀ records : List Record,
      ((records.flatMap fun record => Field.entry :: record.fields).map Field.size).sum =
        (records.map fun record => record.size + 6).sum := by
    intro records
    induction records with
    | nil => rfl
    | cons record records ih =>
      rw [List.flatMap_cons, List.map_append, List.sum_append, ih, List.map_cons, List.sum_cons,
        List.map_cons, List.sum_cons, hentry, Record.size]
      omega
  rw [size, encode, byteLength_append, byteLength_render, byteLength_markerLine, hkind,
    listingFields, hblocks]
  · omega
  · exact List.cons_ne_nil record records

theorem Reply.size_error_le (description : String) :
    (Reply.error description).size ≤ description.utf8ByteSize + 7 := by
  have hkind : kindError.utf8ByteSize = 5 := by decide
  have hle : byteLength (endLine description.toList) ≤ description.utf8ByteSize + 1 := by
    rw [endLine]
    split
    · rw [byteLength_toList]; omega
    · rw [byteLength_append, byteLength_toList, byteLength_lineFeed, byteLength_nil]
  rw [size, encode, byteLength_append, byteLength_markerLine, hkind]
  omega

end MountControl.Wire

namespace MountControl.Service

open Text (byteLength byteLength_toList)
open Volume (InstanceId Options RawOptions Record Uuid)
open Wire (Field Reply Request maxMessageBytes readReply)

variable {σ : Type}

/-! ## Descriptions -/

theorem size_mount (options : RawOptions) :
    (Request.mount options).size = (options.fields.map Field.size).sum + 6 := by
  have hkind : "Mount".utf8ByteSize = 5 := by decide
  rw [Request.size_eq, Request.kind, hkind, Request.fields]
  omega

/-- A description is as long as the requests that make it, but for the volume's state, its mark in
    a listing, and the headers of the requests. -/
theorem described_size (id : InstanceId) (options : RawOptions)
    (report : Option (Uuid × Option String)) :
    (described id options report).told + 3 ≤ (described id options report).size + 6 ∧
      (described id options report).size + 6 ≤ (described id options report).told + 43 := by
  rcases report with _ | ⟨fsUuid, label⟩
  · have hstate : (Field.state .starting).size = 15 := by decide
    have htold : (described id options none).told = (Request.mount options).size := by
      simp [Record.told, Record.requests, described]
    rw [htold, size_mount, Record.size, fields_described_none]
    simp only [List.map_cons, List.sum_cons, Field.size_instanceId, hstate]
    omega
  · have hstate : (Field.state .mounted).size = 14 := by decide
    have hkind : "DrvMounted".utf8ByteSize = 10 := by decide
    have htold : (described id options (some (fsUuid, label))).told =
        (Request.mount options).size + (Request.mounted (some id) (some fsUuid) label).size := by
      simp [Record.told, Record.requests, described]
    rw [htold, size_mount, Request.size_eq, Request.kind, hkind, Record.size,
      fields_described_some]
    simp only [Request.fields, Option.toList_some, List.map_cons, List.map_nil, List.map_append,
      List.sum_append, List.sum_cons, List.sum_nil, Field.size_instanceId, Field.size_fsUuid,
      hstate]
    omega

theorem size_listing_le {records : List Record}
    (h : ∀ record ∈ records, record.size + 6 ≤ record.told + 43) :
    (Reply.listing records).size ≤ (records.map fun record => record.told + 43).sum + 16 := by
  cases records with
  | nil => decide
  | cons record records =>
    rw [Reply.size_listing]
    have hsum := List.sum_le_sum h
    omega

/-! ## Refusals -/

theorem utf8ByteSize_display (id : InstanceId) : id.display.utf8ByteSize = 16 := by
  rw [InstanceId.display, Text.utf8ByteSize_ofList, id.byteLength_chars]

theorem OptionsError.utf8ByteSize_message (error : Volume.OptionsError) :
    error.message.utf8ByteSize ≤ 55 := by
  cases error with
  | impossibleSubvolumeId id =>
    have hdigits : (Text.Numeral.decimal id.toNat).length ≤ 20 :=
      Text.Numeral.length_decimal_le_of_lt (by omega) (id.toNat_lt.trans_le (by decide))
    have htext : " is an impossible subvolume ID".utf8ByteSize = 30 := by decide
    rw [Volume.OptionsError.message, String.utf8ByteSize_append, htext,
      Text.Numeral.decimalString, Text.utf8ByteSize_ofList, Text.Numeral.byteLength_decimal]
    omega
  | _ => decide

/-- A request is longer than each of its values. -/
theorem utf8ByteSize_lt_size {request : Request} {field : Field} {value : String}
    (hfield : field ∈ request.fields) (hvalue : field.counted? = some value) :
    value.utf8ByteSize < request.size := by
  have hlt := Field.utf8ByteSize_lt_size hvalue
  have hle := Field.size_le_sum hfield
  rw [Request.size_eq]
  omega

/-- **A refusal is hardly longer than the request.** -/
theorem Refused.utf8ByteSize_message {registry : Registry} {request : Request}
    {rejection : Rejection} (h : Refused registry request rejection) :
    rejection.message.utf8ByteSize ≤ request.size + 80 := by
  cases h with
  | @invalidOptions raw error _ =>
    have htext : "invalid mount options: ".utf8ByteSize = 23 := by decide
    have herror := OptionsError.utf8ByteSize_message error
    change ("invalid mount options: " ++ error.message).utf8ByteSize ≤ _
    rw [String.utf8ByteSize_append, htext]
    omega
  | @mountPointInUse raw options existing hvalid _ =>
    obtain ⟨rfl, -⟩ := Volume.validate_eq_ok_iff.1 hvalid
    have hfield : .mountPoint options.mountPoint ∈ (Request.mount options.raw).fields := by
      simp [Request.fields, RawOptions.fields, Options.raw]
    have hvalue := utf8ByteSize_lt_size hfield rfl
    have hfront : "mount point ".utf8ByteSize = 12 := by decide
    have hmiddle : " is already in use by instance ".utf8ByteSize = 31 := by decide
    change ("mount point " ++ options.mountPoint ++ " is already in use by instance " ++
      existing.id.display).utf8ByteSize ≤ _
    simp only [String.utf8ByteSize_append, hfront, hmiddle, utf8ByteSize_display]
    omega
  | questionUnknown | reportUnknown | unmountUnknown =>
    have htext : "no volume with instance ID ".utf8ByteSize = 27 := by decide
    change ("no volume with instance ID " ++ InstanceId.display _).utf8ByteSize ≤ _
    rw [String.utf8ByteSize_append, htext, utf8ByteSize_display]
    omega
  | @unmountNowhere mountPoint _ =>
    have hfield : .mountPoint mountPoint ∈ (Request.unmount none (some mountPoint)).fields :=
      List.mem_cons_self
    have hvalue := utf8ByteSize_lt_size hfield rfl
    have htext : "no volume is mounted at ".utf8ByteSize = 24 := by decide
    change ("no volume is mounted at " ++ mountPoint).utf8ByteSize ≤ _
    rw [String.utf8ByteSize_append, htext]
    omega
  | questionWithoutId | reportWithoutId | reportWithoutUuid | unmountNothing | unknownKind =>
    exact le_add_of_le_right (by decide)

/-! ## Answers -/

section
variable {dispatcher : Dispatcher σ} {stage : Stage σ} {request : Request}

/-- An error is hardly longer than the request, or is what the launcher says. -/
theorem observe_error_size {description : String}
    (h : (stage.observe dispatcher request).1.answer = .ok (.error description)) :
    (Reply.error description).size ≤ request.size + 87 ∨
      ∃ id options error,
        (id, options, .failed error) ∈ (stage.observe dispatcher request).1.launches ∧
          description = error.message := by
  obtain ⟨note, result, after, effects, hr, htrace, hanswer, -, hview⟩ :=
    observe_calls dispatcher stage request
  obtain ⟨rejection, hrejection, rfl⟩ := hr.rejection_of_error (hanswer.symm.trans h)
  cases hr with
  | refused hrefused =>
    cases hrejection
    have hmessage := hrefused.utf8ByteSize_message
    have hsize := Reply.size_error_le rejection.message
    exact .inl (by omega)
  | @failed _ options id _ error _ hl =>
    cases hrejection
    refine .inr ⟨id, options, error, ?_, rfl⟩
    rw [Event.launches, hview Effect.distinctive_launch?, ← List.append_cancel_left htrace]
    exact List.mem_cons_self
  | stuck | panicked | listed | described | started | reported | stopped | abandoned =>
    cases hrejection

/-- What a reply tells of is what the registry holds. -/
theorem observe_records {reply : Reply}
    (h : (stage.observe dispatcher request).1.answer = .ok reply) :
    ∀ record ∈ reply.records, record ∈ (stage.observe dispatcher request).2.registry.records := by
  obtain ⟨note, result, after, effects, hr, -, hanswer, hregistry, -⟩ :=
    observe_calls dispatcher stage request
  rw [hregistry]
  have hreply := hanswer.symm.trans h
  cases hr with
  | stuck | panicked => cases hreply
  | refused | failed | started | reported | stopped | abandoned =>
    cases hreply
    exact fun _ hrecord => absurd hrecord List.not_mem_nil
  | listed => cases hreply; exact fun _ hrecord => hrecord
  | @described id entry hget =>
    cases hreply
    intro record hrecord
    rw [List.mem_singleton.1 hrecord]
    exact List.mem_map_of_mem (List.mem_of_find?_eq_some hget)

end

/-- **What a reply tells of was told before**, by requests that were met. -/
theorem Recorded.told {history : List Event} {stage : Stage σ} (h : Recorded history stage)
    {dispatcher : Dispatcher σ} {request : Request} {reply : Reply}
    (ha : (stage.observe dispatcher request).1.answer = .ok reply) :
    ∀ record ∈ reply.records, record.size + 6 ≤ record.told + 43 ∧
      ∀ told ∈ record.requests, ∃ event ∈ history, event.request = told := by
  intro record hrecord
  have hmem := observe_records ha record hrecord
  rw [(h.observe dispatcher request).records] at hmem
  obtain ⟨⟨id, options, report, rfl⟩, htold⟩ := of_mem_volumes hmem
  refine ⟨(described_size id options report).2, fun told ht => ?_⟩
  obtain ⟨event, he, hrequest, hmet⟩ := htold told ht
  rcases List.mem_append.1 he with he | he
  · exact ⟨event, he, hrequest⟩
  · -- the request that is answered by a description tells nothing itself
    rw [List.mem_singleton.1 he, ha] at hmet
    cases hmet
    cases hrecord

/-! ## Runs -/

/-- A request as it was received is at most 20 bytes longer than its text, and that at most three
    times as long as the message; of a message that is a text, it is the message. -/
theorem size_received (message : List UInt8) :
    (Request.received message).size ≤ byteLength (Text.decodeLossy message) + 20 ∧
      byteLength (Text.decodeLossy message) ≤ 3 * message.length ∧
      ∀ text, message = Text.encode text →
        byteLength (Text.decodeLossy message) = message.length := by
  refine ⟨Request.size_decode _, Text.byteLength_decodeLossy message, ?_⟩
  rintro text rfl
  rw [Text.decodeLossy_encode, Text.length_encode]

theorem told_le {messages : List (List UInt8)} {record : Record} {bound : Nat}
    (h : ∀ told ∈ record.requests, ∃ message ∈ messages, Request.received message = told)
    (hbound : ∀ message ∈ messages, message.length ≤ bound) :
    record.told ≤ 2 * (3 * bound + 20) := by
  have hlength : record.requests.length ≤ 2 := by
    rw [Record.requests]
    cases record.fsUuid <;> simp
  have hsizes : ∀ size ∈ record.requests.map Request.size, size ≤ 3 * bound + 20 := by
    intro size hsize
    obtain ⟨told, ht, rfl⟩ := List.mem_map.1 hsize
    obtain ⟨message, hmessage, rfl⟩ := h told ht
    obtain ⟨hrequest, htext, -⟩ := size_received message
    have hle := hbound message hmessage
    omega
  calc record.told ≤ (record.requests.map Request.size).length * (3 * bound + 20) :=
      List.sum_le_card_nsmul _ _ hsizes
    _ = record.requests.length * (3 * bound + 20) := by rw [List.length_map]
    _ ≤ 2 * (3 * bound + 20) := Nat.mul_le_mul_right _ hlength

/-- What bounds the answer of an event: what it tells of volumes, or the request itself.  What the
    launcher says is not bounded. -/
def Event.Bounds (event : Event) : Reply → Prop
  | .ok => Reply.ok.size = 3
  | .listing records =>
    (Reply.listing records).size ≤ (records.map fun record => record.told + 43).sum + 16
  | .detail record => (Reply.detail record).size ≤ record.told + 42
  | .error description =>
    (Reply.error description).size ≤ event.request.size + 87 ∨
      ∃ id options error, (id, options, .failed error) ∈ event.launches ∧
        description = error.message

theorem Recorded.bounds {history : List Event} {stage : Stage σ} (h : Recorded history stage)
    {dispatcher : Dispatcher σ} {request : Request} {reply : Reply}
    (ha : (stage.observe dispatcher request).1.answer = .ok reply) :
    (stage.observe dispatcher request).1.Bounds reply := by
  have htold := h.told ha
  cases reply with
  | ok => exact (by decide : Reply.ok.size = 3)
  | listing records => exact size_listing_le fun record hrecord => (htold record hrecord).1
  | detail record =>
    have hrecord := (htold record List.mem_cons_self).1
    rw [Event.Bounds, Reply.size_detail]
    omega
  | error description => exact observe_error_size ha

/-- What volumes there are is all that makes an answer long. -/
theorem Event.Bounds.size_le {event : Event} {reply : Reply} (h : event.Bounds reply)
    (hne : ∀ description, reply ≠ .error description) {bound : Nat}
    (hbound : ∀ record ∈ reply.records, record.told + 43 ≤ bound) :
    reply.size ≤ reply.records.length * bound + 16 := by
  cases reply with
  | ok => exact Nat.le_trans (Nat.le_of_eq h) (by omega)
  | listing records =>
    have hsum := List.sum_le_card_nsmul _ _ (List.forall_mem_map.2 hbound)
    calc (Reply.listing records).size
        ≤ (records.map fun record => record.told + 43).sum + 16 := h
      _ ≤ (records.map fun record => record.told + 43).length * bound + 16 :=
        Nat.add_le_add_right hsum 16
      _ = records.length * bound + 16 := by rw [List.length_map]
  | detail record =>
    have hrecord := hbound record List.mem_cons_self
    have hlength : (Reply.detail record).records.length = 1 := rfl
    rw [Event.Bounds] at h
    rw [hlength, Nat.one_mul]
    omega
  | error description => exact absurd rfl (hne description)

/-- **A reply is as long as what it tells.**  `OK` has three bytes.  A listing adds up the requests
    that made its volumes, all of them received before, and a description those of its volume.  An
    error is hardly longer than the request, if it is not the launcher's.  A request is at most 20
    bytes longer than its text, and that as long as the message, or three times that where the
    message is no text: so every volume adds at most 600,083 bytes to a listing, if messages are
    within the limit.  A client finds no reply oversized that is within the limit. -/
theorem replies_bounded (dispatcher : Dispatcher σ) (place : σ) (messages : List (List UInt8))
    (message : List UInt8) :
    let stage := ((Stage.initial place).run dispatcher (messages.map Request.received)).2
    let event := (stage.observe dispatcher (.received message)).1
    (∀ reply, event.answer = .ok reply →
      event.Bounds reply ∧
      (∀ record ∈ reply.records, ∀ told ∈ record.requests,
        ∃ earlier ∈ messages, Request.received earlier = told) ∧
      ((∀ earlier ∈ messages, earlier.length ≤ maxMessageBytes) →
        (∀ description, reply ≠ .error description) →
          reply.size ≤ reply.records.length * 600083 + 16) ∧
      ∀ window turns, turns.flatMap (·.2.bytes) = Text.encode reply.encode →
        readReply window turns = .error .oversized → maxMessageBytes < reply.size) ∧
    ∀ message, (Request.received message).size ≤ byteLength (Text.decodeLossy message) + 20 ∧
      byteLength (Text.decodeLossy message) ≤ 3 * message.length ∧
      ∀ text, message = Text.encode text →
        byteLength (Text.decodeLossy message) = message.length := by
  intro stage event
  refine ⟨fun reply ha => ?_, size_received⟩
  have hrecorded : Recorded _ stage :=
    recorded_run dispatcher place (messages.map Request.received)
  have hreceived : ∀ record ∈ reply.records, ∀ told ∈ record.requests,
      ∃ earlier ∈ messages, Request.received earlier = told := by
    intro record hrecord told ht
    obtain ⟨event, he, rfl⟩ := (hrecorded.told ha record hrecord).2 told ht
    exact mem_run_received he
  refine ⟨hrecorded.bounds ha, hreceived, fun hmessages hne => ?_,
    fun window turns hturns hover => ?_⟩
  · refine (hrecorded.bounds ha).size_le hne fun record hrecord => ?_
    have hle := told_le (hreceived record hrecord) hmessages
    rw [maxMessageBytes] at hle
    omega
  · have hlong := Wire.lt_of_readReply_oversized hover
    rwa [hturns, Text.length_encode] at hlong

/-! ## One volume -/

/-- The listing after a mount has one volume. -/
theorem listing_of_mounted {options : Options} (hvalid : options.raw.validate = .ok options)
    (hsize : (Text.encode (Request.mount options.raw).encode).length ≤ maxMessageBytes) :
    let dispatcher : Dispatcher Rehearsal.Cast := ⟨Rehearsal.rehearsal, .scripted [16], 1, 10⟩
    let stage := ((Stage.initial {}).run dispatcher
      [.received (Text.encode (Request.mount options.raw).encode)]).2
    (stage.observe dispatcher (.received (Text.encode Request.list.encode))).1.answer =
      .ok (.listing [described ⟨16⟩ options.raw none]) := by
  intro dispatcher stage
  have hlist : Request.received (Text.encode Request.list.encode) = .list :=
    Request.received_delivered nofun (by decide)
  have hmount : Request.received (Text.encode (Request.mount options.raw).encode) =
      .mount options.raw := Request.received_delivered nofun hsize
  have hstage : stage.registry = ⟨[.starting ⟨16⟩ options ⟨0, 1000⟩], 1⟩ ∧
      stage.place = { actors := [{}] } := by
    simp only [stage, hmount, Stage.run, Stage.observe, Stage.dispatch, Stage.route, Stage.mount]
    rw [hvalid]
    exact ⟨rfl, rfl⟩
  rw [hlist, listing_answer, Registry.records, registry_of_question (.inl rfl), hstage.1, hstage.2]
  rfl

/-- The listing of one volume is within the bounds. -/
theorem replies_bounded_one :
    let dispatcher : Dispatcher Rehearsal.Cast := ⟨Rehearsal.rehearsal, .scripted [16], 1, 10⟩
    let options : Options := ⟨"/mnt", ["/dev/sdb"], .default, none, false⟩
    let mount := Text.encode (Request.mount options.raw).encode
    let list := Text.encode Request.list.encode
    let stage := ((Stage.initial {}).run dispatcher [.received mount]).2
    let event := (stage.observe dispatcher (.received list)).1
    ∃ reply, event.answer = .ok reply ∧ reply.records = [described ⟨16⟩ options.raw none] ∧
      event.Bounds reply ∧ reply.size ≤ 600099 := by
  intro dispatcher options mount list stage event
  have hencode : (Request.mount options.raw).encode =
      "Mount\nMountPoint|4|/mnt\nDevice|8|/dev/sdb\n".toList := by decide +kernel
  have hmount : mount.length ≤ maxMessageBytes := by
    simp only [mount, hencode]
    decide
  have hvalid : options.raw.validate = .ok options := rfl
  have hanswer := listing_of_mounted hvalid hmount
  obtain ⟨hbounds, -, hsize, -⟩ := (replies_bounded dispatcher {} [mount] list).1 _ hanswer
  have hle := hsize (fun earlier he => List.mem_singleton.1 he ▸ hmount) fun _ => Reply.noConfusion
  exact ⟨_, hanswer, rfl, hbounds, by simpa [Reply.records] using hle⟩

/-! ## Beyond the limit -/

theorem listing_of_long {device : String} (hdevice : device.utf8ByteSize = 99960) :
    let dispatcher : Dispatcher Rehearsal.Cast := ⟨Rehearsal.rehearsal, .scripted [16], 1, 10⟩
    let options : Options := ⟨"/mnt", [device], .default, none, false⟩
    let mount := Text.encode (Request.mount options.raw).encode
    let list := Text.encode Request.list.encode
    let stage := ((Stage.initial {}).run dispatcher [.received mount]).2
    mount.length ≤ maxMessageBytes ∧ list.length ≤ maxMessageBytes ∧
      ∃ reply, (stage.observe dispatcher (.received list)).1.answer = .ok reply ∧
        maxMessageBytes < reply.size ∧
        readReply 0 [(0, .chunk (Text.encode reply.encode))] = .error .oversized := by
  intro dispatcher options mount list stage
  have hvalid : options.raw.validate = .ok options := by
    refine Volume.validate_eq_ok_iff.2 ⟨rfl, (by decide : "/mnt" ≠ ""),
      List.cons_ne_nil _ _, ?_, nofun⟩
    rw [List.mem_singleton]
    rintro rfl
    cases hdevice
  have hmount : mount.length = 99998 := by
    have hpoint : (Field.mountPoint "/mnt").size = 18 := by decide +kernel
    have hdigits : byteLength (Text.Numeral.decimal 99960) = 5 := by decide +kernel
    have hkey : Wire.keyDevice.utf8ByteSize = 6 := by decide
    have hrecord : (Field.device device).size = 99974 := by
      rw [Field.size, Field.render, Wire.byteLength_countedRecord, hdevice, hdigits, hkey]
    have hfields : options.raw.fields = [.mountPoint "/mnt", .device device] := rfl
    rw [Text.length_encode, ← Request.size, size_mount, hfields]
    simp [hpoint, hrecord]
  have hlimit : mount.length ≤ maxMessageBytes := hmount.trans_le (by decide)
  have hlong : maxMessageBytes < (Reply.listing [described ⟨16⟩ options.raw none]).size := by
    have htold : (described ⟨16⟩ options.raw none).told = 99998 := by
      rw [← hmount, Text.length_encode]
      simp [Record.told, Record.requests, described, Request.size]
    have hsize := (described_size ⟨16⟩ options.raw none).1
    rw [Reply.size_listing, List.map_singleton, List.sum_singleton, maxMessageBytes]
    omega
  refine ⟨hlimit, by decide, _, listing_of_mounted hvalid hlimit, hlong, ?_⟩
  rw [Reply.size, ← Text.length_encode] at hlong
  exact Wire.readReply_of_lt hlong []

/-- A single volume, mounted by a message within the limit, makes a listing that is not, and that
    the client therefore refuses. -/
theorem listing_outgrows_limit :
    let dispatcher : Dispatcher Rehearsal.Cast := ⟨Rehearsal.rehearsal, .scripted [16], 1, 10⟩
    let device := String.ofList (List.replicate 99960 'x')
    let options : Options := ⟨"/mnt", [device], .default, none, false⟩
    let mount := Text.encode (Request.mount options.raw).encode
    let list := Text.encode Request.list.encode
    let stage := ((Stage.initial {}).run dispatcher [.received mount]).2
    mount.length ≤ maxMessageBytes ∧ list.length ≤ maxMessageBytes ∧
      ∃ reply, (stage.observe dispatcher (.received list)).1.answer = .ok reply ∧
        maxMessageBytes < reply.size ∧
        readReply 0 [(0, .chunk (Text.encode reply.encode))] = .error .oversized := by
  have hdevice : (String.ofList (List.replicate 99960 'x')).utf8ByteSize = 99960 := by
    have hone : 'x'.utf8Size = 1 := by decide
    rw [Text.utf8ByteSize_ofList, Text.byteLength_eq_length, List.length_replicate]
    intro c hc
    rw [(List.mem_replicate.1 hc).2, hone]
  exact listing_of_long hdevice

end MountControl.Service
