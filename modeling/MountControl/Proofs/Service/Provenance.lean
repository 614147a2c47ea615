/-
  MountControl — what is said of a volume was told before.

  `Record.requests` are the requests that make a record: the one that mounted
  the volume, and the last report of its worker.

  * `mem_volumes`: a volume that was accepted stays listed until it ends;
  * `of_mem_volumes`: the requests that make a listed record were all met
    before;
  * `Request.received` is the request of a message, and
    `Request.decode_delivered` says that it is the one that was sent;
  * `decode_encode_described`: the description of a volume is read back as it
    was sent, if the requests that told it can be.
-/
import MountControl.Proofs.Service.History
import MountControl.Proofs.Text.Utf8
import MountControl.Proofs.Wire.ReplyRoundTrip
import MountControl.Proofs.Wire.Size
import MountControl.Wire.Framing

namespace MountControl.Volume

open Wire (Request)

/-- The requests that make a record: the one that mounted the volume, and the report of its worker
    if there was one. -/
def Record.requests (record : Record) : List Request :=
  .mount record.options ::
    record.fsUuid.toList.map fun fsUuid => .mounted record.id (some fsUuid) record.label

end MountControl.Volume

namespace MountControl.Wire

/-- The request of a message, given the bytes that were received. -/
def Request.received (message : List UInt8) : Request :=
  (Request.decode (Text.decodeLossy message)).message

theorem Request.received_sized (message : List UInt8) : (received message).Sized :=
  (decode_sized _).1

/-- **A request that fits the limit is read as it was sent.** -/
theorem Request.decode_delivered {request : Request} (hknown : request.Known)
    (hsize : (Text.encode request.encode).length ≤ maxMessageBytes) :
    Request.decode (Text.decodeLossy (Text.encode request.encode)) = ⟨request, []⟩ := by
  rw [Text.length_encode] at hsize
  have hsized : request.Sized := sized_of_size (hsize.trans_lt (by decide))
  rw [Text.decodeLossy_encode, decode_encode_known hsized hknown]

theorem Request.received_delivered {request : Request} (hknown : request.Known)
    (hsize : (Text.encode request.encode).length ≤ maxMessageBytes) :
    Request.received (Text.encode request.encode) = request :=
  congrArg Decoded.message (decode_delivered hknown hsize)

end MountControl.Wire

namespace MountControl.Service

open Volume (InstanceId RawOptions Record Uuid)
open Wire (Reply Request)

variable {σ : Type}

/-! ## Listed volumes -/

theorem accepted?_eq_some {event : Event} {id : InstanceId} {options : RawOptions}
    (h : event.accepted? = some (id, options)) :
    event.request = .mount options ∧ event.answer = .ok .ok := by
  rw [Event.accepted?] at h
  split at h
  next raw hreq hans =>
    obtain ⟨_, -, heq⟩ := Option.map_eq_some_iff.1 h
    cases heq
    exact ⟨hreq, hans⟩
  next => cases h

theorem report?_eq_some {event : Event} {id : InstanceId} {report : Uuid × Option String}
    (h : event.report? id = some report) :
    event.request = .mounted (some id) (some report.1) report.2 ∧ event.answer = .ok .ok := by
  rw [Event.report?] at h
  split at h
  next target fsUuid label hreq hans =>
    split at h
    next htarget =>
      cases h
      subst htarget
      exact ⟨hreq, hans⟩
    next => cases h
  next => cases h

/-- **A volume that was accepted stays listed** until an event ends it. -/
theorem mem_volumes {event : Event} {id : InstanceId} {options : RawOptions} {later : List Event}
    (h : event.accepted? = some (id, options))
    (hlive : ∀ e ∈ later, e.ends id options.mountPoint = false) (earlier : List Event) :
    described id options (later.filterMap (·.report? id)).getLast? ∈
      volumes (earlier ++ event :: later) := by
  induction earlier with
  | nil =>
    have hany : later.any (·.ends id options.mountPoint) = false := by simpa using hlive
    simp [volumes, h, hany]
  | cons first earlier ih =>
    rw [List.cons_append, volumes]
    split
    next => exact ih
    next =>
      split
      next => exact ih
      next => exact List.mem_cons_of_mem _ ih

/-- **The requests that make a listed record were met before.** -/
theorem of_mem_volumes {history : List Event} {record : Record} (h : record ∈ volumes history) :
    (∃ id options report, record = described id options report) ∧
      ∀ request ∈ record.requests,
        ∃ event ∈ history, event.request = request ∧ event.answer = .ok .ok := by
  induction history with
  | nil => cases h
  | cons first later ih =>
    have hlater : record ∈ volumes later →
        (∃ id options report, record = described id options report) ∧
          ∀ request ∈ record.requests,
            ∃ event ∈ first :: later, event.request = request ∧ event.answer = .ok .ok := by
      intro hmem
      obtain ⟨hform, hrequests⟩ := ih hmem
      refine ⟨hform, fun request hr => ?_⟩
      obtain ⟨event, he, hmet⟩ := hrequests request hr
      exact ⟨event, List.mem_cons_of_mem _ he, hmet⟩
    rw [volumes] at h
    split at h
    next => exact hlater h
    next id options haccepted =>
      split at h
      next => exact hlater h
      next =>
        rcases List.mem_cons.1 h with rfl | h
        · refine ⟨⟨_, _, _, rfl⟩, fun request hr => ?_⟩
          cases hreport : (later.filterMap (·.report? id)).getLast? with
          | none =>
            rw [hreport] at hr
            cases List.mem_singleton.1 hr
            exact ⟨first, List.mem_cons_self, accepted?_eq_some haccepted⟩
          | some report =>
            rw [hreport] at hr
            rcases List.mem_cons.1 hr with rfl | hr
            · exact ⟨first, List.mem_cons_self, accepted?_eq_some haccepted⟩
            · cases List.mem_singleton.1 hr
              -- the last report is that of an event after the mount
              obtain ⟨event, he, hr⟩ := List.mem_filterMap.1 (List.mem_of_getLast? hreport)
              exact ⟨event, List.mem_cons_of_mem _ he, report?_eq_some hr⟩
        · exact hlater h

/-! ## Received messages -/

theorem run_requests (dispatcher : Dispatcher σ) (stage : Stage σ) (requests : List Request) :
    (stage.run dispatcher requests).1.map (·.request) = requests := by
  induction requests generalizing stage with
  | nil => rfl
  | cons request requests ih =>
    rw [Stage.run]
    exact congrArg (request :: ·) (ih _)

/-- In a run over messages, every request is that of a message. -/
theorem mem_run_received {dispatcher : Dispatcher σ} {stage : Stage σ}
    {messages : List (List UInt8)} {event : Event}
    (h : event ∈ (stage.run dispatcher (messages.map Request.received)).1) :
    ∃ message ∈ messages, Request.received message = event.request := by
  have hmem := List.mem_map_of_mem (f := (·.request)) h
  rw [run_requests] at hmem
  exact List.mem_map.1 hmem

/-- So every request of such a run can be written and read back. -/
theorem run_received_sized {dispatcher : Dispatcher σ} {stage : Stage σ}
    {messages : List (List UInt8)} :
    ∀ event ∈ (stage.run dispatcher (messages.map Request.received)).1, event.request.Sized := by
  intro event he
  obtain ⟨message, -, hmessage⟩ := mem_run_received he
  rw [← hmessage]
  exact Request.received_sized message

/-! ## Descriptions -/

theorem fields_described_none (id : InstanceId) (options : RawOptions) :
    (described id options none).fields =
      .instanceId id :: .state .starting :: options.fields := rfl

theorem fields_described_some (id : InstanceId) (options : RawOptions) (fsUuid : Uuid)
    (label : Option String) :
    (described id options (some (fsUuid, label))).fields =
      .instanceId id :: .state .mounted :: .fsUuid fsUuid ::
        (label.toList.map .label ++ options.fields) := by
  simp [described, Record.fields]

/-- What is told of a volume can be read back, if the requests that told it can. -/
theorem described_sized {id : InstanceId} {options : RawOptions}
    {report : Option (Uuid × Option String)}
    (h : ∀ request ∈ (described id options report).requests, request.Sized) :
    (Reply.detail (described id options report)).Sized := by
  intro field hfield
  change field ∈ (described id options report).fields at hfield
  rcases report with _ | ⟨fsUuid, label⟩
  · have hmount : (Request.mount options).Sized := h _ List.mem_cons_self
    rw [fields_described_none, List.mem_cons, List.mem_cons] at hfield
    rcases hfield with rfl | rfl | hfield
    · exact nofun
    · exact nofun
    · exact hmount field hfield
  · have hmount : (Request.mount options).Sized := h _ List.mem_cons_self
    have hreport : (Request.mounted (some id) (some fsUuid) label).Sized :=
      h _ (List.mem_cons_of_mem _ List.mem_cons_self)
    simp only [fields_described_some, List.mem_cons, List.mem_append] at hfield
    rcases hfield with rfl | rfl | rfl | hfield | hfield
    · exact nofun
    · exact nofun
    · exact nofun
    · exact hreport field (List.mem_append_right _ hfield)
    · exact hmount field hfield

/-- A volume's description is read back by whoever asked for it. -/
theorem decode_encode_described {id : InstanceId} {options : RawOptions}
    {report : Option (Uuid × Option String)}
    (h : (Reply.detail (described id options report)).Sized) :
    Reply.decode (Reply.detail (described id options report)).encode =
      .ok ⟨.detail (described id options report), []⟩ := by
  obtain ⟨body, hbody, hreply⟩ := Wire.DataBody.foldlM_detail (described id options report)
  have hne : (described id options report).fields ≠ [] := by
    rw [ne_eq, Wire.Record.fields_eq_nil]
    intro hblank
    have hid := congrArg Record.id hblank
    rw [described_id] at hid
    cases hid
  have hdecode := Wire.decode_fields hne h hbody
  rwa [hreply] at hdecode

end MountControl.Service
