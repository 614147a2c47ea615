/-
  MountControl — client and service agree on a mount.

  The client validates the options of a mount and sends them; the service
  reads them back, whatever the connection makes of the bytes, validates
  them, and hands them to the worker.

  * `Command.mount_request` says which requests the client sends;
  * `observe_started`: a launch that succeeds is that of the options asked
    for, and is answered `OK`;
  * `shows_of_accepted`: as long as the volume lives, its worker is told
    those options;
  * `mount_agreed` puts this behind any connection and any run.
-/
import MountControl.Client.Command
import MountControl.Proofs.Service.Provenance
import MountControl.Proofs.Service.Refusal
import MountControl.Proofs.Wire.Framing
import MountControl.Service.Exchange

namespace MountControl.Client

open Volume (RawOptions)
open Wire (Request)

/-- The client sends valid options as they are. -/
theorem Command.mount_request {raw : RawOptions} {request : Request}
    (h : (Command.mount raw).request = .ok request) :
    ∃ options, raw.validate = .ok options ∧ raw = options.raw ∧ request = .mount raw := by
  rw [Command.request] at h
  split at h
  next => cases h
  next options hvalid =>
    cases h
    obtain ⟨hraw, -⟩ := Volume.validate_eq_ok_iff.1 hvalid
    exact ⟨options, hvalid, hraw, by rw [hraw]; rfl⟩

end MountControl.Client

namespace MountControl.Service

open Client (Command)
open Volume (InstanceId Options RawOptions Record Uuid)
open Wire (Delivers Read Reply Request maxMessageBytes readMessage)

variable {σ : Type}

/-! ## Reading -/

/-- Where there is no issue, there is nothing to log. -/
theorem Shared.decode_of_no_issues {message : List UInt8} {request : Request}
    (h : Request.decode (Text.decodeLossy message) = ⟨request, []⟩) (shared : Shared σ) :
    shared.decode message = (request, shared) := by
  rw [Shared.decode, h]
  rfl

/-! ## Mounting -/

section
variable {dispatcher : Dispatcher σ} {stage : Stage σ} {request : Request}

theorem Effect.distinctive_started? : Distinctive Effect.started? :=
  ⟨fun _ _ _ => rfl, fun _ => rfl, fun _ => rfl⟩

/-- **A launch that succeeds is that of the options asked for**, and is answered `OK`. -/
theorem observe_started {id : InstanceId} {launched : Options} {pid : Nat}
    (h : (id, launched, .started pid) ∈ (stage.observe dispatcher request).1.launches) :
    ∃ raw, request = .mount raw ∧ raw.validate = .ok launched ∧
      (stage.observe dispatcher request).1.answer = .ok .ok ∧
      (stage.observe dispatcher request).1.accepted? = some (id, raw) := by
  obtain ⟨note, result, after, effects, hr, htrace, hanswer, -, hview⟩ :=
    observe_calls dispatcher stage request
  have hstarted := hview Effect.distinctive_started?
  rw [Event.launches, hview Effect.distinctive_launch?] at h
  cases hr with
  | refused | stuck | listed | described =>
    rw [List.self_eq_append_right.1 htrace] at h
    cases h
  | panicked | failed | reported | stopped | abandoned =>
    rw [← List.append_cancel_left htrace] at h
    simp [Effect.launch?] at h
  | started hl =>
    rw [← List.append_cancel_left htrace] at h hstarted
    simp only [Effect.launch?, List.filterMap_cons, List.filterMap_nil, List.mem_singleton] at h
    cases h
    refine ⟨_, rfl, hl.valid, hanswer, ?_⟩
    rw [Event.accepted?, hanswer, ← List.head?_filterMap, hstarted]
    rfl

theorem head?_append {front : String} {c : Char} (h : front.toList.head? = some c)
    (rest : String) : (front ++ rest).toList.head? = some c := by
  rw [String.toList_append, List.head?_append, h]
  rfl

/-- A failed launch is not told as invalid options are. -/
theorem SpawnError.head?_message (error : SpawnError) :
    error.message.toList.head? ≠ some 'i' := by
  have hnotFound : "worker executable '".toList.head? = some 'w' := by decide
  have hdenied : "permission denied launching worker '".toList.head? = some 'p' := by decide
  have hother : "failed to launch worker '".toList.head? = some 'f' := by decide
  rw [SpawnError.message]
  split
  · rw [head?_append (head?_append hnotFound _)]
    decide
  · rw [head?_append (head?_append hdenied _)]
    decide
  · rw [head?_append (head?_append (head?_append hother _) _)]
    decide

/-- Valid options are never called invalid. -/
theorem observe_not_invalid {raw : RawOptions} {options : Options}
    (hvalid : raw.validate = .ok options) (text : String) :
    (stage.observe dispatcher (.mount raw)).1.answer ≠
      .ok (.error ("invalid mount options: " ++ text)) := by
  intro h
  obtain ⟨note, result, after, effects, hr, -, hanswer, -, -⟩ :=
    observe_calls dispatcher stage (.mount raw)
  obtain ⟨rejection, hrejection, hmessage⟩ := hr.rejection_of_error (hanswer.symm.trans h)
  -- the texts of the other rejections start with other letters
  have hinvalid : "invalid mount options: ".toList.head? = some 'i' := by decide
  have hfirst := congrArg (fun s : String => s.toList.head?) hmessage
  rw [head?_append hinvalid] at hfirst
  cases hr with
  | refused hrefused =>
    cases hrejection
    cases hrefused with
    | invalidOptions hinvalid =>
      rw [hvalid] at hinvalid
      cases hinvalid
    | @mountPointInUse _ used existing =>
      have hused : "mount point ".toList.head? = some 'm' := by decide
      have hother := head?_append (head?_append (head?_append hused used.mountPoint)
        " is already in use by instance ") existing.id.display
      cases hfirst.symm.trans hother
  | failed =>
    cases hrejection
    exact SpawnError.head?_message _ hfirst
  | stuck | panicked | started => cases hrejection

end

/-! ## Asking -/

/-- The answer shows one volume, and is read back as it was sent; its options are these. -/
def Shows (options : Options) (answer : Except Halt Reply) : Prop :=
  ∃ record, answer = .ok (.detail record) ∧
    Reply.decode (Reply.detail record).encode = .ok ⟨.detail record, []⟩ ∧
    record.options.validate = .ok options

/-- The answer about a listed volume is its record. -/
theorem Recorded.detail_answer {history : List Event} {stage : Stage σ}
    (h : Recorded history stage) (dispatcher : Dispatcher σ) {id : InstanceId} {record : Record}
    (hmem : record ∈
      volumes (history ++ [(stage.observe dispatcher (.mountData (some id))).1]))
    (hid : record.id = some id) :
    (stage.observe dispatcher (.mountData (some id))).1.answer = .ok (.detail record) := by
  have hafter := h.observe dispatcher (.mountData (some id))
  rw [← hafter.records] at hmem
  obtain ⟨entry, he, rfl⟩ := List.mem_map.1 hmem
  have hget := hafter.sound.get?_of_mem he
  obtain rfl : entry.id = id := Option.some.inj hid
  rw [Service.detail_answer, hget]

/-- **As long as a volume lives, its worker is told the options that were accepted**, whatever
    messages come in meanwhile. -/
theorem shows_of_accepted {history : List Event} {stage : Stage σ} (h : Recorded history stage)
    (hsized : ∀ event ∈ history, event.request.Sized) {dispatcher : Dispatcher σ}
    {request : Request} (hrequest : request.Sized) {id : InstanceId} {options : Options}
    (hvalid : options.raw.validate = .ok options)
    (haccepted : (stage.observe dispatcher request).1.accepted? = some (id, options.raw))
    (later : List (List UInt8)) :
    let after := (stage.observe dispatcher request).2.run dispatcher (later.map Request.received)
    let asked := (after.2.observe dispatcher (.mountData (some id))).1
    (∀ event ∈ after.1 ++ [asked], event.ends id (some options.mountPoint) = false) →
      Shows options asked.answer := by
  intro after asked hlive
  have hafter : Recorded ((history ++ [(stage.observe dispatcher request).1]) ++ after.1) after.2 :=
    run_induction (P := Recorded) (fun _ _ request h => h.observe dispatcher request)
      (later.map Request.received) _ _ (h.observe dispatcher request)
  have hmem := mem_volumes haccepted hlive history
  have hhistory : history ++ (stage.observe dispatcher request).1 :: (after.1 ++ [asked]) =
      (history ++ [(stage.observe dispatcher request).1]) ++ after.1 ++ [asked] := by simp
  have hall : ∀ event ∈ history ++ (stage.observe dispatcher request).1 :: (after.1 ++ [asked]),
      event.request.Sized := by
    simp only [List.mem_append, List.mem_cons, List.not_mem_nil, or_false]
    rintro event (he | rfl | he | rfl)
    · exact hsized event he
    · exact hrequest
    · exact run_received_sized event he
    · -- a question has no values with a length
      intro field hfield
      rw [List.mem_singleton.1 hfield]
      exact nofun
  obtain ⟨-, htold⟩ := of_mem_volumes hmem
  have hsizes := described_sized fun request hr => by
    obtain ⟨event, he, hreq, -⟩ := htold request hr
    exact hreq ▸ hall event he
  rw [hhistory] at hmem
  refine ⟨_, hafter.detail_answer dispatcher hmem (described_id ..),
    decode_encode_described hsizes, ?_⟩
  rw [described_options]
  exact hvalid

/-! ## From the client to the worker -/

/-- **Client and service agree on a mount.**  Of every request to mount that the client sends, if it
    fits the limit, the service reads exactly the options that the client has validated, without an
    issue, however the connection cuts the bytes.  So it never calls them invalid; where their mount
    point is free and a candidate for an identifier, the launcher is called with them; and if that
    succeeds, every question for the options of this volume, as long as it lives, is answered by a
    description that is read back as it was sent, and shows them. -/
theorem mount_agreed {raw : RawOptions} {request : Request} {reads : List Read}
    (hrequest : (Command.mount raw).request = .ok request)
    (hsize : (Text.encode request.encode).length ≤ maxMessageBytes)
    (hreads : Delivers reads (Text.encode request.encode)) :
    let message := Text.encode request.encode
    ∃ options, raw.validate = .ok options ∧
      (readMessage maxMessageBytes reads).1 = .ok (.complete message) ∧
      Request.decode (Text.decodeLossy message) = ⟨.mount options.raw, []⟩ ∧
      options.raw.validate = .ok options ∧
      ∀ {σ : Type} (dispatcher : Dispatcher σ) (place : σ) (before : List (List UInt8)),
        let stage := ((Stage.initial place).run dispatcher (before.map Request.received)).2
        let left := (stage.reap dispatcher.workers).2.registry
        let event := (stage.observe dispatcher (Request.received message)).1
        let after := (stage.observe dispatcher (Request.received message)).2
        (∀ shared : Shared σ, shared.decode message = (.mount options.raw, shared)) ∧
        (∀ text, event.answer ≠ .ok (.error ("invalid mount options: " ++ text))) ∧
        (∀ n, left.atMountPoint? options.mountPoint = none → n < dispatcher.patience →
          left.get? ⟨dispatcher.ids.candidate (left.drawn + n)⟩ = none →
          ∃ id launch, event.launches = [(id, options, launch)]) ∧
        ∀ id launched pid, (id, launched, .started pid) ∈ event.launches →
          launched = options ∧ event.answer = .ok .ok ∧
          ∀ later : List (List UInt8),
            let run := after.run dispatcher (later.map Request.received)
            let asked := (run.2.observe dispatcher (.mountData (some id))).1
            (∀ event ∈ run.1 ++ [asked], event.ends id (some options.mountPoint) = false) →
              Shows options asked.answer := by
  intro message
  obtain ⟨options, hvalid, rfl, rfl⟩ := Client.Command.mount_request hrequest
  have hdecode : Request.decode (Text.decodeLossy message) = ⟨.mount options.raw, []⟩ :=
    Request.decode_delivered nofun hsize
  have hreceived : Request.received message = .mount options.raw :=
    Request.received_delivered nofun hsize
  refine ⟨options, hvalid, Wire.readMessage_delivers hreads hsize, hdecode, hvalid, ?_⟩
  intro σ dispatcher place before stage left event after
  have hrecorded : Recorded _ stage := recorded_run dispatcher place (before.map Request.received)
  refine ⟨Shared.decode_of_no_issues hdecode, fun text => ?_, fun n hfree hn hid => ?_,
    fun id launched pid hlaunch => ?_⟩
  · simp only [event, hreceived]
    exact observe_not_invalid hvalid text
  · simp only [event, hreceived]
    exact observe_launches_of_possible hvalid hfree hn hid
  · obtain ⟨asked, hasked, hlaunched, hanswer, haccepted⟩ := observe_started hlaunch
    rw [hreceived] at hasked
    cases hasked
    obtain rfl := Except.ok.inj (hvalid.symm.trans hlaunched)
    refine ⟨rfl, hanswer, fun later => ?_⟩
    exact shows_of_accepted hrecorded run_received_sized (Request.received_sized _) hvalid
      haccepted later

/-- Cut inside a character and interrupted, options with bars, line feeds and a fake record arrive
    as they were sent, and the worker is started with them and told them. -/
theorem mount_agreed_cut :
    let raw : RawOptions :=
      { mountPoint := some "/mnt/ü\nDevice|1|x", devices := ["/dev/sd|b", "é"],
        subvolName := some "@\n" }
    let options : Options := ⟨"/mnt/ü\nDevice|1|x", ["/dev/sd|b", "é"], .byName "@\n", none, false⟩
    let bytes := Text.encode (Request.mount raw).encode
    let reads : List Read := [.chunk (bytes.take 45), .failed (.system 4), .chunk (bytes.drop 45)]
    let dispatcher : Dispatcher Rehearsal.Cast := ⟨Rehearsal.rehearsal, .scripted [16], 1, 10⟩
    let event := ((Stage.initial {}).observe dispatcher (.received bytes)).1
    let after := ((Stage.initial {}).observe dispatcher (.received bytes)).2
    (readMessage maxMessageBytes reads).1 = .ok (.complete bytes) ∧
      event.launches = [(⟨16⟩, options, .started 1000)] ∧
      Shows options (after.observe dispatcher (.mountData (some ⟨16⟩))).1.answer := by
  intro raw options bytes reads dispatcher event after
  have hencode : (Request.mount raw).encode =
      ("Mount\nOption|Subvol|2|@\n\nMountPoint|18|/mnt/ü\nDevice|1|x\n" ++
        "Device|9|/dev/sd|b\nDevice|2|é\n").toList := by decide +kernel
  have hrequest : (Command.mount raw).request = .ok (.mount raw) := rfl
  have hlength : bytes.length = 89 := by
    simp only [bytes, hencode]
    decide
  have hreads : Delivers reads (bytes.take 45 ++ (bytes.drop 45 ++ [])) :=
    .chunk (List.ne_nil_of_length_pos (by simp [hlength])) (by simp [hlength, Wire.readSize])
      (.interrupted rfl (.chunk (List.ne_nil_of_length_pos (by simp [hlength]))
        (by simp [hlength, Wire.readSize]) .ended))
  rw [List.append_nil, List.take_append_drop] at hreads
  obtain ⟨options', hvalid, hread, hdecode, -, hmount⟩ :=
    mount_agreed hrequest (hlength.trans_le (by decide)) hreads
  cases hvalid
  have hreceived : Request.received bytes = .mount raw := congrArg Wire.Decoded.message hdecode
  obtain ⟨-, -, hlaunch, hshow⟩ := hmount dispatcher {} []
  have hlaunches : event.launches = [(⟨16⟩, options, .started 1000)] := by
    simp only [event, hreceived]
    rfl
  obtain ⟨-, -, hshows⟩ := hshow ⟨16⟩ options 1000
    (show _ ∈ event.launches by rw [hlaunches]; exact List.mem_singleton_self _)
  refine ⟨hread, hlaunches, hshows [] ?_⟩
  rw [hreceived]
  decide

end MountControl.Service
