/-
  MountControl — requests are read back.

  A request is `Sized` if the lengths of its values can be read.

  * `RawOptions.foldlM_fields` and `Request.foldlM_fields`: a blank message
    takes up all fields of a message, and becomes that message;
  * `Request.decode_sized`: nothing else than sized requests is ever read;
  * `Request.decode_encode_known` and `Request.decode_encode_unknown`: the two
    sorts of kinds on their own;
  * `decode_encode_request` says which requests are read back, and that those
    read from any text are among them.
-/
import MountControl.Proofs.Wire.Body
import MountControl.Wire.Request

namespace MountControl.Volume

open Wire (Field foldlM_append foldlM_cons_eq_ok foldlM_slot setOnce_map_eq_ok)

/-! ## Mount options -/

theorem RawOptions.foldlM_devices (options : RawOptions) (devices : List String) :
    (devices.map Field.device).foldlM RawOptions.accept options =
      .ok { options with devices := options.devices ++ devices } := by
  induction devices generalizing options with
  | nil => simp; rfl
  | cons device devices ih =>
    refine foldlM_cons_eq_ok.2 ⟨{ options with devices := options.devices ++ [device] }, rfl, ?_⟩
    rw [ih]
    simp

/-- **The fields of mount options make the options.** -/
theorem RawOptions.foldlM_fields (options : RawOptions) :
    options.fields.foldlM RawOptions.accept {} = .ok options := by
  rcases options with ⟨mountPoint, devices, subvolName, subvolId, dumpTarget, testRun⟩
  have hname : (subvolName.toList.map Field.subvol).foldlM RawOptions.accept {} =
      .ok { subvolName } :=
    foldlM_slot (fun subvolName => ({ subvolName } : RawOptions)) subvolName fun _ => rfl
  have hid : (subvolId.toList.map Field.subvolId).foldlM RawOptions.accept { subvolName } =
      .ok { subvolName, subvolId } :=
    foldlM_slot (fun subvolId => ({ subvolName, subvolId } : RawOptions)) subvolId fun _ => rfl
  have hdump : (dumpTarget.toList.map Field.dump).foldlM RawOptions.accept
      { subvolName, subvolId } = .ok { subvolName, subvolId, dumpTarget } :=
    foldlM_slot (fun dumpTarget => ({ subvolName, subvolId, dumpTarget } : RawOptions)) dumpTarget
      fun _ => rfl
  have htest : (if testRun then [Field.testRun true] else []).foldlM RawOptions.accept
      { subvolName, subvolId, dumpTarget } =
        .ok { subvolName, subvolId, dumpTarget, testRun } := by
    cases testRun <;> rfl
  have hpoint : (mountPoint.toList.map Field.mountPoint).foldlM RawOptions.accept
      { subvolName, subvolId, dumpTarget, testRun } =
        .ok { subvolName, subvolId, dumpTarget, testRun, mountPoint } :=
    foldlM_slot (fun mountPoint =>
      ({ subvolName, subvolId, dumpTarget, testRun, mountPoint } : RawOptions)) mountPoint
      fun _ => rfl
  have hdevices := foldlM_devices { subvolName, subvolId, dumpTarget, testRun, mountPoint } devices
  have h := foldlM_append (foldlM_append (foldlM_append (foldlM_append (foldlM_append
    hname hid) hdump) htest) hpoint) hdevices
  exact h

/-- Nothing else is taken up than the field that was accepted. -/
theorem RawOptions.mem_fields_of_accept {options after : RawOptions} {field : Field}
    (h : options.accept field = .ok after) :
    ∀ other ∈ after.fields, other ∈ options.fields ∨ other = field := by
  intro other ho
  cases field with
  | subvol | subvolId | dump | mountPoint =>
    obtain ⟨hnone, rfl⟩ := setOnce_map_eq_ok.1 h
    simp only [RawOptions.fields, hnone, Option.toList_none, Option.toList_some, List.map_nil,
      List.map_cons, List.nil_append, List.mem_append, List.mem_singleton] at ho ⊢
    grind
  | testRun | device =>
    cases h
    simp only [RawOptions.fields, List.map_append, List.mem_append] at ho ⊢
    grind
  | _ => cases h

end MountControl.Volume

namespace MountControl.Wire

open Volume (InstanceId RawOptions Uuid)

/-! ## Requests -/

/-- Are all values short enough for their lengths to be read?  Every request in a 64-bit address
    space is. -/
def Request.Sized (request : Request) : Prop := ∀ field ∈ request.fields, field.Sized

/-- The kinds of requests that are understood. -/
def Request.kinds : List String := ["Mount", "List", "DrvMountData", "DrvMounted", "Unmount"]

/-- Is its kind understood? -/
def Request.Known (request : Request) : Prop := ∀ kind, request ≠ .unknown kind

/-- The request of the same kind with all fields absent. -/
def Request.blank : Request → Request
  | .mount _ => .mount {}
  | .list => .list
  | .mountData _ => .mountData none
  | .mounted .. => .mounted none none none
  | .unmount .. => .unmount none none
  | .unknown kind => .unknown kind

theorem Request.ofKind_kind {request : Request} (h : request.Known) :
    Request.ofKind request.kind.toList = request.blank := by
  cases request with
  | unknown kind => exact absurd rfl (h kind)
  | _ => simp [Request.ofKind, Request.kind, Request.blank]

/-- **The fields of a request make the request**, from the blank one of its kind. -/
theorem Request.foldlM_fields (request : Request) :
    request.fields.foldlM Request.accept request.blank = .ok request := by
  cases request with
  | mount options =>
    exact foldlM_part Request.mount (fun _ _ _ => rfl) options.foldlM_fields
  | list => rfl
  | mountData id =>
    exact foldlM_slot Request.mountData id fun _ => rfl
  | mounted id fsUuid label =>
    have hid : (id.toList.map Field.instanceId).foldlM Request.accept (.mounted none none none) =
        .ok (.mounted id none none) :=
      foldlM_slot (Request.mounted · none none) id fun _ => rfl
    have huuid : (fsUuid.toList.map Field.fsUuid).foldlM Request.accept (.mounted id none none) =
        .ok (.mounted id fsUuid none) :=
      foldlM_slot (Request.mounted id · none) fsUuid fun _ => rfl
    have hlabel : (label.toList.map Field.label).foldlM Request.accept (.mounted id fsUuid none) =
        .ok (.mounted id fsUuid label) :=
      foldlM_slot (Request.mounted id fsUuid) label fun _ => rfl
    exact foldlM_append (foldlM_append hid huuid) hlabel
  | unmount id mountPoint =>
    have hid : (id.toList.map Field.instanceId).foldlM Request.accept (.unmount none none) =
        .ok (.unmount id none) :=
      foldlM_slot (Request.unmount · none) id fun _ => rfl
    have hpoint : (mountPoint.toList.map Field.mountPoint).foldlM Request.accept
        (.unmount id none) = .ok (.unmount id mountPoint) :=
      foldlM_slot (Request.unmount id) mountPoint fun _ => rfl
    exact foldlM_append hid hpoint
  | unknown kind => rfl

theorem Request.mem_fields_of_accept {request after : Request} {field : Field}
    (h : request.accept field = .ok after) :
    (∀ other ∈ after.fields, other ∈ request.fields ∨ other = field) ∧
      after.Known := by
  rw [Request.accept.eq_def] at h
  split at h
  next options =>
    obtain ⟨part, ha, rfl⟩ := map_eq_ok.1 h
    exact ⟨RawOptions.mem_fields_of_accept ha, nofun⟩
  -- no other field has a place
  case h_8 => cases h
  all_goals
    obtain ⟨rfl, rfl⟩ := setOnce_map_eq_ok.1 h
    refine ⟨fun other ho => ?_, nofun⟩
    simp only [Request.fields, Option.toList_none, Option.toList_some, List.map_nil,
      List.map_cons, List.nil_append, List.append_nil, List.mem_append, List.mem_singleton] at ho ⊢
    tauto

/-! ## Reading -/

theorem Request.ofKind_eq_unknown {kind : List Char} {name : String} :
    Request.ofKind kind = .unknown name ↔ kind = name.toList ∧ name ∉ Request.kinds := by
  obtain ⟨header, rfl⟩ : ∃ header : String, kind = header.toList :=
    ⟨String.ofList kind, String.toList_ofList.symm⟩
  simp only [Request.ofKind, Request.kinds, String.toList_inj, String.ofList_toList]
  split_ifs with hmount hlist hdata hmounted hunmount
  · grind
  · grind
  · grind
  · grind
  · grind
  · grind

theorem Request.fields_ofKind (kind : List Char) : (Request.ofKind kind).fields = [] := by
  rw [Request.ofKind]
  split_ifs <;> rfl

theorem Request.decode_of_known {text : List Char}
    (h : (Request.ofKind (Text.line text)).Known) :
    Request.decode text =
      readBody Request.accept (Request.ofKind (Text.line text)) (Text.afterLine text) := by
  rw [Request.decode]
  split
  next kind heq => exact absurd heq (h kind)
  next => rfl

/-- **Only sized requests are ever read**, and an unknown kind only off a line that names it. -/
theorem Request.decode_sized (text : List Char) :
    (Request.decode text).message.Sized ∧
      ∀ kind, (Request.decode text).message = .unknown kind →
        Request.ofKind (Text.line text) = .unknown kind := by
  by_cases h : ∃ kind, Request.ofKind (Text.line text) = .unknown kind
  · obtain ⟨kind, hkind⟩ := h
    rw [Request.decode, hkind]
    exact ⟨nofun, fun _ h => h⟩
  · have hknown : ∀ kind, Request.ofKind (Text.line text) ≠ .unknown kind :=
      fun kind hkind => h ⟨kind, hkind⟩
    rw [decode_of_known hknown]
    have hall : (readBody accept (ofKind (Text.line text)) (Text.afterLine text)).message.Sized ∧
        (readBody accept (ofKind (Text.line text)) (Text.afterLine text)).message.Known := by
      refine readBody_induction (fun request : Request => request.Sized ∧ request.Known)
        ⟨?_, hknown⟩ ?_ _
      · rw [Sized, fields_ofKind]
        exact nofun
      · intro message next field hmessage hfield haccept
        obtain ⟨hfields, hnext⟩ := mem_fields_of_accept haccept
        refine ⟨fun other ho => ?_, hnext⟩
        rcases hfields other ho with ho | rfl
        · exact hmessage.1 other ho
        · exact hfield
    exact ⟨hall.1, fun kind hkind => absurd hkind (hall.2 kind)⟩

/-- A sized request whose kind is understood is read back. -/
theorem Request.decode_encode_known {request : Request} (hs : request.Sized)
    (h : request.Known) : Request.decode request.encode = ⟨request, []⟩ := by
  have hbreak : '\n' ∉ request.kind.toList := by
    cases request with
    | unknown kind => exact absurd rfl (h kind)
    | _ => simp [kind]
  have htext : request.encode =
      request.kind.toList ++ '\n' :: request.fields.flatMap Field.render := by
    simp [encode, markerLine]
  have hline : Text.line request.encode = request.kind.toList := by
    rw [htext, Text.line_append hbreak]
  have hblank : Request.ofKind (Text.line request.encode) = request.blank := by
    rw [hline, ofKind_kind h]
  have hknown : (ofKind (Text.line request.encode)).Known := by
    rw [hblank]
    cases request with
    | unknown kind => exact absurd rfl (h kind)
    | _ => exact fun _ => nofun
  rw [decode_of_known hknown, hblank, htext, Text.afterLine_append hbreak]
  exact readBody_render hs request.foldlM_fields

/-- An unknown kind is read back if it is one line and names none of the others. -/
theorem Request.decode_encode_unknown {kind : String} :
    Request.decode (Request.unknown kind).encode = ⟨.unknown kind, []⟩ ↔
      '\n' ∉ kind.toList ∧ kind ∉ Request.kinds := by
  have htext : (Request.unknown kind).encode = kind.toList ++ '\n' :: [] := by
    simp [encode, markerLine, fields, Request.kind]
  constructor
  · intro h
    have hmessage : (Request.decode (Request.unknown kind).encode).message = .unknown kind := by
      rw [h]
    obtain ⟨hline, hkinds⟩ := ofKind_eq_unknown.1 ((decode_sized _).2 kind hmessage)
    exact ⟨hline ▸ Text.not_mem_line _, hkinds⟩
  · rintro ⟨hbreak, hkinds⟩
    have hkind : Request.ofKind (Text.line (Request.unknown kind).encode) = .unknown kind := by
      rw [htext, Text.line_append hbreak]
      exact ofKind_eq_unknown.2 ⟨rfl, hkinds⟩
    rw [Request.decode, hkind]

theorem Request.decode_encode_iff (request : Request) :
    Request.decode request.encode = ⟨request, []⟩ ↔
      request.Sized ∧ ¬ ∃ kind, request = .unknown kind ∧
        ('\n' ∈ kind.toList ∨ kind ∈ Request.kinds) := by
  by_cases h : ∃ kind, request = .unknown kind
  · obtain ⟨kind, rfl⟩ := h
    have hs : (Request.unknown kind).Sized := nofun
    simp [decode_encode_unknown, hs]
  · have hknown : request.Known := fun kind hk => h ⟨kind, hk⟩
    constructor
    · -- what is read back was read, and only sized requests are
      intro hdecode
      refine ⟨?_, fun ⟨kind, hk, _⟩ => hknown kind hk⟩
      have hsized := (decode_sized request.encode).1
      rwa [hdecode] at hsized
    · rintro ⟨hs, -⟩
      exact decode_encode_known hs hknown

/-- **Exactly these requests are read back from their wire form**: of those whose values have
    lengths that can be read, all but those of an unknown kind that is more than a line, or that
    names one of the other kinds.  Every request that is read from any text is among them. -/
theorem decode_encode_request :
    (∀ request : Request, Request.decode request.encode = ⟨request, []⟩ ↔
      request.Sized ∧ ¬ ∃ kind, request = .unknown kind ∧
        ('\n' ∈ kind.toList ∨
          kind ∈ ["Mount", "List", "DrvMountData", "DrvMounted", "Unmount"])) ∧
    ∀ text, Request.decode (Request.decode text).message.encode =
      ⟨(Request.decode text).message, []⟩ := by
  refine ⟨Request.decode_encode_iff, fun text => ?_⟩
  obtain ⟨hsized, hunknown⟩ := Request.decode_sized text
  refine (Request.decode_encode_iff _).2 ⟨hsized, ?_⟩
  rintro ⟨kind, hk, hbad⟩
  obtain ⟨hline, hkinds⟩ := Request.ofKind_eq_unknown.1 (hunknown kind hk)
  rcases hbad with hbreak | hmem
  · exact Text.not_mem_line text (hline ▸ hbreak)
  · exact hkinds hmem

end MountControl.Wire
