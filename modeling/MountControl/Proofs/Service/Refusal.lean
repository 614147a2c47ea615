/-
  MountControl — a request that is refused leaves no trace.

  Of the effects of a request, polls, reports and notes in the log belong to
  every request; what distinguishes one are its calls: `Event.launches` and
  `Event.stops`.

  * `Routed.launches` and `Routed.stops`: the calls that each outcome makes;
  * `refused_without_trace`: an error leaves the volumes as reaping has left
    them, and the launcher is called for a mount that is possible, once.
-/
import MountControl.Proofs.Service.Run
import MountControl.Service.Rehearsal

namespace MountControl.Service

open Volume (InstanceId Options)
open Wire (Reply Request)

variable {σ : Type}

/-! ## Calls -/

/-- A call of the launcher: the volume, its options, and the result. -/
def Effect.launch? : Effect → Option (InstanceId × Options × Launch)
  | .launched id options result => some (id, options, result)
  | _ => none

/-- The worker that was told to stop. -/
def Effect.stop? : Effect → Option Worker
  | .stopped _ worker _ _ => some worker
  | _ => none

/-- The calls of the launcher. -/
def Event.launches (event : Event) : List (InstanceId × Options × Launch) :=
  event.effects.filterMap Effect.launch?

/-- The workers that were told to stop. -/
def Event.stops (event : Event) : List Worker :=
  event.effects.filterMap Effect.stop?

/-- A view of effects that sees no poll, no report and no note in the log. -/
structure Distinctive {β : Type} (view : Effect → Option β) : Prop where
  polled : ∀ id worker result, view (.polled id worker result) = none
  reported : ∀ health, view (.reported health) = none
  logged : ∀ event, view (.logged event) = none

theorem Effect.distinctive_launch? : Distinctive Effect.launch? :=
  ⟨fun _ _ _ => rfl, fun _ => rfl, fun _ => rfl⟩

theorem Effect.distinctive_stop? : Distinctive Effect.stop? :=
  ⟨fun _ _ _ => rfl, fun _ => rfl, fun _ => rfl⟩

/-- Of reaping there are only polls, reports and notes. -/
theorem mem_sweepEffects {polls : List Poll} {effect : Effect} (h : effect ∈ sweepEffects polls) :
    (∃ poll ∈ polls, effect = .polled poll.entry.id poll.entry.worker poll.result) ∨
      (∃ health, effect = .reported health) ∨ ∃ event, effect = .logged event := by
  rcases List.mem_append.1 h with h | h
  · obtain ⟨poll, hp, h⟩ := List.mem_flatMap.1 h
    rcases List.mem_cons.1 h with rfl | h
    · exact .inl ⟨poll, hp, rfl⟩
    · rcases poll with ⟨entry, error | _ | exit⟩
      · rw [List.mem_singleton.1 h]; exact .inr (.inr ⟨_, rfl⟩)
      · cases h
      · rw [List.mem_singleton.1 h]; exact .inr (.inr ⟨_, rfl⟩)
  · obtain ⟨volume, -, rfl⟩ := List.mem_map.1 h
    exact .inr (.inl ⟨_, rfl⟩)

section
variable {β : Type} {view : Effect → Option β}

theorem Distinctive.filterMap_sweepEffects (h : Distinctive view) (polls : List Poll) :
    (sweepEffects polls).filterMap view = [] := by
  refine List.filterMap_eq_nil_iff.2 fun effect he => ?_
  rcases mem_sweepEffects he with ⟨poll, -, rfl⟩ | ⟨health, rfl⟩ | ⟨event, rfl⟩
  · exact h.polled _ _ _
  · exact h.reported health
  · exact h.logged event

theorem Distinctive.filterMap_closing (h : Distinctive view) (note : Log.Event)
    (result : Except Halt (Except Rejection Reply)) : (closing note result).filterMap view = [] := by
  rcases result with halt | rejection | reply
  · rfl
  · simp [closing, h.logged]
  · rfl

/-- Reaping and the notes around an outcome add nothing to the calls of the outcome. -/
theorem Distinctive.filterMap_framed (h : Distinctive view) (polls : List Poll)
    (event note : Log.Event) (effects : List Effect)
    (result : Except Halt (Except Rejection Reply)) :
    (sweepEffects polls ++ .logged event :: effects ++ closing note result).filterMap view =
      effects.filterMap view := by
  rw [List.filterMap_append, List.filterMap_append, h.filterMap_sweepEffects,
    List.filterMap_cons_none (h.logged event), h.filterMap_closing, List.nil_append,
    List.append_nil]

end

/-! ## Outcomes -/

section
variable {dispatcher : Dispatcher σ} {stage after : Stage σ} {request : Request}
  {result : Except Halt (Except Rejection Reply)} {effects : List Effect}

/-- **The launcher is called once, for a mount that is possible**, or not at all. -/
theorem Routed.launches (h : Routed dispatcher stage request result after)
    (htrace : after.trace = stage.trace ++ effects) :
    effects.filterMap Effect.launch? = [] ∨
      ∃ raw options id registry launch place, request = .mount raw ∧
        Launching dispatcher stage raw options id registry launch place ∧
        effects.filterMap Effect.launch? = [(id, options, launch)] := by
  cases h with
  | refused | stuck | listed | described =>
    rw [List.self_eq_append_right.1 htrace]
    exact .inl rfl
  | panicked hl | failed hl | started hl =>
    rw [← List.append_cancel_left htrace]
    exact .inr ⟨_, _, _, _, _, _, rfl, hl, rfl⟩
  | reported | stopped | abandoned =>
    rw [← List.append_cancel_left htrace]
    exact .inl rfl

/-- The launcher is called for every mount that is possible. -/
theorem Routed.launches_of_possible {raw : Volume.RawOptions} {options : Options}
    (h : Routed dispatcher stage (.mount raw) result after)
    (htrace : after.trace = stage.trace ++ effects) (hvalid : raw.validate = .ok options)
    (hfree : stage.registry.atMountPoint? options.mountPoint = none)
    (hid : (stage.registry.allocate dispatcher.ids dispatcher.patience).isSome) :
    ∃ id launch, effects.filterMap Effect.launch? = [(id, options, launch)] := by
  cases h with
  | refused hr =>
    cases hr with
    | invalidOptions hinvalid =>
      rw [hvalid] at hinvalid
      cases hinvalid
    | mountPointInUse hvalid' hat =>
      obtain rfl := Except.ok.inj (hvalid.symm.trans hvalid')
      rw [hfree] at hat
      cases hat
  | stuck _ _ hnone =>
    rw [hnone] at hid
    cases hid
  | panicked hl | failed hl | started hl =>
    obtain rfl := Except.ok.inj (hvalid.symm.trans hl.valid)
    rw [← List.append_cancel_left htrace]
    exact ⟨_, _, rfl⟩

/-- Only a request to unmount that is met has a worker stopped. -/
theorem Routed.stops (h : Routed dispatcher stage request result after)
    (htrace : after.trace = stage.trace ++ effects) {rejection : Rejection}
    (hr : result = .ok (.error rejection)) : effects.filterMap Effect.stop? = [] := by
  cases h with
  | refused =>
    rw [List.self_eq_append_right.1 htrace]
    rfl
  | failed =>
    rw [← List.append_cancel_left htrace]
    rfl
  | stuck | panicked | listed | described | started | reported | stopped | abandoned => cases hr

/-- An error is the text of a rejection. -/
theorem Routed.rejection_of_error (h : Routed dispatcher stage request result after)
    {description : String} (ha : answerOf result = .ok (.error description)) :
    ∃ rejection, result = .ok (.error rejection) ∧ rejection.message = description := by
  rcases result with halt | rejection | reply
  · cases ha
  · cases ha
    exact ⟨rejection, rfl, rfl⟩
  · -- nothing that is met is answered by an error
    cases ha
    cases h

/-- What is refused, or cannot be launched, leaves the entries alone. -/
theorem Routed.entries_of_rejection (h : Routed dispatcher stage request result after)
    {rejection : Rejection} (hr : result = .ok (.error rejection)) :
    after.registry.entries = stage.registry.entries := by
  cases h with
  | refused => rfl
  | failed hl => exact (allocate_eq_some hl.allocated).2
  | stuck | panicked | listed | described | started | reported | stopped | abandoned => cases hr

end

/-! ## Requests -/

/-- The registry on which a request is routed is the one that reaping leaves. -/
theorem registry_swept (workers : Workers σ) (stage : Stage σ) (event : Log.Event) :
    (stage.swept workers event).registry = (stage.reap workers).2.registry := by
  rw [reap_eq]
  rfl

section
variable {dispatcher : Dispatcher σ} {stage : Stage σ} {request : Request}

/-- **An event shows the calls of its outcome**, and no others. -/
theorem observe_calls (dispatcher : Dispatcher σ) (stage : Stage σ) (request : Request) :
    ∃ note result after effects,
      Routed dispatcher (stage.swept dispatcher.workers note) request result after ∧
      after.trace = (stage.swept dispatcher.workers note).trace ++ effects ∧
      (stage.observe dispatcher request).1.answer = answerOf result ∧
      (stage.observe dispatcher request).2.registry = after.registry ∧
      ∀ {β : Type} {view : Effect → Option β}, Distinctive view →
        (stage.observe dispatcher request).1.effects.filterMap view = effects.filterMap view := by
  obtain ⟨note, closingNote, result, after, effects, hr, htrace, -, ho⟩ :=
    observe_eq dispatcher stage request
  refine ⟨note, result, after, effects, hr, htrace, ?_, ?_, fun {β view} hview => ?_⟩
  · rw [ho]
  · rw [ho]
  · rw [ho]
    exact hview.filterMap_framed ..

theorem observe_launches (dispatcher : Dispatcher σ) (stage : Stage σ) (request : Request) :
    (stage.observe dispatcher request).1.launches = [] ∨
      ∃ raw options id launch, request = .mount raw ∧ raw.validate = .ok options ∧
        (stage.reap dispatcher.workers).2.registry.atMountPoint? options.mountPoint = none ∧
        (stage.reap dispatcher.workers).2.registry.get? id = none ∧
        (stage.observe dispatcher request).1.launches = [(id, options, launch)] := by
  obtain ⟨note, result, after, effects, hr, htrace, -, -, hview⟩ :=
    observe_calls dispatcher stage request
  rw [Event.launches, hview Effect.distinctive_launch?,
    ← registry_swept dispatcher.workers stage note]
  rcases hr.launches htrace with h | ⟨raw, options, id, registry, launch, place, hreq, hl, h⟩
  · exact .inl h
  · exact .inr ⟨raw, options, id, launch, hreq, hl.valid, hl.free,
      (allocate_eq_some hl.allocated).1, h⟩

theorem observe_launches_of_possible {raw : Volume.RawOptions} {options : Options} {n : Nat}
    (hvalid : raw.validate = .ok options)
    (hfree : (stage.reap dispatcher.workers).2.registry.atMountPoint? options.mountPoint = none)
    (hn : n < dispatcher.patience)
    (hid : (stage.reap dispatcher.workers).2.registry.get?
      ⟨dispatcher.ids.candidate ((stage.reap dispatcher.workers).2.registry.drawn + n)⟩ = none) :
    ∃ id launch, (stage.observe dispatcher (.mount raw)).1.launches = [(id, options, launch)] := by
  obtain ⟨note, result, after, effects, hr, htrace, -, -, hview⟩ :=
    observe_calls dispatcher stage (.mount raw)
  rw [← registry_swept dispatcher.workers stage note] at hfree hid
  rw [Event.launches, hview Effect.distinctive_launch?]
  exact hr.launches_of_possible htrace hvalid hfree (allocate_isSome hn hid)

/-- An error leaves the entries that reaping has left, and stops nothing. -/
theorem observe_error {description : String}
    (h : (stage.observe dispatcher request).1.answer = .ok (.error description)) :
    (stage.observe dispatcher request).2.registry.entries =
      (stage.reap dispatcher.workers).2.registry.entries ∧
        (stage.observe dispatcher request).1.stops = [] := by
  obtain ⟨note, result, after, effects, hr, htrace, hanswer, hregistry, hview⟩ :=
    observe_calls dispatcher stage request
  obtain ⟨rejection, hrejection, -⟩ := hr.rejection_of_error (hanswer.symm.trans h)
  rw [hregistry, Event.stops, hview Effect.distinctive_stop?,
    ← registry_swept dispatcher.workers stage note]
  exact ⟨hr.entries_of_rejection hrejection, hr.stops htrace hrejection⟩

end

/-- **A refused request leaves no trace.**  Where the answer is an error, the volumes are those that
    reaping has left, with all that is known of them and in the same order, and no worker was
    stopped.  The launcher is called at most once for any request, and only for valid options and a
    free mount point, with a free identifier; there it is called once, if any of the candidates is
    free. -/
theorem refused_without_trace (dispatcher : Dispatcher σ) (stage : Stage σ) (request : Request) :
    let left := (stage.reap dispatcher.workers).2.registry
    let event := (stage.observe dispatcher request).1
    let after := (stage.observe dispatcher request).2
    (∀ description, event.answer = .ok (.error description) →
      after.registry.entries = left.entries ∧ event.stops = [] ∧ event.launches.length ≤ 1) ∧
    (∀ id options launch, (id, options, launch) ∈ event.launches →
      (∃ raw, request = .mount raw ∧ raw.validate = .ok options) ∧
        left.atMountPoint? options.mountPoint = none ∧ left.get? id = none) ∧
    (∀ raw options n, request = .mount raw → raw.validate = .ok options →
      left.atMountPoint? options.mountPoint = none → n < dispatcher.patience →
      left.get? ⟨dispatcher.ids.candidate (left.drawn + n)⟩ = none →
      ∃ id launch, event.launches = [(id, options, launch)]) := by
  intro left event after
  have hcalls := observe_launches dispatcher stage request
  refine ⟨fun description ha => ?_, fun id options launch hmem => ?_, ?_⟩
  · obtain ⟨hentries, hstops⟩ := observe_error ha
    refine ⟨hentries, hstops, ?_⟩
    rcases hcalls with h | ⟨_, _, _, _, -, -, -, -, h⟩ <;> simp [event, h]
  · rcases hcalls with h | ⟨raw, options', id', launch', hreq, hvalid, hfree, hid, h⟩
    · rw [h] at hmem
      cases hmem
    · rw [h, List.mem_singleton] at hmem
      cases hmem
      exact ⟨⟨raw, hreq, hvalid⟩, hfree, hid⟩
  · rintro raw options n rfl hvalid hfree hn hid
    exact observe_launches_of_possible hvalid hfree hn hid

/-- Where `/mnt` is taken, a second mount there leaves the volume alone, and one at `/srv` calls the
    launcher once. -/
theorem refused_without_trace_busy :
    let dispatcher : Dispatcher Rehearsal.Cast := ⟨Rehearsal.rehearsal, .scripted [16, 17], 2, 10⟩
    let stage := ((Stage.initial {}).run dispatcher
      [.mount { mountPoint := some "/mnt", devices := ["/dev/sdb"] }]).2
    let busy := Request.mount { mountPoint := some "/mnt", devices := ["/dev/sdc"] }
    let free := Request.mount { mountPoint := some "/srv", devices := ["/dev/sdc"] }
    (stage.observe dispatcher busy).2.registry.entries.map (·.options.devices) = [["/dev/sdb"]] ∧
      (stage.observe dispatcher busy).1.stops = [] ∧
      (stage.observe dispatcher free).1.launches.length = 1 := by
  intro dispatcher stage busy free
  obtain ⟨hentries, hstops, -⟩ := (refused_without_trace dispatcher stage busy).1 _ rfl
  obtain ⟨id, launch, hlaunches⟩ := (refused_without_trace dispatcher stage free).2.2
    _ ⟨"/srv", ["/dev/sdc"], .default, none, false⟩ 0 rfl (by rfl) (by decide) (by decide)
    (by decide)
  exact ⟨by rw [hentries]; decide, hstops, by rw [hlaunches]; rfl⟩

end MountControl.Service
