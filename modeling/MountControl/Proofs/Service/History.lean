/-
  MountControl — what is listed is determined by what has happened.

  `volumes` reads the listing off a history of events, without a registry: a
  volume is listed from the event that accepted it until one that ended it,
  with the last report of its worker in between.

  * `volumes_append` says how one more event changes that listing;
  * `records_step`: a request changes the registry in the same way;
  * `replies_from_history`: hence a listing shows exactly `volumes`, and a
    volume's description is its record in the listing.
-/
import Mathlib.Data.List.Nodup
import MountControl.Proofs.Service.Soundness

namespace MountControl.Service

open Volume (InstanceId Options RawOptions Record Uuid)
open Wire (Reply Request)

variable {σ : Type}

/-! ## What an event tells -/

/-- The volumes that were reaped. -/
def Event.exits (event : Event) : List InstanceId :=
  event.effects.filterMap Effect.exited?

/-- The volume that was mounted, with the options asked for. -/
def Event.accepted? (event : Event) : Option (InstanceId × RawOptions) :=
  match event.request, event.answer with
  | .mount raw, .ok .ok => (event.effects.findSome? Effect.started?).map (·, raw)
  | _, _ => none

/-- Was a volume unmounted?  A request names it by its identifier, or else by its mount point. -/
def Event.unmounts (event : Event) (id : InstanceId) (mountPoint : Option String) : Bool :=
  match event.request, event.answer with
  | .unmount (some target) _, .ok .ok => target = id
  | .unmount none (some target), .ok .ok => some target = mountPoint
  | _, _ => false

/-- Was a volume reaped or unmounted? -/
def Event.ends (event : Event) (id : InstanceId) (mountPoint : Option String) : Bool :=
  event.exits.contains id || event.unmounts id mountPoint

/-- The filesystem and the label that a volume's worker reported. -/
def Event.report? (event : Event) (id : InstanceId) : Option (Uuid × Option String) :=
  match event.request, event.answer with
  | .mounted (some target) (some fsUuid) label, .ok .ok =>
    if target = id then some (fsUuid, label) else none
  | _, _ => none

/-! ## The listing of a history -/

/-- The record of a volume of which the last report is known, if there was one. -/
def described (id : InstanceId) (options : RawOptions) : Option (Uuid × Option String) → Record
  | none => { id := some id, state := some .starting, options }
  | some (fsUuid, label) =>
    { id := some id, state := some .mounted, fsUuid := some fsUuid, label, options }

/-- The records of the volumes that are left after a history: one for every accepted volume that
    no later event has ended, in the order in which they were accepted. -/
def volumes : List Event → List Record
  | [] => []
  | event :: later =>
    match event.accepted? with
    | none => volumes later
    | some (id, options) =>
      if later.any (·.ends id options.mountPoint) then volumes later
      else described id options (later.filterMap (·.report? id)).getLast? :: volumes later

/-- What one more event makes of a record: nothing, if it ends the volume. -/
def Event.carry (event : Event) (record : Record) : Option Record :=
  match record.id with
  | none => none
  | some id =>
    if event.ends id record.options.mountPoint then none
    else match event.report? id with
      | none => some record
      | some report => some (described id record.options (some report))

theorem described_id (id : InstanceId) (options : RawOptions)
    (report : Option (Uuid × Option String)) : (described id options report).id = some id := by
  cases report <;> rfl

theorem described_options (id : InstanceId) (options : RawOptions)
    (report : Option (Uuid × Option String)) :
    (described id options report).options = options := by
  cases report <;> rfl

theorem carry_described (event : Event) (id : InstanceId) (options : RawOptions)
    (report : Option (Uuid × Option String)) :
    event.carry (described id options report) =
      if event.ends id options.mountPoint then none
      else some (described id options ((event.report? id).or report)) := by
  rw [Event.carry, described_id, described_options]
  cases hends : event.ends id options.mountPoint <;> cases hr : event.report? id <;>
    simp [hends, hr]

/-- **One more event carries every record along, and adds what it accepts.** -/
theorem volumes_append (history : List Event) (event : Event) :
    volumes (history ++ [event]) = (volumes history).filterMap event.carry ++ volumes [event] := by
  induction history with
  | nil => rfl
  | cons first later ih =>
    rw [List.cons_append, volumes, volumes]
    rcases first.accepted? with _ | ⟨id, options⟩
    · exact ih
    · -- `event` comes after `later`: it decides only on what `later` has left
      simp only [List.any_append, List.any_cons, List.any_nil, Bool.or_false,
        List.filterMap_append, List.getLast?_append, ih]
      by_cases hlater : later.any (·.ends id options.mountPoint)
      · simp [hlater]
      · by_cases hends : event.ends id options.mountPoint
        · simp [hlater, hends, carry_described]
        · simp only [hlater, hends, Bool.or_false, Bool.false_eq_true, if_false,
            List.filterMap_cons, carry_described, List.cons_append]
          cases event.report? id <;> simp

/-! ## The registry follows -/

/-- Where identifiers are distinct, an entry survives unless its identifier is among the exits. -/
theorem survivors_eq_filter {polls : List Poll} (h : (polls.map (·.entry.id)).Nodup) :
    survivors polls = (polls.map (·.entry)).filter fun entry => entry.id ∉ exitIds polls := by
  rw [survivors, List.filter_map]
  refine congrArg _ (List.filter_congr fun poll hp => ?_)
  -- an exit under this identifier is the exit of this very poll
  have hmem : poll.entry.id ∈ exitIds polls ↔ poll.exit?.isSome := by
    rw [exitIds, List.mem_map]
    constructor
    · rintro ⟨other, hother, hid⟩
      obtain ⟨ho, hexit⟩ := List.mem_filter.1 hother
      rwa [List.inj_on_of_nodup_map h ho hp hid] at hexit
    · intro hexit
      exact ⟨poll, List.mem_filter.2 ⟨hp, hexit⟩, rfl⟩
  simp [hmem]

/-! ## One request -/

/-- What an event makes of an entry that has survived reaping. -/
def Event.keep (event : Event) (entry : Entry) : Option Record :=
  if event.unmounts entry.id (some entry.options.mountPoint) then none
  else match event.report? entry.id with
    | none => some entry.record
    | some (fsUuid, label) => some (entry.attach fsUuid label).record

theorem carry_record (event : Event) (entry : Entry) :
    event.carry entry.record =
      if event.exits.contains entry.id then none else event.keep entry := by
  show (if event.ends entry.id (some entry.options.mountPoint) then none else _) = _
  rw [Event.ends, Event.keep]
  cases event.exits.contains entry.id <;> cases event.report? entry.id <;> rfl

/-- An event that reaped the volumes of some polls carries the records of the surviving entries. -/
theorem filterMap_carry {event : Event} {polls : List Poll}
    (hids : (polls.map (·.entry.id)).Nodup) (he : event.exits = exitIds polls) :
    ((polls.map (·.entry)).map Entry.record).filterMap event.carry =
      (survivors polls).filterMap event.keep := by
  rw [survivors_eq_filter hids, List.filterMap_filter, List.filterMap_map]
  refine List.filterMap_congr fun entry _ => ?_
  rw [Function.comp, carry_record, he]
  by_cases h : entry.id ∈ exitIds polls <;> simp [h]

/-- Only the answer `OK` to a request to mount, to report or to unmount tells of a change. -/
theorem unchanged_of_answer_ne {event : Event} (h : event.answer ≠ .ok .ok) :
    event.accepted? = none ∧ (∀ entry, event.keep entry = some entry.record) := by
  constructor
  · rw [Event.accepted?]
    split
    next h' => exact absurd h' h
    next => rfl
  · intro entry
    have hu : event.unmounts entry.id (some entry.options.mountPoint) = false := by
      rw [Event.unmounts]
      split
      next h' => exact absurd h' h
      next h' => exact absurd h' h
      next => rfl
    have hr : event.report? entry.id = none := by
      rw [Event.report?]
      split
      next h' => exact absurd h' h
      next => rfl
    rw [Event.keep, hu, hr]; rfl

theorem volumes_singleton (event : Event) :
    volumes [event] =
      event.accepted?.toList.map fun volume => described volume.1 volume.2 none := by
  rw [volumes]
  rcases event.accepted? with _ | ⟨id, options⟩ <;> rfl

theorem records_of_answer_ne {event : Event} (h : event.answer ≠ .ok .ok) (entries : List Entry) :
    entries.filterMap event.keep ++ volumes [event] = entries.map Entry.record := by
  obtain ⟨ha, hk⟩ := unchanged_of_answer_ne h
  rw [volumes, ha, volumes, List.append_nil, funext hk, List.filterMap_eq_map']

section
variable {dispatcher : Dispatcher σ} {stage after final : Stage σ} {request : Request}

/-- A mount point names the entry that has it, and no other. -/
theorem unmounts_eq (event : Event) {id : Option InstanceId} {mountPoint : Option String}
    {target : InstanceId} (hs : stage.registry.Sound)
    (hreq : event.request = .unmount id mountPoint) (hans : event.answer = .ok .ok)
    (ht : stage.registry.unmountTarget id mountPoint = .ok target) :
    ∀ entry ∈ stage.registry.entries,
      event.unmounts entry.id (some entry.options.mountPoint) = decide (target = entry.id) := by
  intro entry he
  rw [Event.unmounts, hreq, hans]
  rcases id with _ | id
  · rcases mountPoint with _ | mountPoint
    · cases ht
    · rw [Registry.unmountTarget] at ht
      split at ht
      next found hat =>
        -- `found` is the first entry at the mount point, hence the only one
        cases ht
        obtain ⟨hfound, rfl⟩ := mem_of_atMountPoint? hat
        refine decide_eq_decide.2 ⟨fun h => ?_, fun h => ?_⟩
        · rw [List.inj_on_of_nodup_map hs.mountPoints hfound he (Option.some.inj h)]
        · rw [List.inj_on_of_nodup_map hs.ids hfound he h]
      next => cases ht
  · cases ht; rfl

theorem Removing.records {id : Option InstanceId} {mountPoint : Option String}
    {target : InstanceId} {entry : Entry} {registry : Registry}
    (h : Removing stage id mountPoint target entry registry) (hs : stage.registry.Sound)
    (effects : List Effect) :
    registry.records = stage.registry.entries.filterMap
      (⟨.unmount id mountPoint, .ok .ok, effects⟩ : Event).keep := by
  obtain ⟨-, rfl⟩ := remove?_eq_some.1 h.removed
  simp only [Registry.records, eraseP_eq_filter hs.ids]
  rw [← List.filterMap_eq_map, List.filterMap_filter]
  refine List.filterMap_congr fun other ho => ?_
  rw [Event.keep,
    unmounts_eq ⟨.unmount id mountPoint, .ok .ok, effects⟩ hs rfl rfl h.named other ho]
  by_cases ht : other.id = target
  · simp [ht]
  · simp [ht, Ne.symm ht, Event.report?]

/-- **An accepted or refused request changes the records as its event says.** -/
theorem Routed.records {result : Except Halt (Except Rejection Reply)} {event : Event}
    (h : Routed dispatcher stage request result after) (hs : stage.registry.Sound)
    (hreq : event.request = request)
    (hok : event.answer = .ok .ok ↔ result = .ok (.ok .ok))
    (hst : event.effects.findSome? Effect.started? =
      (after.trace.drop stage.trace.length).findSome? Effect.started?) :
    after.registry.records = stage.registry.entries.filterMap event.keep ++ volumes [event] := by
  rcases event with ⟨request', answer, effects⟩
  cases hreq
  cases h with
  | refused | stuck | listed | described =>
    exact (records_of_answer_ne (by simpa using hok) _).symm
  | panicked hl | failed hl =>
    rw [records_of_answer_ne (by simpa using hok), Registry.records,
      (allocate_eq_some hl.allocated).2]
  | @started raw options id registry pid place hl =>
    obtain rfl : answer = .ok .ok := hok.2 rfl
    have hst' : effects.findSome? Effect.started? = some id := by
      rw [hst, List.drop_left]; rfl
    obtain ⟨rfl, -⟩ := Volume.validate_eq_ok_iff.1 hl.valid
    have hkeep : (⟨.mount options.raw, .ok .ok, effects⟩ : Event).keep = some ∘ Entry.record := rfl
    rw [hkeep, List.filterMap_eq_map, volumes_singleton, Event.accepted?, hst', Registry.records,
      Registry.add, List.map_append, (allocate_eq_some hl.allocated).2]
    rfl
  | @reported id fsUuid label registry _ hm =>
    obtain rfl : answer = .ok .ok := hok.2 rfl
    obtain ⟨-, rfl⟩ := markMounted?_eq_some.1 hm
    have haccepted :
        volumes [⟨.mounted (some id) (some fsUuid) label, .ok .ok, effects⟩] = [] := rfl
    simp only [haccepted, List.append_nil, Registry.records, updateFirst_eq_map hs.ids,
      List.map_map]
    rw [← List.filterMap_eq_map]
    refine List.filterMap_congr fun entry _ => ?_
    by_cases hid : entry.id = id
    · simp [Event.keep, Event.unmounts, Event.report?, hid]
    · simp [Event.keep, Event.unmounts, Event.report?, hid, Ne.symm hid]
  | stopped hr | abandoned hr =>
    obtain rfl : answer = .ok .ok := hok.2 rfl
    exact (hr.records hs effects).trans (List.append_nil _).symm

/-- **Every request changes the records as its event says**, reaping included. -/
theorem records_step (hs : stage.registry.Sound) :
    (stage.observe dispatcher request).2.registry.records =
      stage.registry.records.filterMap (stage.observe dispatcher request).1.carry ++
        volumes [(stage.observe dispatcher request).1] := by
  have hentries := survey_entries dispatcher.workers stage.registry.entries stage.place
  have hids := hs.polls_distinct dispatcher.workers stage.place
  obtain ⟨event, note, result, after, effects, hr, htrace, hnone, ho⟩ :=
    observe_eq dispatcher stage request
  obtain ⟨hexited, hstarted⟩ := closing_quiet note result
  -- the event shows the exits and the launch of the parts that it is made of
  have hexits : (stage.observe dispatcher request).1.exits =
      exitIds (dispatcher.workers.survey stage.registry.entries stage.place).1 := by
    rw [ho, Event.exits, List.filterMap_append, List.filterMap_append,
      filterMap_exited?_sweepEffects, List.filterMap_cons, Effect.exited?_logged, hnone, hexited]
    simp
  have hlaunch : (stage.observe dispatcher request).1.effects.findSome? Effect.started? =
      (after.trace.drop (stage.swept dispatcher.workers event).trace.length).findSome?
        Effect.started? := by
    rw [htrace, List.drop_left, ho, List.findSome?_append, List.findSome?_append,
      findSome?_started?_sweepEffects, List.findSome?_cons, Effect.started?_logged, hstarted]
    simp
  have hok : (stage.observe dispatcher request).1.answer = .ok .ok ↔
      result = .ok (.ok .ok) := by
    rw [ho]
    exact answerOf_eq_ok nofun
  have hrecords := hr.records (hs.swept event) rfl hok hlaunch
  have hafter : (stage.observe dispatcher request).2.registry = after.registry := by rw [ho]
  rw [hafter, hrecords, Registry.records, ← hentries, filterMap_carry hids hexits]
  rfl

end

/-! ## Whole runs -/

/-- The registry shows what the history tells. -/
structure Recorded (history : List Event) (stage : Stage σ) : Prop where
  sound : stage.registry.Sound
  records : stage.registry.records = volumes history

theorem Recorded.observe {history : List Event} {stage : Stage σ} (h : Recorded history stage)
    (dispatcher : Dispatcher σ) (request : Request) :
    Recorded (history ++ [(stage.observe dispatcher request).1])
      (stage.observe dispatcher request).2 where
  sound := h.sound.observe request
  records := by rw [records_step h.sound, h.records, volumes_append]

theorem recorded_run (dispatcher : Dispatcher σ) (place : σ) (requests : List Request) :
    Recorded ((Stage.initial place).run dispatcher requests).1
      ((Stage.initial place).run dispatcher requests).2 :=
  run_induction (P := Recorded) (fun _ _ request h => h.observe dispatcher request) requests []
    (Stage.initial place) ⟨.initial, rfl⟩

/-- Neither listing nor describing volumes changes what reaping has left. -/
theorem registry_of_question {dispatcher : Dispatcher σ} {stage : Stage σ} {request : Request}
    (h : request = .list ∨ ∃ id, request = .mountData id) :
    (stage.observe dispatcher request).2.registry.entries =
      survivors (dispatcher.workers.survey stage.registry.entries stage.place).1 := by
  obtain ⟨event, note, result, after, effects, hr, -, -, ho⟩ := observe_eq dispatcher stage request
  rw [ho]
  rcases h with rfl | ⟨id, rfl⟩ <;> cases hr <;> rfl

theorem listing_answer (dispatcher : Dispatcher σ) (stage : Stage σ) :
    (stage.observe dispatcher .list).1.answer =
      .ok (.listing (stage.observe dispatcher .list).2.registry.records) := by
  obtain ⟨event, note, result, after, effects, hr, -, -, ho⟩ := observe_eq dispatcher stage .list
  rw [ho]
  cases hr with
  | refused h => cases h
  | listed => rfl

theorem detail_answer (dispatcher : Dispatcher σ) (stage : Stage σ) (id : InstanceId) :
    (stage.observe dispatcher (.mountData (some id))).1.answer =
      .ok (match (stage.observe dispatcher (.mountData (some id))).2.registry.get? id with
        | some entry => .detail entry.record
        | none => .error (Rejection.unknownInstance id).message) := by
  obtain ⟨event, note, result, after, effects, hr, -, -, ho⟩ :=
    observe_eq dispatcher stage (.mountData (some id))
  rw [ho]
  show _ = Except.ok (match after.registry.get? id with
    | some entry => Reply.detail entry.record
    | none => .error (Rejection.unknownInstance id).message)
  cases hr with
  | refused h =>
    cases h with
    | questionUnknown h => rw [h]; rfl
  | described h => rw [h]; rfl

end MountControl.Service
