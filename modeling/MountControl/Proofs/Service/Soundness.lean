/-
  MountControl — what every reachable registry obeys.

  `Registry.Sound` states the invariant.  Removals of any kind keep it
  (`Sound.of_sublist`), and so do a launch (`Sound.add`) and a worker's report
  (`Sound.report`); hence every request does (`Sound.observe`), and every run
  from an empty registry (`sound_run`).
-/
import Mathlib.Data.List.Nodup
import MountControl.Proofs.Service.Run
import MountControl.Proofs.Volume.Validation

namespace MountControl.Service

open Volume (InstanceId Options Uuid)
open Wire (Reply Request)

variable {σ : Type}

/-- Identifiers and mount points are unique, options obey the rules, and a volume counts as mounted
    exactly when its filesystem is known; only then it has a label. -/
structure Registry.Sound (registry : Registry) : Prop where
  ids : (registry.entries.map (·.id)).Nodup
  mountPoints : (registry.entries.map (·.options.mountPoint)).Nodup
  options : ∀ entry ∈ registry.entries, entry.options.Valid
  mounted : ∀ entry ∈ registry.entries, entry.state = .mounted ↔ entry.fsUuid.isSome
  label : ∀ entry ∈ registry.entries, entry.label.isSome → entry.state = .mounted

namespace Registry.Sound
variable {registry after : Registry}

theorem initial : Registry.Sound {} :=
  ⟨List.nodup_nil, List.nodup_nil, nofun, nofun, nofun⟩

/-- Leaving entries out keeps the invariant. -/
theorem of_sublist (h : registry.Sound) (hs : after.entries.Sublist registry.entries) :
    after.Sound where
  ids := h.ids.sublist (hs.map _)
  mountPoints := h.mountPoints.sublist (hs.map _)
  options entry he := h.options entry (hs.subset he)
  mounted entry he := h.mounted entry (hs.subset he)
  label entry he := h.label entry (hs.subset he)

theorem of_entries (h : registry.Sound) (he : after.entries = registry.entries) : after.Sound :=
  h.of_sublist (he ▸ List.Sublist.refl _)

/-- A new volume keeps the invariant if its identifier and its mount point are free. -/
theorem add (h : registry.Sound) {id : InstanceId} {options : Options} {worker : Worker}
    (hid : registry.get? id = none) (hat : registry.atMountPoint? options.mountPoint = none)
    (hv : options.Valid) : (registry.add (.starting id options worker)).Sound where
  ids := by
    rw [Registry.add, List.map_append, List.nodup_append]
    refine ⟨h.ids, by simp, ?_⟩
    intro a ha b hb heq
    obtain ⟨entry, he, rfl⟩ := List.mem_map.1 ha
    rw [List.map_singleton, List.mem_singleton] at hb
    exact get?_eq_none.1 hid entry he (heq.trans hb)
  mountPoints := by
    rw [Registry.add, List.map_append, List.nodup_append]
    refine ⟨h.mountPoints, by simp, ?_⟩
    intro a ha b hb heq
    obtain ⟨entry, he, rfl⟩ := List.mem_map.1 ha
    rw [List.map_singleton, List.mem_singleton] at hb
    exact atMountPoint?_eq_none.1 hat entry he (heq.trans hb)
  options entry he := by
    rcases List.mem_append.1 he with he | he
    · exact h.options entry he
    · rw [List.mem_singleton.1 he]; exact hv
  mounted entry he := by
    rcases List.mem_append.1 he with he | he
    · exact h.mounted entry he
    · rw [List.mem_singleton.1 he]; simp [Entry.starting]
  label entry he := by
    rcases List.mem_append.1 he with he | he
    · exact h.label entry he
    · rw [List.mem_singleton.1 he]; simp [Entry.starting]

/-- A worker's report keeps the invariant. -/
theorem report (h : registry.Sound) {id : InstanceId} {fsUuid : Uuid} {label : Option String}
    (hm : registry.markMounted? id fsUuid label = some after) : after.Sound := by
  obtain ⟨-, rfl⟩ := markMounted?_eq_some.1 hm
  refine ⟨?_, ?_, ?_, ?_, ?_⟩
  · rw [map_updateFirst (·.id) (·.attach fsUuid label) fun _ => rfl]
    exact h.ids
  · rw [map_updateFirst (·.options.mountPoint) (·.attach fsUuid label) fun _ => rfl]
    exact h.mountPoints
  all_goals
    intro entry he
    rcases mem_updateFirst he with he | ⟨old, hold, rfl⟩
  · exact h.options entry he
  · exact h.options old hold
  · exact h.mounted entry he
  · simp [Entry.attach]
  · exact h.label entry he
  · simp [Entry.attach]

/-- Each of its entries is found by its identifier. -/
theorem get?_of_mem (h : registry.Sound) {entry : Entry} (he : entry ∈ registry.entries) :
    registry.get? entry.id = some entry := by
  cases hget : registry.get? entry.id with
  | none => exact absurd rfl (get?_eq_none.1 hget entry he)
  | some found =>
    have hid : found.id = entry.id := by simpa using List.find?_some hget
    rw [List.inj_on_of_nodup_map h.ids (List.mem_of_find?_eq_some hget) he hid]

/-- No two polls are of volumes of one identifier. -/
theorem polls_distinct (h : registry.Sound) (workers : Workers σ) (place : σ) :
    ((workers.survey registry.entries place).1.map (·.entry.id)).Nodup := by
  have hids := h.ids
  rwa [← survey_entries workers registry.entries place, List.map_map] at hids

/-! ## Requests -/

variable {dispatcher : Dispatcher σ} {stage : Stage σ}

theorem swept (h : stage.registry.Sound) (event : Log.Event) :
    (stage.swept dispatcher.workers event).registry.Sound :=
  h.of_sublist (survivors_sublist dispatcher.workers stage.registry.entries stage.place)

theorem routed {request : Request} {result : Except Halt (Except Rejection Reply)}
    {after : Stage σ} (h : stage.registry.Sound)
    (hr : Routed dispatcher stage request result after) : after.registry.Sound := by
  cases hr with
  | refused | stuck | listed | described => exact h
  | panicked hl | failed hl => exact h.of_entries (allocate_eq_some hl.allocated).2
  | started hl =>
    obtain ⟨hid, hentries⟩ := allocate_eq_some hl.allocated
    refine (h.of_entries hentries).add ?_ ?_ (Volume.validate_eq_ok_iff.1 hl.valid).2
    · rw [Registry.get?, hentries]; exact hid
    · rw [Registry.atMountPoint?, hentries]; exact hl.free
  | reported hm => exact h.report hm
  | stopped hr | abandoned hr =>
    obtain ⟨-, rfl⟩ := remove?_eq_some.1 hr.removed
    exact h.of_sublist List.eraseP_sublist

/-- **Every request keeps the invariant.** -/
theorem observe (h : stage.registry.Sound) (request : Request) :
    (stage.observe dispatcher request).2.registry.Sound := by
  obtain ⟨event, note, result, after, effects, hr, -, -, ho⟩ := observe_eq dispatcher stage request
  rw [ho]
  show after.registry.Sound
  exact (h.swept event).routed hr

end Registry.Sound

/-- **The registry is sound after every run from an empty one**, whatever the workers do, wherever
    identifiers come from, and whatever is asked. -/
theorem sound_run (dispatcher : Dispatcher σ) (place : σ) (requests : List Request) :
    ((Stage.initial place).run dispatcher requests).2.registry.Sound :=
  run_induction (P := fun _ stage => stage.registry.Sound)
    (fun _ _ request h => h.observe request) requests [] (Stage.initial place) .initial

end MountControl.Service
