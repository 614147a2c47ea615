/-
  MountControl — the lives of volumes, as they are reported.

  Of one volume at a time, a start and an exit are reported in turn: the
  start when the volume becomes live, the exit when it is so no longer.  Only
  where a stop fails, the exit is never reported.

  * `Story` relates the reports about an identifier to the entry that has it;
  * `Turn` is what one step may do to it, and `Story.turn` carries the story on;
  * `Narrated.observe`: every request keeps the stories of all volumes;
  * `lifecycle_told`: in every run the reports are a faithful account.
-/
import MountControl.Proofs.Service.Reports

namespace MountControl.Service

open Volume (InstanceId Options)
open Wire (Reply Request)

variable {σ : Type}

/-! ## The reports about a volume -/

/-- The volume that a report is about. -/
def Health.volume? : Health → Option InstanceId
  | .workerStarted id _ => some id
  | .workerExited id _ => some id
  | _ => none

/-- The reports about a volume. -/
def about (id : InstanceId) (reports : List Health) : List Health :=
  reports.filter (·.volume? = some id)

/-- Does it report a start of the volume? -/
def Health.startOf (id : InstanceId) : Health → Bool
  | .workerStarted volume _ => volume = id
  | _ => false

/-- Does it report an exit of the volume? -/
def Health.exitOf (id : InstanceId) : Health → Bool
  | .workerExited volume _ => volume = id
  | _ => false

section
variable (id : InstanceId) (pid : Nat) (exit : Exit)

@[simp] theorem startOf_started : (Health.workerStarted id pid).startOf id = true :=
  decide_eq_true rfl

@[simp] theorem exitOf_started : (Health.workerStarted id pid).exitOf id = false := rfl

@[simp] theorem startOf_exited : (Health.workerExited id exit).startOf id = false := rfl

@[simp] theorem exitOf_exited : (Health.workerExited id exit).exitOf id = true :=
  decide_eq_true rfl

end

section
variable (id : InstanceId)

@[simp] theorem about_nil : about id [] = [] := rfl

@[simp] theorem about_append (front back : List Health) :
    about id (front ++ back) = about id front ++ about id back :=
  List.filter_append ..

theorem about_singleton (health : Health) :
    about id [health] = if health.volume? = some id then [health] else [] := by
  simp [about, List.filter_cons]

theorem countP_about {p : Health → Bool} (hp : ∀ health, p health → health.volume? = some id)
    (reports : List Health) : (about id reports).countP p = reports.countP p := by
  rw [about, List.countP_filter]
  refine List.countP_congr fun health _ => ?_
  simpa using hp health

end

/-! ## Stories -/

/-- The story of a volume that is not live.  Every start is followed by an exit, unless this may be
    lost. -/
inductive Told (id : InstanceId) (lost : Prop) : List Health → Prop
  | untold : Told id lost []
  | ended {reports pid exit} : Told id lost reports →
      Told id lost (reports ++ [.workerStarted id pid, .workerExited id exit])
  | lost {reports pid} : lost → Told id lost reports →
      Told id lost (reports ++ [.workerStarted id pid])

/-- The story of an identifier: that of a live volume ends with the start of its worker. -/
inductive Story (id : InstanceId) (lost : Prop) : Option Entry → List Health → Prop
  | gone {reports} : Told id lost reports → Story id lost none reports
  | live {reports entry} : Told id lost reports →
      Story id lost (some entry) (reports ++ [.workerStarted id entry.worker.pid])

/-- What one step may do to an identifier: its entry before and after it, and the reports. -/
inductive Turn (id : InstanceId) (lost : Prop) : Option Entry → Option Entry → List Health → Prop
  | still {found after} : found.map (·.worker.pid) = after.map (·.worker.pid) →
      Turn id lost found after []
  | started {entry} : Turn id lost none (some entry) [.workerStarted id entry.worker.pid]
  | ended {entry exit} : Turn id lost (some entry) none [.workerExited id exit]
  | lost {entry} : lost → Turn id lost (some entry) none []

section
variable {id : InstanceId} {lost after : Prop} {found next : Option Entry}
  {reports new : List Health}

theorem Told.mono (h : Told id lost reports) (hafter : lost → after) : Told id after reports := by
  induction h with
  | untold => exact .untold
  | ended _ ih => exact ih.ended
  | lost hlost _ ih => exact ih.lost (hafter hlost)

theorem Turn.mono (h : Turn id lost found next new) (hafter : lost → after) :
    Turn id after found next new := by
  cases h with
  | still hpid => exact .still hpid
  | started => exact .started
  | ended => exact .ended
  | lost hlost => exact .lost (hafter hlost)

theorem Turn.refl (id : InstanceId) (lost : Prop) (found : Option Entry) :
    Turn id lost found found [] :=
  .still rfl

/-- **A turn carries the story on.** -/
theorem Story.turn (h : Story id lost found reports) (hafter : lost → after)
    (ht : Turn id after found next new) : Story id after next (reports ++ new) := by
  cases ht with
  | still hpid =>
    rw [List.append_nil]
    cases h with
    | gone htold =>
      cases next with
      | none => exact .gone (htold.mono hafter)
      | some entry => cases hpid
    | @live reports old htold =>
      cases next with
      | none => cases hpid
      | some entry =>
        have hsame : old.worker.pid = entry.worker.pid := Option.some.inj hpid
        rw [hsame]
        exact .live (htold.mono hafter)
  | started =>
    cases h with
    | gone htold => exact .live (htold.mono hafter)
  | ended =>
    cases h with
    | live htold =>
      rw [List.append_assoc]
      exact .gone (htold.mono hafter).ended
  | lost hlost =>
    cases h with
    | live htold =>
      rw [List.append_nil]
      exact .gone ((htold.mono hafter).lost hlost)

end

/-! ## Exits never outnumber starts -/

/-- At no time there were more exits of the volume than starts. -/
def Balanced (id : InstanceId) (reports : List Health) : Prop :=
  ∀ front, front <+: reports → front.countP (·.exitOf id) ≤ front.countP (·.startOf id)

section
variable {id : InstanceId} {lost : Prop} {found : Option Entry} {reports : List Health}

theorem Balanced.concat (h : Balanced id reports) {health : Health}
    (hlast : (reports ++ [health]).countP (·.exitOf id) ≤
      (reports ++ [health]).countP (·.startOf id)) : Balanced id (reports ++ [health]) := by
  intro front hfront
  rcases List.prefix_concat_iff.1 hfront with rfl | hfront
  · exact hlast
  · exact h front hfront

theorem Balanced.start (h : Balanced id reports) (pid : Nat) :
    Balanced id (reports ++ [.workerStarted id pid]) := by
  refine h.concat ?_
  have hreports := h reports List.prefix_rfl
  simp only [List.countP_append, List.countP_singleton, exitOf_started, startOf_started]
  exact Nat.le_succ_of_le hreports

theorem Told.balanced (h : Told id lost reports) : Balanced id reports := by
  induction h with
  | untold =>
    intro front hfront
    rw [List.prefix_nil.1 hfront]
    exact Nat.le_refl 0
  | @ended reports pid exit _ ih =>
    rw [List.append_cons]
    refine (ih.start pid).concat ?_
    have hreports := ih reports List.prefix_rfl
    simp only [List.countP_append, List.countP_singleton, exitOf_started, startOf_started,
      exitOf_exited, startOf_exited]
    exact Nat.succ_le_succ hreports
  | lost _ _ ih => exact ih.start _

theorem Story.balanced (h : Story id lost found reports) : Balanced id reports := by
  cases h with
  | gone htold => exact htold.balanced
  | live htold => exact htold.balanced.start _

/-- What holds of the reports about a volume holds of all. -/
theorem balanced_of_about (h : Balanced id (about id reports)) : Balanced id reports := by
  intro front hfront
  have hexits : ∀ health : Health, health.exitOf id → health.volume? = some id := by
    intro health hexit
    cases health <;> simp_all [Health.exitOf, Health.volume?]
  have hstarts : ∀ health : Health, health.startOf id → health.volume? = some id := by
    intro health hstart
    cases health <;> simp_all [Health.startOf, Health.volume?]
  rw [← countP_about id hexits, ← countP_about id hstarts]
  exact h _ (hfront.filter _)

end

/-! ## Steps -/

/-- The reports tell the stories of all volumes; exits are lost only where a stop has failed. -/
def Narrated (stage : Stage σ) : Prop :=
  ∀ id, Story id (spared stage.trace ≠ []) (stage.registry.get? id) (about id stage.reports)

theorem Narrated.initial (place : σ) : Narrated (Stage.initial place) := fun _ => .gone .untold

section
variable {stage after : Stage σ} {effects : List Effect}

/-- **Turns of all volumes keep all stories.** -/
theorem Narrated.step (h : Narrated stage) (htrace : after.trace = stage.trace ++ effects)
    (hturn : ∀ id, Turn id (spared effects ≠ []) (stage.registry.get? id) (after.registry.get? id)
      (about id (effects.filterMap Effect.report?))) : Narrated after := by
  intro id
  have hreports : after.reports = stage.reports ++ effects.filterMap Effect.report? := by
    rw [reports_eq, reports_eq, htrace, List.filterMap_append]
  have hspared : spared after.trace = spared stage.trace ++ spared effects := by
    rw [htrace, spared_append]
  rw [hreports, hspared, about_append]
  refine (h id).turn (fun hlost => List.append_ne_nil_of_left_ne_nil hlost _) ?_
  exact (hturn id).mono fun hlost => List.append_ne_nil_of_right_ne_nil _ hlost

/-- What reports nothing of volumes and keeps their workers keeps all stories. -/
theorem Narrated.quiet (h : Narrated stage) (htrace : after.trace = stage.trace ++ effects)
    (hquiet : ∀ id, about id (effects.filterMap Effect.report?) = [])
    (hpid : ∀ id, (stage.registry.get? id).map (·.worker.pid) =
      (after.registry.get? id).map (·.worker.pid)) : Narrated after :=
  h.step htrace fun id => by
    rw [hquiet]
    exact .still (hpid id)

theorem Narrated.note (h : Narrated stage) {effect : Effect}
    (hquiet : ∀ id, about id ([effect].filterMap Effect.report?) = []) :
    Narrated (stage.note effect) :=
  h.quiet rfl hquiet fun _ => rfl

/-! ## Reaping -/

/-- No poll is of the volume. -/
theorem about_exitReports_of_absent {id : InstanceId} {polls : List Poll}
    (h : ∀ poll ∈ polls, poll.entry.id ≠ id) :
    about id (exitReports (polls.filterMap Poll.reaped?)) = [] := by
  refine List.filter_eq_nil_iff.2 fun health hh => ?_
  obtain ⟨volume, hvolume, rfl⟩ := List.mem_map.1 hh
  obtain ⟨poll, hpoll, hreaped⟩ := List.mem_filterMap.1 hvolume
  obtain ⟨exit, -, rfl⟩ := Option.map_eq_some_iff.1 hreaped
  simpa [Health.volume?] using h poll hpoll

theorem survivors_cons (poll : Poll) (polls : List Poll) :
    survivors (poll :: polls) =
      if poll.exit?.isNone then poll.entry :: survivors polls else survivors polls := by
  rw [survivors, List.filter_cons]
  split <;> rfl

theorem exitReports_cons (poll : Poll) (polls : List Poll) :
    exitReports ((poll :: polls).filterMap Poll.reaped?) =
      (poll.exit?.map (.workerExited poll.entry.id)).toList ++
        exitReports (polls.filterMap Poll.reaped?) := by
  rw [List.filterMap_cons, Poll.reaped?]
  cases poll.exit? <;> rfl

/-- **Of each volume that has ended, reaping reports the exit**, and leaves the others alone. -/
theorem turn_swept {id : InstanceId} (lost : Prop) {polls : List Poll}
    (hids : (polls.map (·.entry.id)).Nodup) :
    Turn id lost ((polls.map (·.entry)).find? (·.id = id)) ((survivors polls).find? (·.id = id))
      (about id (exitReports (polls.filterMap Poll.reaped?))) := by
  induction polls with
  | nil => exact .refl ..
  | cons poll polls ih =>
    rw [List.map_cons, List.nodup_cons] at hids
    rw [List.map_cons, survivors_cons, exitReports_cons, about_append]
    by_cases hid : poll.entry.id = id
    · -- no later poll is of this volume
      have habsent : ∀ later ∈ polls, later.entry.id ≠ id := fun later hlater heq =>
        hids.1 (List.mem_map.2 ⟨later, hlater, heq.trans hid.symm⟩)
      have hlater : (survivors polls).find? (·.id = id) = none := by
        refine List.find?_eq_none.2 fun entry he => ?_
        obtain ⟨later, hlater, rfl⟩ := List.mem_map.1 he
        simpa using habsent later (List.mem_of_mem_filter hlater)
      rw [about_exitReports_of_absent habsent, List.append_nil,
        List.find?_cons_of_pos (by simpa using hid)]
      cases hexit : poll.exit? with
      | none =>
        simp only [Option.isNone_none, if_true, Option.map_none, Option.toList_none, about_nil]
        rw [List.find?_cons_of_pos (by simpa using hid)]
        exact .refl ..
      | some exit =>
        simp only [Option.isNone_some, Bool.false_eq_true, if_false, Option.map_some,
          Option.toList_some, about_singleton, Health.volume?, hid, if_true, hlater]
        exact .ended
    · have hnew : about id (poll.exit?.map (.workerExited poll.entry.id)).toList = [] := by
        cases poll.exit? with
        | none => rfl
        | some exit =>
          rw [Option.map_some, Option.toList_some, about_singleton, Health.volume?]
          exact if_neg (by simpa using hid)
      have hfind : (if poll.exit?.isNone then poll.entry :: survivors polls
          else survivors polls).find? (·.id = id) = (survivors polls).find? (·.id = id) := by
        split
        · exact List.find?_cons_of_neg (by simpa using hid)
        · rfl
      rw [hnew, List.nil_append, List.find?_cons_of_neg (by simpa using hid), hfind]
      exact ih hids.2

theorem Narrated.swept (h : Narrated stage) (hs : stage.registry.Sound) (workers : Workers σ)
    (event : Log.Event) : Narrated (stage.swept workers event) := by
  refine h.step rfl fun id => ?_
  have hentries := survey_entries workers stage.registry.entries stage.place
  have hturn := fun lost => @turn_swept id lost _ (hs.polls_distinct workers stage.place)
  rw [hentries] at hturn
  rw [List.filterMap_append, report?_sweepEffects, about_append]
  exact (List.append_nil (about id (exitReports _))).symm ▸ hturn _

/-! ## Requests -/

section
variable {registry : Registry} {entry : Entry} {lost : Prop}

/-- A new volume starts, and no other is touched. -/
theorem turn_add (hfresh : registry.get? entry.id = none) (id : InstanceId) :
    Turn id lost (registry.get? id) ((registry.add entry).get? id)
      (about id [.workerStarted entry.id entry.worker.pid]) := by
  rw [about_singleton, Health.volume?]
  by_cases hid : entry.id = id
  · subst hid
    rw [hfresh, get?_add hfresh, if_pos rfl]
    exact .started
  · rw [get?_add_of_ne hid, if_neg (by simpa using hid)]
    exact .refl ..

/-- A volume that is removed ends, or its exit is lost, and no other is touched. -/
theorem turn_remove (hids : (registry.entries.map (·.id)).Nodup)
    (hget : registry.get? entry.id = some entry) {new : List Health}
    (hnew : (∃ exit, new = [.workerExited entry.id exit]) ∨ lost ∧ new = []) (id : InstanceId) :
    Turn id lost (registry.get? id) (Registry.get? { registry with
      entries := registry.entries.eraseP (·.id = entry.id) } id) (about id new) := by
  rw [get?_eraseP hids]
  by_cases hid : id = entry.id
  · subst hid
    rw [hget, if_pos rfl]
    rcases hnew with ⟨exit, rfl⟩ | ⟨hlost, rfl⟩
    · rw [about_singleton, Health.volume?, if_pos rfl]
      exact .ended
    · exact .lost hlost
  · rw [if_neg hid]
    have hnone : about id new = [] := by
      rcases hnew with ⟨exit, rfl⟩ | ⟨-, rfl⟩
      · rw [about_singleton, Health.volume?, if_neg (by simpa using Ne.symm hid)]
      · rfl
    rw [hnone]
    exact .refl ..

end

section
variable {dispatcher : Dispatcher σ} {request : Request}
  {result : Except Halt (Except Rejection Reply)}

theorem Narrated.routed (h : Narrated stage) (hs : stage.registry.Sound)
    (hr : Routed dispatcher stage request result after) : Narrated after := by
  cases hr with
  | refused | stuck | listed | described => exact h
  | panicked hl | failed hl =>
    have hentries := (allocate_eq_some hl.allocated).2
    exact h.quiet rfl (fun _ => rfl) fun id => by simp only [Registry.get?, hentries]
  | @started raw options volume registry pid place hl =>
    obtain ⟨hnone, hentries⟩ := allocate_eq_some hl.allocated
    have hsame : ∀ id, registry.get? id = stage.registry.get? id := fun id => by
      rw [Registry.get?, hentries, Registry.get?]
    refine h.step rfl fun id => ?_
    rw [← hsame]
    exact turn_add ((hsame _).trans hnone) id
  | @reported id fsUuid label registry event hm =>
    obtain ⟨-, rfl⟩ := markMounted?_eq_some.1 hm
    exact h.quiet rfl (fun _ => rfl) fun _ =>
      (@map_find?_updateFirst _ (·.attach fsUuid label) _ _ (·.worker.pid) (fun _ => rfl)
        (fun _ => rfl) stage.registry.entries).symm
  | @stopped named mountPoint target entry registry exit place event hr =>
    obtain ⟨hget, rfl⟩ := remove?_eq_some.1 hr.removed
    obtain rfl : entry.id = target := by simpa using List.find?_some hget
    exact h.step rfl (turn_remove hs.ids hget (.inl ⟨exit, rfl⟩))
  | @abandoned named mountPoint target entry registry error place event failure hr =>
    obtain ⟨hget, rfl⟩ := remove?_eq_some.1 hr.removed
    obtain rfl : entry.id = target := by simpa using List.find?_some hget
    exact h.step rfl (turn_remove hs.ids hget (.inr ⟨by simp [spared, Effect.spared?], rfl⟩))

/-- **Every request keeps the stories of all volumes.** -/
theorem Narrated.dispatch (h : Narrated stage) (hs : stage.registry.Sound) (request : Request) :
    Narrated (stage.dispatch dispatcher request).2 := by
  obtain ⟨event, note, result, after, hr, hd⟩ := dispatch_eq dispatcher stage request
  rw [hd]
  refine ((h.swept hs dispatcher.workers event).routed (hs.swept event) hr).quiet rfl ?_
    fun _ => rfl
  intro id
  rw [report?_closing]
  rfl

end

end

/-! ## Runs -/

/-- **The stories of a run.** -/
theorem narrated_run (dispatcher : Dispatcher σ) (place : σ) (requests : List Request) :
    Narrated ((Stage.initial place).run dispatcher requests).2 :=
  (run_induction (P := fun _ stage => stage.registry.Sound ∧ Narrated stage)
    (fun _ _ request h => ⟨h.1.observe request, h.2.dispatch h.1 request⟩) requests []
    (Stage.initial place) ⟨.initial, .initial place⟩).2

/-- **The reports of a run are a faithful account** of the lives of its volumes, whatever the
    workers do and wherever identifiers come from: at no time more exits of a volume are reported
    than starts; between requests, the last report about a live volume is that its worker was
    started; and the reports of every request tell what was done, each at its time. -/
theorem lifecycle_told (dispatcher : Dispatcher σ) (place : σ) (requests : List Request) :
    let stage := ((Stage.initial place).run dispatcher requests).2
    (∀ front id, front <+: stage.reports →
      front.countP (·.exitOf id) ≤ front.countP (·.startOf id)) ∧
    (∀ entry ∈ stage.registry.entries, (about entry.id stage.reports).getLast? =
      some (.workerStarted entry.id entry.worker.pid)) ∧
    ∀ request, Truthful dispatcher stage request ∧
      (stage.observe dispatcher request).2.reports =
        stage.reports ++ (stage.observe dispatcher request).1.reports := by
  intro stage
  have hs : stage.registry.Sound := sound_run dispatcher place requests
  have hn : Narrated stage := narrated_run dispatcher place requests
  refine ⟨fun front id hfront => balanced_of_about (hn id).balanced front hfront, ?_,
    fun request => ⟨truthful dispatcher stage request hs, reports_observe ..⟩⟩
  intro entry he
  have hstory := hn entry.id
  rw [hs.get?_of_mem he] at hstory
  generalize about entry.id stage.reports = reports at hstory
  cases hstory with
  | live => simp

end MountControl.Service
