/-
  MountControl — what is reported of one request, and when.

  A request is answered in two parts: reaping, with a report of every exit,
  and then what it asks for.

  * `observe_reports`: the reports are those of the reaped volumes, in the
    order of the registry, then one of a launch, and one of a stop;
  * `Reporting` is a report together with the stage at the moment when it is
    made, and `observe_moments` finds one for every report in the trace;
  * `Truthful` says what may be concluded from a report about the volumes at
    its moment; `truthful`: so it is, for every request.
-/
import MountControl.Proofs.Service.Prehistory
import MountControl.Proofs.Service.Shutdown

namespace MountControl.Service

open Volume (InstanceId Options)
open Wire (Reply Request)

variable {σ : Type}

/-! ## The reports of a request -/

/-- What is reported while a request is answered, the earliest first. -/
def Event.reports (event : Event) : List Health := event.effects.filterMap Effect.report?

/-- The reports of the volumes that were reaped. -/
def exitReports (reaped : List Reaped) : List Health :=
  reaped.map fun volume => .workerExited volume.id volume.exit

/-- What a launch is reported as; a launcher that breaks down reports nothing. -/
def Launch.report? (id : InstanceId) : Launch → Option Health
  | .started pid => some (.workerStarted id pid)
  | .failed error => some (.workerFailed error)
  | .panicked _ => none

/-- What a call of the launcher is reported as. -/
def Effect.launchReport? : Effect → Option Health
  | .launched id _ launch => launch.report? id
  | _ => none

/-- What a stop is reported as; one that fails is not reported. -/
def Effect.stopReport? : Effect → Option Health
  | .stopped id _ _ (.ok exit) => some (.workerExited id exit)
  | _ => none

theorem Effect.distinctive_launchReport? : Distinctive Effect.launchReport? :=
  ⟨fun _ _ _ => rfl, fun _ => rfl, fun _ => rfl⟩

theorem Effect.distinctive_stopReport? : Distinctive Effect.stopReport? :=
  ⟨fun _ _ _ => rfl, fun _ => rfl, fun _ => rfl⟩

/-- A poll calls neither the launcher nor a stop, and reports nothing. -/
theorem poll_effects_quiet {poll : Poll} {effect : Effect} (h : effect ∈ poll.effects) :
    effect.launch? = none ∧ effect.stop? = none ∧ effect.report? = none := by
  rcases poll with ⟨entry, error | _ | exit⟩ <;>
    simp only [Poll.effects, List.mem_cons, List.not_mem_nil, or_false] at h <;>
    rcases h with rfl | rfl <;>
    exact ⟨rfl, rfl, rfl⟩

theorem report?_polls (polls : List Poll) :
    (polls.flatMap Poll.effects).filterMap Effect.report? = [] := by
  refine List.filterMap_eq_nil_iff.2 fun effect he => ?_
  obtain ⟨poll, -, he⟩ := List.mem_flatMap.1 he
  exact (poll_effects_quiet he).2.2

theorem report?_sweepEffects (polls : List Poll) :
    (sweepEffects polls).filterMap Effect.report? = exitReports (polls.filterMap Poll.reaped?) := by
  rw [sweepEffects, List.filterMap_append, report?_polls, List.nil_append, List.filterMap_map]
  exact congrFun List.filterMap_eq_map _

theorem report?_closing (note : Log.Event) (result : Except Halt (Except Rejection Reply)) :
    (closing note result).filterMap Effect.report? = [] := by
  rcases result with halt | rejection | reply <;> rfl

section
variable {dispatcher : Dispatcher σ} {stage after : Stage σ} {request : Request}
  {result : Except Halt (Except Rejection Reply)} {effects : List Effect}

/-- **A request itself reports its launch and its stop**, and nothing else. -/
theorem Routed.reports (h : Routed dispatcher stage request result after)
    (htrace : after.trace = stage.trace ++ effects) :
    effects.filterMap Effect.report? =
      effects.filterMap Effect.launchReport? ++ effects.filterMap Effect.stopReport? := by
  cases h with
  | refused | stuck | listed | described =>
    rw [List.self_eq_append_right.1 htrace]
    rfl
  | panicked | failed | started | reported | stopped | abandoned =>
    rw [← List.append_cancel_left htrace]
    rfl

/-- **The reports of a request**: the exits of reaped volumes, a launch, a stop. -/
theorem observe_reports (dispatcher : Dispatcher σ) (stage : Stage σ) (request : Request) :
    let event := (stage.observe dispatcher request).1
    event.reports = exitReports (stage.reap dispatcher.workers).1 ++
      (event.effects.filterMap Effect.launchReport? ++
        event.effects.filterMap Effect.stopReport?) := by
  obtain ⟨event, note, result, after, effects, hr, htrace, -, ho⟩ :=
    observe_eq dispatcher stage request
  simp only [ho, Event.reports, Effect.distinctive_launchReport?.filterMap_framed,
    Effect.distinctive_stopReport?.filterMap_framed, reap_eq]
  rw [← hr.reports htrace, List.filterMap_append, List.filterMap_append, report?_sweepEffects,
    report?_closing, List.append_nil]
  rfl

end

/-- What is reported in a run is what its requests report. -/
theorem reports_observe (dispatcher : Dispatcher σ) (stage : Stage σ) (request : Request) :
    (stage.observe dispatcher request).2.reports =
      stage.reports ++ (stage.observe dispatcher request).1.reports := by
  rw [reports_eq, reports_eq, observe_trace, List.filterMap_append]
  rfl

/-! ## The moment of a report -/

/-- A report of a request, and the stage at the moment when it is made: a volume that was reaped is
    reported after those reaped before it, and what the request itself reports, it does last. -/
inductive Reporting (dispatcher : Dispatcher σ) (stage : Stage σ) (request : Request) :
    Stage σ → Health → Prop
  | reaped {front volume back} : (stage.reap dispatcher.workers).1 = front ++ volume :: back →
      Reporting dispatcher stage request ((stage.reap dispatcher.workers).2.reportReaped front)
        (.workerExited volume.id volume.exit)
  | routed {note moment health} :
      ((stage.swept dispatcher.workers note).route dispatcher request).2 = moment.report health →
      Reporting dispatcher stage request moment health

section
variable {dispatcher : Dispatcher σ} {stage after moment : Stage σ} {request : Request}

/-- An effect of an append is one of its first part or of its second. -/
theorem split_at {front back before behind : List Effect} {effect : Effect}
    (h : front ++ back = before ++ effect :: behind) :
    (∃ rest, front = before ++ effect :: rest) ∨
      ∃ rest, before = front ++ rest ∧ back = rest ++ effect :: behind := by
  rcases List.append_eq_append_iff.1 h with ⟨rest, hbefore, hback⟩ | ⟨rest, hfront, hrest⟩
  · exact .inr ⟨rest, hbefore, hback⟩
  · rcases List.cons_eq_append_iff.1 hrest with ⟨rfl, hback⟩ | ⟨later, rfl, -⟩
    · exact .inr ⟨[], by simp [hfront], hback⟩
    · exact .inl ⟨later, hfront⟩

theorem not_mem_of_report? {effects : List Effect} (h : effects.filterMap Effect.report? = [])
    (health : Health) : .reported health ∉ effects := fun hmem =>
  absurd (List.filterMap_eq_nil_iff.1 h _ hmem) nofun

/-- What a request itself reports, it does last. -/
theorem Routed.last {result : Except Halt (Except Rejection Reply)} {before behind : List Effect}
    {health : Health} (h : Routed dispatcher stage request result after)
    (htrace : after.trace = stage.trace ++ (before ++ .reported health :: behind)) :
    behind = [] := by
  have hquiet : ∀ effects, after.trace = stage.trace ++ effects →
      effects.dropLast.filterMap Effect.report? = [] := by
    intro effects htrace
    cases h with
    | refused | stuck | listed | described =>
      rw [List.self_eq_append_right.1 htrace]
      rfl
    | panicked | failed | started | reported | stopped | abandoned =>
      rw [← List.append_cancel_left htrace]
      rfl
  by_contra hne
  refine not_mem_of_report? (hquiet _ htrace) health ?_
  rw [List.dropLast_append_of_ne_nil (by simp), List.dropLast_cons_of_ne_nil hne]
  simp

/-- Reaping reports, behind its polls, one volume after the other. -/
theorem sweep_moment {before behind : List Effect} {health : Health}
    (h : sweepEffects (dispatcher.workers.survey stage.registry.entries stage.place).1 =
      before ++ .reported health :: behind) :
    ∃ moment, Reporting dispatcher stage request moment health ∧
      moment.trace = stage.trace ++ before := by
  rcases split_at h with ⟨rest, hpolls⟩ | ⟨rest, rfl, hreports⟩
  · exact absurd (by rw [hpolls]; simp) (not_mem_of_report? (report?_polls _) health)
  · obtain ⟨front, later, hreaped, rfl, hlater⟩ := List.map_eq_append_iff.1 hreports
    obtain ⟨volume, back, rfl, hvolume, -⟩ := List.map_eq_cons_iff.1 hlater
    cases hvolume
    have hfirst : (stage.reap dispatcher.workers).1 = front ++ volume :: back := by
      rw [reap_eq]
      exact hreaped
    exact ⟨_, .reaped hfirst, by rw [reportReaped_eq, reap_eq, List.append_assoc]⟩

/-- What the request itself reports has its moment just before its end. -/
theorem route_moment {note : Log.Event} {before behind : List Effect} {health : Health}
    (h : ((stage.swept dispatcher.workers note).route dispatcher request).2.trace =
      (stage.swept dispatcher.workers note).trace ++ (before ++ .reported health :: behind)) :
    ∃ moment, Reporting dispatcher stage request moment health ∧
      moment.trace = (stage.swept dispatcher.workers note).trace ++ before := by
  have hr := route_routed dispatcher (stage.swept dispatcher.workers note) request
  obtain rfl := hr.last h
  rcases hroute : (stage.swept dispatcher.workers note).route dispatcher request with
    ⟨result, after⟩
  rw [hroute] at h
  have hlast : ((stage.swept dispatcher.workers note).route dispatcher request).2 =
      Stage.report { after with
        trace := (stage.swept dispatcher.workers note).trace ++ before } health := by
    rw [hroute, Stage.report, Stage.note, List.append_assoc, ← h]
  exact ⟨_, .routed hlast, rfl⟩

/-- The effects of a request: those of reaping, and its own between two notes in the log. -/
theorem observe_effects (dispatcher : Dispatcher σ) (stage : Stage σ) (request : Request) :
    ∃ note own last,
      ((stage.swept dispatcher.workers note).route dispatcher request).2.trace =
        (stage.swept dispatcher.workers note).trace ++ own ∧
      last.filterMap Effect.report? = [] ∧
      (stage.observe dispatcher request).1.effects =
        sweepEffects (dispatcher.workers.survey stage.registry.entries stage.place).1 ++
          (.logged note :: (own ++ last)) := by
  obtain ⟨event, note, hd⟩ := dispatch_route dispatcher stage request
  have hr := route_routed dispatcher (stage.swept dispatcher.workers event) request
  obtain ⟨own, hown, -⟩ := hr.effects
  refine ⟨event, own, closing note
    ((stage.swept dispatcher.workers event).route dispatcher request).1, hown,
    report?_closing .., ?_⟩
  have htrace : (stage.swept dispatcher.workers event).trace = stage.trace ++
    (sweepEffects (dispatcher.workers.survey stage.registry.entries stage.place).1 ++
      [.logged event]) := rfl
  simp only [Stage.observe, hd, hown, htrace, List.append_assoc, List.drop_left,
    List.cons_append, List.nil_append]

/-- **Every report of a request has its moment.** -/
theorem observe_moments {before behind : List Effect} {health : Health}
    (h : (stage.observe dispatcher request).1.effects = before ++ .reported health :: behind) :
    ∃ moment, Reporting dispatcher stage request moment health ∧
      moment.trace = stage.trace ++ before := by
  obtain ⟨note, own, last, hown, hquiet, heffects⟩ := observe_effects dispatcher stage request
  rw [heffects] at h
  rcases split_at h with ⟨rest, hsweep⟩ | ⟨rest, rfl, hrest⟩
  · exact sweep_moment hsweep
  · rcases List.cons_eq_append_iff.1 hrest with ⟨-, hnote⟩ | ⟨rest, rfl, hlater⟩
    · cases hnote
    · rcases split_at hlater with ⟨behind, rfl⟩ | ⟨rest, rfl, hlast⟩
      · obtain ⟨moment, hmoment, htrace⟩ := route_moment hown
        exact ⟨moment, hmoment, by simp [htrace, Stage.swept]⟩
      · exact absurd (by rw [hlast]; simp) (not_mem_of_report? hquiet health)

/-- A volume that was reaped was live, and is so no longer. -/
theorem reaped_gone (hs : stage.registry.Sound) {volume : Reaped}
    (h : volume ∈ (stage.reap dispatcher.workers).1) :
    (stage.registry.get? volume.id).isSome ∧
      (stage.reap dispatcher.workers).2.registry.get? volume.id = none := by
  rw [reap_eq] at h ⊢
  have hentries := survey_entries dispatcher.workers stage.registry.entries stage.place
  have hdistinct := hs.polls_distinct dispatcher.workers stage.place
  generalize (dispatcher.workers.survey stage.registry.entries stage.place).1 = polls
    at h hentries hdistinct ⊢
  obtain ⟨poll, hpoll, hreaped⟩ := List.mem_filterMap.1 h
  obtain ⟨exit, hexit, rfl⟩ := Option.map_eq_some_iff.1 hreaped
  constructor
  · rw [Registry.get?, List.find?_isSome]
    exact ⟨poll.entry, hentries ▸ List.mem_map_of_mem hpoll, decide_eq_true rfl⟩
  · refine get?_eq_none.2 fun entry he heq => ?_
    obtain ⟨other, hother, rfl⟩ := List.mem_map.1 he
    obtain ⟨hother, hnone⟩ := List.mem_filter.1 hother
    obtain rfl := List.inj_on_of_nodup_map hdistinct hother hpoll heq
    rw [hexit] at hnone
    cases hnone

/-- A request that ends with the report of an exit has unmounted the volume. -/
theorem Routed.latest_exit {result : Except Halt (Except Rejection Reply)} {id : InstanceId}
    {exit : Exit} (h : Routed dispatcher stage request result after)
    (hquiet : stage.trace.getLast? ≠ some (.reported (.workerExited id exit)))
    (hlatest : after.trace.getLast? = some (.reported (.workerExited id exit))) :
    ∃ named mountPoint target entry,
      Removing stage named mountPoint target entry after.registry ∧ entry.id = id := by
  cases h with
  | refused | stuck | listed | described => exact absurd hlatest hquiet
  | panicked | failed | started | reported | abandoned => simp at hlatest
  | stopped hremoving =>
    simp only [List.getLast?_append, List.getLast?_cons_cons, List.getLast?_singleton,
      Option.some_or, Option.some.injEq, Effect.reported.injEq, Health.workerExited.injEq]
      at hlatest
    exact ⟨_, _, _, _, hremoving, hlatest.1⟩

/-- A request that ends with the report of a start has launched a worker and added its entry. -/
theorem Routed.latest_start {result : Except Halt (Except Rejection Reply)} {id : InstanceId}
    {pid : Nat} (h : Routed dispatcher stage request result after)
    (hquiet : stage.trace.getLast? ≠ some (.reported (.workerStarted id pid)))
    (hlatest : after.trace.getLast? = some (.reported (.workerStarted id pid))) :
    ∃ raw options registry place,
      Launching dispatcher stage raw options id registry (.started pid) place ∧
        after.registry = registry.add (.starting id options ⟨stage.launches, pid⟩) := by
  cases h with
  | refused | stuck | listed | described => exact absurd hlatest hquiet
  | panicked | failed | stopped | reported | abandoned => simp at hlatest
  | started hl =>
    simp only [List.getLast?_append, List.getLast?_cons_cons, List.getLast?_singleton,
      Option.some_or, Option.some.injEq, Effect.reported.injEq, Health.workerStarted.injEq]
      at hlatest
    obtain ⟨rfl, rfl⟩ := hlatest
    exact ⟨_, _, _, _, hl, rfl⟩

/-- What a request itself reports is the latest effect of its outcome. -/
theorem latest_of_report {note : Log.Event} {health : Health}
    (h : ((stage.swept dispatcher.workers note).route dispatcher request).2 =
      moment.report health) :
    ∃ result after, Routed dispatcher (stage.swept dispatcher.workers note) request result after ∧
      (stage.swept dispatcher.workers note).trace.getLast? ≠ some (.reported health) ∧
      after.trace.getLast? = some (.reported health) ∧ moment.registry = after.registry := by
  refine ⟨_, _, route_routed dispatcher _ request, ?_, ?_, ?_⟩
  · simp [Stage.swept]
  · rw [h]
    simp [Stage.report, Stage.note]
  · rw [h]
    rfl

/-- **An exit is reported of a volume that was live when the request came**, and no longer is. -/
theorem Reporting.exited (hs : stage.registry.Sound) {id : InstanceId} {exit : Exit}
    (h : Reporting dispatcher stage request moment (.workerExited id exit)) :
    (stage.registry.get? id).isSome ∧ moment.registry.get? id = none := by
  generalize hhealth : Health.workerExited id exit = health at h
  cases h with
  | @reaped front volume back hreaped =>
    cases hhealth
    rw [reportReaped_eq]
    exact reaped_gone hs (by rw [hreaped]; simp)
  | routed hlast =>
    subst hhealth
    obtain ⟨result, after, hr, hquiet, hlatest, hregistry⟩ := latest_of_report hlast
    obtain ⟨named, mountPoint, target, entry, hremoving, rfl⟩ := hr.latest_exit hquiet hlatest
    obtain ⟨hget, hafter⟩ := remove?_eq_some.1 hremoving.removed
    obtain rfl : entry.id = target := by simpa using List.find?_some hget
    rw [hregistry, hafter, get?_eraseP (hs.swept _).ids, if_pos rfl]
    refine ⟨?_, rfl⟩
    -- reaping has left it, so it was there before
    rw [Registry.get?, List.find?_isSome]
    exact ⟨entry, (survivors_sublist ..).subset (List.mem_of_find?_eq_some hget),
      decide_eq_true rfl⟩

/-- **A start is reported of a live volume, with the process of its worker.** -/
theorem Reporting.started {id : InstanceId} {pid : Nat}
    (h : Reporting dispatcher stage request moment (.workerStarted id pid)) :
    ∃ entry, moment.registry.get? id = some entry ∧ entry.worker.pid = pid := by
  generalize hhealth : Health.workerStarted id pid = health at h
  cases h with
  | reaped => cases hhealth
  | routed hlast =>
    subst hhealth
    obtain ⟨result, after, hr, hquiet, hlatest, hregistry⟩ := latest_of_report hlast
    obtain ⟨raw, options, registry, place, hl, hafter⟩ := hr.latest_start hquiet hlatest
    obtain ⟨hnone, hentries⟩ := allocate_eq_some hl.allocated
    have hfresh : registry.get? (Entry.starting id options ⟨stage.launches, pid⟩).id = none := by
      rw [Registry.get?, hentries]
      exact hnone
    exact ⟨_, by rw [hregistry, hafter]; exact get?_add hfresh, rfl⟩

end

/-! ## Truth -/

/-- Is it the report of a start? -/
def Health.isStart : Health → Bool
  | .workerStarted .. => true
  | _ => false

/-- Is it the report of a launch that failed? -/
def Health.isFailure : Health → Bool
  | .workerFailed _ => true
  | _ => false

/-- The report of a launch, if it failed. -/
def Launch.failure? : Launch → Option Health
  | .failed error => some (.workerFailed error)
  | _ => none

/-- The reports of a request tell what was done, and when. -/
structure Truthful (dispatcher : Dispatcher σ) (stage : Stage σ) (request : Request) : Prop where
  /-- Workers are polled, and then the exits are reported, in the order of the registry, before
      anything else is done. -/
  reapedFirst : ∃ polls rest,
    (stage.observe dispatcher request).1.effects =
      polls ++ (exitReports (stage.reap dispatcher.workers).1).map .reported ++ rest ∧
    (∀ effect ∈ polls, effect.launch? = none ∧ effect.stop? = none ∧ effect.report? = none) ∧
    rest.filterMap Effect.exited? = [] ∧
    ((stage.reap dispatcher.workers).1.map (·.id)).Sublist (stage.registry.entries.map (·.id))
  /-- A mount that is answered `OK` has launched one worker, and this is reported once. -/
  mounted : ∀ raw, request = .mount raw →
    (stage.observe dispatcher request).1.answer = .ok .ok →
    ∃ id options pid,
      (stage.observe dispatcher request).1.launches = [(id, options, .started pid)] ∧
      (stage.observe dispatcher request).1.reports.filter Health.isStart = [.workerStarted id pid]
  /-- No other request reports a start. -/
  unmounted : (∀ raw, request = .mount raw →
      (stage.observe dispatcher request).1.answer ≠ .ok .ok) →
    (stage.observe dispatcher request).1.reports.filter Health.isStart = []
  /-- Every launch that failed is reported once. -/
  failed : (stage.observe dispatcher request).1.reports.filter Health.isFailure =
    (stage.observe dispatcher request).1.launches.filterMap fun (_, _, launch) => launch.failure?
  /-- At the moment of the report of a start, the volume is live, and the process is its worker's. -/
  started : ∀ before id pid behind, (stage.observe dispatcher request).1.effects =
      before ++ .reported (.workerStarted id pid) :: behind →
    ∃ moment, Reporting dispatcher stage request moment (.workerStarted id pid) ∧
      moment.trace = stage.trace ++ before ∧
      ∃ entry, moment.registry.get? id = some entry ∧ entry.worker.pid = pid
  /-- The exit of a volume is reported by a request before which it was live, and at a moment at
      which it is not. -/
  exited : ∀ before id exit behind, (stage.observe dispatcher request).1.effects =
      before ++ .reported (.workerExited id exit) :: behind →
    (stage.registry.get? id).isSome ∧
    ∃ moment, Reporting dispatcher stage request moment (.workerExited id exit) ∧
      moment.trace = stage.trace ++ before ∧ moment.registry.get? id = none

section
variable (dispatcher : Dispatcher σ) (stage : Stage σ) (request : Request)

theorem filter_exitReports {p : Health → Bool} (hp : ∀ id exit, p (.workerExited id exit) = false)
    (reaped : List Reaped) : (exitReports reaped).filter p = [] := by
  refine List.filter_eq_nil_iff.2 fun health hh => ?_
  obtain ⟨volume, -, rfl⟩ := List.mem_map.1 hh
  simp [hp]

/-- What is reported besides exits, the outcome of the request reports. -/
theorem observe_own :
    ∃ note result after effects,
      Routed dispatcher (stage.swept dispatcher.workers note) request result after ∧
      after.trace = (stage.swept dispatcher.workers note).trace ++ effects ∧
      (stage.observe dispatcher request).1.answer = answerOf result ∧
      (stage.observe dispatcher request).1.launches = effects.filterMap Effect.launch? ∧
      (stage.observe dispatcher request).1.reports =
        exitReports (stage.reap dispatcher.workers).1 ++ effects.filterMap Effect.report? := by
  obtain ⟨note, result, after, effects, hr, htrace, hanswer, -, hview⟩ :=
    observe_calls dispatcher stage request
  refine ⟨note, result, after, effects, hr, htrace, hanswer, hview Effect.distinctive_launch?, ?_⟩
  rw [observe_reports, hview Effect.distinctive_launchReport?,
    hview Effect.distinctive_stopReport?, hr.reports htrace]

/-- Volumes are reaped in the order of the registry. -/
theorem reaped_sublist (polls : List Poll) :
    ((polls.filterMap Poll.reaped?).map (·.id)).Sublist (polls.map (·.entry.id)) := by
  induction polls with
  | nil => exact .slnil
  | cons poll polls ih =>
    rw [List.map_cons]
    rcases hreaped : poll.reaped? with _ | volume
    · rw [List.filterMap_cons_none hreaped]
      exact ih.cons _
    · obtain ⟨exit, -, rfl⟩ := Option.map_eq_some_iff.1 hreaped
      rw [List.filterMap_cons_some hreaped]
      exact ih.cons_cons _

/-- Reaping and its reports come first. -/
theorem observe_reapedFirst : ∃ polls rest,
    (stage.observe dispatcher request).1.effects =
      polls ++ (exitReports (stage.reap dispatcher.workers).1).map .reported ++ rest ∧
    (∀ effect ∈ polls, effect.launch? = none ∧ effect.stop? = none ∧ effect.report? = none) ∧
    rest.filterMap Effect.exited? = [] ∧
    ((stage.reap dispatcher.workers).1.map (·.id)).Sublist (stage.registry.entries.map (·.id)) := by
  obtain ⟨event, note, result, after, effects, -, -, hquiet, ho⟩ :=
    observe_eq dispatcher stage request
  have hentries := survey_entries dispatcher.workers stage.registry.entries stage.place
  rw [ho, reap_eq]
  generalize (dispatcher.workers.survey stage.registry.entries stage.place).1 = polls at hentries
  refine ⟨polls.flatMap Poll.effects, .logged event :: effects ++ closing note result, ?_, ?_, ?_,
    ?_⟩
  · simp [sweepEffects, exitReports]
  · intro effect he
    obtain ⟨poll, -, he⟩ := List.mem_flatMap.1 he
    exact poll_effects_quiet he
  · rw [List.filterMap_append, List.filterMap_cons_none (Effect.exited?_logged event), hquiet,
      (closing_quiet note result).1]
    rfl
  · rw [← hentries, List.map_map]
    exact reaped_sublist polls

/-- **The reports of every request are truthful**, on every registry that can be reached. -/
theorem truthful (hs : stage.registry.Sound) : Truthful dispatcher stage request where
  reapedFirst := observe_reapedFirst dispatcher stage request
  mounted := by
    rintro raw rfl hok
    obtain ⟨note, result, after, effects, hr, htrace, hanswer, hlaunches, hreports⟩ :=
      observe_own dispatcher stage (.mount raw)
    rw [hok] at hanswer
    have hresult := (answerOf_eq_ok fun _ h => by cases h).1 hanswer.symm
    rw [hlaunches, hreports, List.filter_append, filter_exitReports fun _ _ => rfl]
    cases hr with
    | started hl =>
      rw [← List.append_cancel_left htrace]
      exact ⟨_, _, _, rfl, rfl⟩
    | refused | stuck | panicked | failed => cases hresult
  unmounted := by
    intro hother
    obtain ⟨note, result, after, effects, hr, htrace, hanswer, -, hreports⟩ :=
      observe_own dispatcher stage request
    rw [hreports, List.filter_append, filter_exitReports fun _ _ => rfl]
    cases hr with
    | started hl => exact absurd hanswer (hother _ rfl)
    | refused | stuck | listed | described =>
      rw [List.self_eq_append_right.1 htrace]
      rfl
    | panicked | failed | reported | stopped | abandoned =>
      rw [← List.append_cancel_left htrace]
      rfl
  failed := by
    obtain ⟨note, result, after, effects, hr, htrace, hanswer, hlaunches, hreports⟩ :=
      observe_own dispatcher stage request
    rw [hlaunches, hreports, List.filter_append, filter_exitReports fun _ _ => rfl]
    cases hr with
    | refused | stuck | listed | described =>
      rw [List.self_eq_append_right.1 htrace]
      rfl
    | panicked | failed | started | reported | stopped | abandoned =>
      rw [← List.append_cancel_left htrace]
      rfl
  started before id pid behind h := by
    obtain ⟨moment, hreporting, htrace⟩ := observe_moments h
    exact ⟨moment, hreporting, htrace, hreporting.started⟩
  exited before id exit behind h := by
    obtain ⟨moment, hreporting, htrace⟩ := observe_moments h
    obtain ⟨hlive, hgone⟩ := hreporting.exited hs
    exact ⟨hlive, moment, hreporting, htrace, hgone⟩

end

end MountControl.Service
