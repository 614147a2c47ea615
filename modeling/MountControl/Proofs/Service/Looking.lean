/-
  MountControl — requests that only look.

  A request for the list of volumes or for one volume's data, or one of an
  unknown kind, asks for no change; but as every request it has the ended
  volumes reaped first.  Two runs are compared, with some such requests put in
  and without them, where the workers come to their ends alike.

  * `Dispatcher.seeing`: what polls report is up to the workers and the time,
    not to who asks (`dispatch_of_polls`: any polls that do not fail are of
    that kind); `dispatch_seeing`: what a request comes to by it;
  * `Behind`: the run without the extra requests differs by the ends that only
    the other has seen; `Behind.look` and `Behind.answer` go on by one request;
  * `looking_changes_nothing`: the next request of both runs makes up for it.
-/
import MountControl.Proofs.Service.Reports
import Mathlib.Data.List.Induction

namespace MountControl.Service

open Wire (Reply Request)

variable {σ : Type}

/-- Does a request only look? -/
def looks : Request → Bool
  | .list | .mountData _ | .unknown _ => true
  | .mount _ | .mounted .. | .unmount .. => false

/-- A call of the launcher or of a stop, with all that was given and came back. -/
def Effect.call? : Effect → Option Effect
  | .launched id options result => some (.launched id options result)
  | .stopped id worker grace result => some (.stopped id worker grace result)
  | _ => none

/-- The calls of the launcher and of stops, the earliest first. -/
def Stage.calls (stage : Stage σ) : List Effect := stage.trace.filterMap Effect.call?

theorem Effect.distinctive_call? : Distinctive Effect.call? :=
  ⟨fun _ _ _ => rfl, fun _ => rfl, fun _ => rfl⟩

/-! ## Polls -/

/-- Which workers have ended, and how. -/
abbrev Ends := Worker → Option Exit

/-- The dispatcher whose polls succeed, and report those ends. -/
def Dispatcher.seeing (dispatcher : Dispatcher σ) (ends : Ends) : Dispatcher σ :=
  { dispatcher with
    workers := { dispatcher.workers with poll := fun worker place => (.ok (ends worker), place) } }

/-- The entries whose workers have not ended. -/
def Ends.spare (ends : Ends) (entries : List Entry) : List Entry :=
  entries.filter fun entry => (ends entry.worker).isNone

/-- The reports of the entries whose workers have ended. -/
def Ends.reports (ends : Ends) (entries : List Entry) : List Health :=
  entries.filterMap fun entry => (ends entry.worker).map (.workerExited entry.id ·)

/-- An end that is seen on one occasion is seen on the other. -/
def Ends.Within (seen ends : Ends) : Prop :=
  ∀ worker exit, seen worker = some exit → ends worker = some exit

/-- No end has been seen. -/
def Ends.none : Ends := fun _ => Option.none

@[simp] theorem spare_none (entries : List Entry) : Ends.none.spare entries = entries :=
  List.filter_eq_self.2 fun _ _ => rfl

@[simp] theorem reports_none (entries : List Entry) : Ends.none.reports entries = [] :=
  List.filterMap_eq_nil_iff.2 fun _ _ => rfl

section
variable {seen ends : Ends}

/-- **Reaping early is made up for by reaping late**: the same entries are left. -/
theorem Ends.Within.spare (h : seen.Within ends) (entries : List Entry) :
    ends.spare (seen.spare entries) = ends.spare entries := by
  rw [Ends.spare, Ends.spare, List.filter_filter]
  refine List.filter_congr fun entry _ => ?_
  rcases hs : seen entry.worker with _ | exit
  · simp
  · simp [h _ _ hs]

/-- Of the exits, some are reported early and the others late. -/
theorem Ends.Within.reports (h : seen.Within ends) (entries : List Entry) :
    (seen.reports entries ++ ends.reports (seen.spare entries)).Perm (ends.reports entries) := by
  have hseen : seen.reports entries =
      ends.reports (entries.filter fun entry => (seen entry.worker).isSome) := by
    rw [Ends.reports, Ends.reports, List.filterMap_filter]
    refine List.filterMap_congr fun entry _ => ?_
    rcases hs : seen entry.worker with _ | exit
    · rfl
    · rw [h _ _ hs]
      rfl
  have hsplit := List.filter_append_perm (fun entry : Entry => (seen entry.worker).isSome) entries
  simp only [Option.not_isSome] at hsplit
  rw [hseen, Ends.reports, Ends.reports, ← List.filterMap_append]
  exact hsplit.filterMap _

end

theorem survey_seeing (dispatcher : Dispatcher σ) (ends : Ends) (entries : List Entry)
    (place : σ) :
    (dispatcher.seeing ends).workers.survey entries place =
      (entries.map fun entry => ⟨entry, .ok (ends entry.worker)⟩, place) := by
  induction entries with
  | nil => rfl
  | cons entry entries ih =>
    have hpoll : (dispatcher.seeing ends).workers.poll entry.worker place =
        (.ok (ends entry.worker), place) := rfl
    simp only [Workers.survey, hpoll, ih, List.map_cons]

theorem survivors_seeing (ends : Ends) (entries : List Entry) :
    survivors (entries.map fun entry => ⟨entry, .ok (ends entry.worker)⟩) = ends.spare entries := by
  rw [survivors, List.filter_map, List.map_map]
  exact List.map_id _

theorem exitReports_seeing (ends : Ends) (entries : List Entry) :
    exitReports ((entries.map fun entry : Entry =>
      (⟨entry, .ok (ends entry.worker)⟩ : Poll)).filterMap Poll.reaped?) =
        ends.reports entries := by
  rw [exitReports, List.filterMap_map, List.map_filterMap]
  exact List.filterMap_congr fun entry _ => by
    simp [Poll.reaped?, Poll.exit?, Function.comp_def]

/-! ## One request -/

/-- The stage on which a request is routed, as if nothing had happened before. -/
def Stage.spared (ends : Ends) (stage : Stage σ) : Stage σ :=
  { stage with registry.entries := ends.spare stage.registry.entries, trace := [] }

/-- Polls are for reaping only. -/
theorem route_seeing (dispatcher : Dispatcher σ) (ends : Ends) (stage : Stage σ)
    (request : Request) :
    stage.route (dispatcher.seeing ends) request = stage.route dispatcher request := by
  cases request <;> rfl

/-- Where polls only look and do not fail, a dispatcher is one that sees what they report. -/
theorem dispatch_of_polls {dispatcher : Dispatcher σ} {ends : Ends} {stage : Stage σ}
    (hpoll : ∀ worker,
      dispatcher.workers.poll worker stage.place = (.ok (ends worker), stage.place))
    (request : Request) :
    stage.dispatch dispatcher request = stage.dispatch (dispatcher.seeing ends) request := by
  have hsurvey : ∀ entries, dispatcher.workers.survey entries stage.place =
      (dispatcher.seeing ends).workers.survey entries stage.place := by
    intro entries
    rw [survey_seeing]
    induction entries with
    | nil => rfl
    | cons entry entries ih => simp only [Workers.survey, hpoll, ih, List.map_cons]
  rw [Stage.dispatch, Stage.dispatch, reap_eq, reap_eq, hsurvey]
  simp only [route_seeing]

/-- **What a request comes to**, by what the polls report. -/
theorem dispatch_seeing (dispatcher : Dispatcher σ) (ends : Ends) (stage : Stage σ)
    (request : Request) :
    ∃ trace,
      stage.dispatch (dispatcher.seeing ends) request =
        (answerOf ((stage.spared ends).route dispatcher request).1,
          { ((stage.spared ends).route dispatcher request).2 with trace }) ∧
      trace.filterMap Effect.call? =
        stage.calls ++ ((stage.spared ends).route dispatcher request).2.calls ∧
      trace.filterMap Effect.report? =
        stage.reports ++ ends.reports stage.registry.entries ++
          ((stage.spared ends).route dispatcher request).2.reports := by
  obtain ⟨event, note, hd⟩ := dispatch_route (dispatcher.seeing ends) stage request
  have hswept : stage.swept (dispatcher.seeing ends).workers event =
      (stage.spared ends).preceded (stage.trace ++ (sweepEffects
        (stage.registry.entries.map fun entry => ⟨entry, .ok (ends entry.worker)⟩) ++
          [.logged event])) := by
    simp [Stage.swept, Stage.spared, Stage.preceded, survey_seeing, survivors_seeing]
  rw [hswept, route_preceded, route_seeing] at hd
  refine ⟨_, hd, ?_, ?_⟩
  · simp only [Prod.map_fst, Prod.map_snd, id_eq, Stage.preceded, List.filterMap_append,
      Effect.distinctive_call?.filterMap_sweepEffects, Effect.distinctive_call?.filterMap_closing,
      List.filterMap_cons_none (Effect.distinctive_call?.logged event), List.filterMap_nil,
      List.append_nil, Stage.calls]
  · simp only [Prod.map_fst, Prod.map_snd, id_eq, Stage.preceded, List.filterMap_append,
      report?_sweepEffects, exitReports_seeing, report?_closing, reports_eq,
      List.filterMap_cons_none (rfl : (Effect.logged event).report? = none), List.filterMap_nil,
      List.append_nil]

/-! ## Two runs -/

/-- A request that comes when some workers have ended. -/
structure Visit where
  /-- What polls report while it is answered. -/
  ends : Ends
  /-- What is asked. -/
  request : Request
  /-- Is it put in between the others? -/
  extra : Bool := false

/-- Answers requests one after the other, each when its time has come. -/
def Shared.attend (dispatcher : Dispatcher σ) :
    Shared σ → List Visit → List (Visit × Answer) × Shared σ
  | shared, [] => ([], shared)
  | shared, visit :: visits =>
    let (answer, shared) := shared.dispatch (dispatcher.seeing visit.ends) visit.request
    let (answers, shared) := shared.attend dispatcher visits
    ((visit, answer) :: answers, shared)

theorem attend_concat (dispatcher : Dispatcher σ) (visits : List Visit) (visit : Visit)
    (shared : Shared σ) :
    shared.attend dispatcher (visits ++ [visit]) =
      ((shared.attend dispatcher visits).1 ++ [(visit, ((shared.attend dispatcher visits).2.dispatch
          (dispatcher.seeing visit.ends) visit.request).1)],
        ((shared.attend dispatcher visits).2.dispatch
          (dispatcher.seeing visit.ends) visit.request).2) := by
  induction visits generalizing shared with
  | nil => rfl
  | cons first visits ih => simp only [List.cons_append, Shared.attend, ih]

/-- **One run has seen ends that the other has not**: its registry lacks the entries, and it has
    reported their exits.  In everything else the two agree.  Behind a poisoned lock nothing can be
    seen any more. -/
structure Behind (seen : Ends) (alone both : Shared σ) : Prop where
  poisoned : both.poisoned = alone.poisoned
  locked : alone.poisoned → seen = .none
  launches : both.stage.launches = alone.stage.launches
  place : both.stage.place = alone.stage.place
  drawn : both.stage.registry.drawn = alone.stage.registry.drawn
  entries : both.stage.registry.entries = seen.spare alone.stage.registry.entries
  calls : both.stage.calls = alone.stage.calls
  reports : both.stage.reports.Perm
    (alone.stage.reports ++ seen.reports alone.stage.registry.entries)

theorem Behind.refl (shared : Shared σ) : Behind .none shared shared where
  poisoned := rfl
  locked _ := rfl
  launches := rfl
  place := rfl
  drawn := rfl
  entries := by rw [spare_none]
  calls := rfl
  reports := by rw [reports_none, List.append_nil]

section
variable {seen ends : Ends} {alone both : Shared σ} {request : Request}

/-- Once the later ends are seen as well, both runs have the same left. -/
theorem Behind.spared (h : Behind seen alone both) (hwithin : seen.Within ends) :
    both.stage.spared ends = alone.stage.spared ends := by
  have hentries : ends.spare both.stage.registry.entries =
      ends.spare alone.stage.registry.entries := by rw [h.entries, hwithin.spare]
  simp only [Stage.spared, hentries, h.launches, h.place, h.drawn]

/-- What has been reported by then is the same, too. -/
theorem Behind.reported (h : Behind seen alone both) (hwithin : seen.Within ends) :
    (both.stage.reports ++ ends.reports both.stage.registry.entries).Perm
      (alone.stage.reports ++ ends.reports alone.stage.registry.entries) := by
  refine (h.reports.append_right _).trans ?_
  rw [h.entries, List.append_assoc]
  exact (hwithin.reports _).append_left _

/-- A request that only looks leaves the stage as reaping has left it. -/
theorem route_looks (dispatcher : Dispatcher σ) (hlooks : looks request) (stage : Stage σ) :
    ∃ result, stage.route dispatcher request = (.ok result, stage) := by
  cases request with
  | list | mountData | unknown => exact ⟨_, rfl⟩
  | mount | mounted | unmount => cases hlooks

/-- **A request that only looks takes a run ahead by the ends that it sees.** -/
theorem Behind.look (dispatcher : Dispatcher σ) (h : Behind seen alone both)
    (hwithin : seen.Within ends) (hlooks : looks request) :
    Behind seen alone (both.dispatch (dispatcher.seeing ends) request).2 ∨
      Behind ends alone (both.dispatch (dispatcher.seeing ends) request).2 := by
  rcases hp : both.poisoned with _ | _
  · right
    obtain ⟨trace, hd, hcalls, hreports⟩ := dispatch_seeing dispatcher ends both.stage request
    obtain ⟨result, hroute⟩ := route_looks dispatcher hlooks (both.stage.spared ends)
    have hok : (answerOf (.ok result)).isOk := by cases result <;> rfl
    have hopen : alone.poisoned = false := h.poisoned ▸ hp
    rw [hroute] at hd hcalls hreports
    rw [dispatch_open hp hd]
    exact {
      poisoned := by simp [hok, hopen]
      locked := by simp [hopen]
      launches := h.launches
      place := h.place
      drawn := h.drawn
      entries := congrArg (·.registry.entries) (h.spared hwithin)
      calls := by
        rw [Stage.calls, hcalls, h.calls]
        exact List.append_nil _
      reports := by
        rw [reports_eq, hreports]
        exact (List.append_nil _).symm ▸ h.reported hwithin }
  · left
    rw [dispatch_poisoned _ hp]
    exact h

/-- **Both runs answer the next request alike, and then agree.** -/
theorem Behind.answer (dispatcher : Dispatcher σ) (request : Request)
    (h : Behind seen alone both) (hwithin : seen.Within ends) :
    (both.dispatch (dispatcher.seeing ends) request).1 =
        (alone.dispatch (dispatcher.seeing ends) request).1 ∧
      Behind .none (alone.dispatch (dispatcher.seeing ends) request).2
        (both.dispatch (dispatcher.seeing ends) request).2 := by
  rcases hp : both.poisoned with _ | _
  · have hopen : alone.poisoned = false := h.poisoned ▸ hp
    obtain ⟨trace, hd, hcalls, hreports⟩ := dispatch_seeing dispatcher ends alone.stage request
    obtain ⟨trace', hd', hcalls', hreports'⟩ := dispatch_seeing dispatcher ends both.stage request
    rw [h.spared hwithin] at hd' hcalls' hreports'
    rw [dispatch_open hp hd', dispatch_open hopen hd]
    refine ⟨rfl, rfl, fun _ => rfl, rfl, rfl, rfl, ?_, ?_, ?_⟩
    · exact (spare_none _).symm
    · rw [Stage.calls, hcalls', h.calls]
      exact hcalls.symm
    · rw [reports_none, List.append_nil, reports_eq, reports_eq, hreports', hreports]
      exact (h.reported hwithin).append_right _
  · have hpoisoned : alone.poisoned = true := h.poisoned ▸ hp
    rw [dispatch_poisoned _ hp, dispatch_poisoned _ hpoisoned]
    exact ⟨rfl, h.locked hpoisoned ▸ h⟩

/-- **Run against run**: the own requests are answered alike, and one run is behind by ends that the
    other has seen, which is none where an own request came last. -/
theorem attend_behind (dispatcher : Dispatcher σ) (shared : Shared σ) (visits : List Visit)
    (hlooks : ∀ visit ∈ visits, visit.extra → looks visit.request)
    (hpermanent : visits.Pairwise fun earlier later => earlier.ends.Within later.ends) :
    (shared.attend dispatcher visits).1.filter (!·.1.extra) =
        (shared.attend dispatcher (visits.filter (!·.extra))).1 ∧
      ∃ seen, Behind seen (shared.attend dispatcher (visits.filter (!·.extra))).2
          (shared.attend dispatcher visits).2 ∧
        (∀ worker exit, seen worker = some exit →
          ∃ visit ∈ visits, visit.ends worker = some exit) ∧
        ∀ last, visits.getLast? = some last → last.extra = false → seen = .none := by
  induction visits using List.reverseRecOn with
  | nil => exact ⟨rfl, .none, .refl shared, nofun, nofun⟩
  | append_singleton visits visit ih =>
    obtain ⟨hfront, -, hlater⟩ := List.pairwise_append.1 hpermanent
    obtain ⟨hanswers, seen, hbehind, hseen, -⟩ :=
      ih (fun earlier hmem => hlooks earlier (List.mem_append_left _ hmem)) hfront
    have hmem : visit ∈ visits ++ [visit] := List.mem_append_right _ (List.mem_singleton_self _)
    -- what was seen earlier is still to be seen
    have hwithin : seen.Within visit.ends := by
      intro worker exit hexit
      obtain ⟨earlier, hearlier, hends⟩ := hseen worker exit hexit
      exact hlater earlier hearlier visit (List.mem_singleton_self _) worker exit hends
    rcases hextra : visit.extra with _ | _
    · have hown : (visits ++ [visit]).filter (!·.extra) = visits.filter (!·.extra) ++ [visit] := by
        simp [hextra]
      obtain ⟨hanswer, hagree⟩ := hbehind.answer dispatcher visit.request hwithin
      rw [hown, attend_concat, attend_concat]
      refine ⟨?_, .none, hagree, nofun, fun _ _ _ => rfl⟩
      simp [hextra, hanswers, hanswer]
    · have hown : (visits ++ [visit]).filter (!·.extra) = visits.filter (!·.extra) := by
        simp [hextra]
      have hlast : ∀ last, (visits ++ [visit]).getLast? = some last → last.extra = true := by
        simp [hextra]
      rw [hown, attend_concat]
      refine ⟨by simp [hextra, hanswers], ?_⟩
      rcases hbehind.look dispatcher hwithin (hlooks visit hmem hextra) with h | h
      · refine ⟨seen, h, fun worker exit hexit => ?_, fun last hl hown => ?_⟩
        · obtain ⟨earlier, hearlier, hends⟩ := hseen worker exit hexit
          exact ⟨earlier, List.mem_append_left _ hearlier, hends⟩
        · cases hown.symm.trans (hlast last hl)
      · refine ⟨visit.ends, h, fun _ _ hexit => ⟨visit, hmem, hexit⟩, fun last hl hown => ?_⟩
        cases hown.symm.trans (hlast last hl)

end

/-- **Requests that only look change nothing.**  Workers stay ended once a poll would report so, and
    polls do not fail.  Requests that only look are put in anywhere among others: the others are
    answered just as without them, and the same calls of the launcher and of stops are made.  Where
    one of the others came last, the registry holds the same entries, and the same reports were
    made, possibly in another order. -/
theorem looking_changes_nothing (dispatcher : Dispatcher σ) (shared : Shared σ)
    (visits : List Visit) (hlooks : ∀ visit ∈ visits, visit.extra → looks visit.request)
    (hpermanent : visits.Pairwise fun earlier later => earlier.ends.Within later.ends) :
    let both := shared.attend dispatcher visits
    let alone := shared.attend dispatcher (visits.filter (!·.extra))
    both.1.filter (!·.1.extra) = alone.1 ∧
      both.2.stage.calls = alone.2.stage.calls ∧
      ∀ last, visits.getLast? = some last → last.extra = false →
        both.2.stage.registry.entries = alone.2.stage.registry.entries ∧
          both.2.stage.reports.Perm alone.2.stage.reports := by
  intro both alone
  obtain ⟨hanswers, seen, hbehind, -, hlast⟩ :=
    attend_behind dispatcher shared visits hlooks hpermanent
  refine ⟨hanswers, hbehind.calls, fun last hmem hown => ?_⟩
  obtain rfl := hlast last hmem hown
  have hentries := hbehind.entries
  have hreports := hbehind.reports
  rw [spare_none] at hentries
  rw [reports_none, List.append_nil] at hreports
  exact ⟨hentries, hreports⟩

/-- Of two volumes whose workers have ended, a request for the list finds only the second ended: in
    the end both are gone, but their exits are reported in another order. -/
theorem looking_changes_nothing_reordered :
    let dispatcher : Dispatcher Rehearsal.Cast := ⟨Rehearsal.rehearsal, .scripted [16, 17], 2, 10⟩
    let mounts : List Visit := [
      ⟨.none, .mount { mountPoint := some "/mnt", devices := ["/dev/sdb"] }, false⟩,
      ⟨.none, .mount { mountPoint := some "/srv", devices := ["/dev/sdc"] }, false⟩]
    let look : Visit :=
      ⟨fun worker => if worker.number = 1 then some (.code 0) else none, .list, true⟩
    let unmount : Visit := ⟨fun _ => some (.code 0), .unmount none (some "/mnt"), false⟩
    let both := Shared.attend dispatcher ⟨.initial {}, false⟩ (mounts ++ [look, unmount])
    let alone := Shared.attend dispatcher ⟨.initial {}, false⟩ (mounts ++ [unmount])
    both.1.filter (!·.1.extra) = alone.1 ∧
      both.2.stage.reports.Perm alone.2.stage.reports ∧
      both.2.stage.reports.drop 2 =
        [.workerExited ⟨17⟩ (.code 0), .workerExited ⟨16⟩ (.code 0)] ∧
      alone.2.stage.reports.drop 2 =
        [.workerExited ⟨16⟩ (.code 0), .workerExited ⟨17⟩ (.code 0)] := by
  intro dispatcher mounts look unmount both alone
  have hpermanent : (mounts ++ [look, unmount]).Pairwise
      fun earlier later => earlier.ends.Within later.ends := by
    simp [mounts, look, unmount, Ends.Within, Ends.none]
  obtain ⟨hanswers, -, hlast⟩ := looking_changes_nothing dispatcher ⟨.initial {}, false⟩
    (mounts ++ [look, unmount]) (by simp [mounts, look, unmount, looks]) hpermanent
  exact ⟨hanswers, (hlast unmount rfl rfl).2, by decide, by decide⟩

end MountControl.Service
