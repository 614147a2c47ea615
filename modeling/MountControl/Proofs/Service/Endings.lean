/-
  MountControl — which ends of workers are reported.

  While the service runs, every worker that ends is reported, unless a stop
  has failed.  At the end of the service, the workers that are left are
  stopped, and of these nothing is reported.

  * `open_induction`: what requests, reports and notes in the log keep, holds
    until the registry is emptied;
  * `ends_reported`: every start is followed by one exit, save the last starts
    of the volumes that the registry held then;
  * `stopped_unreported`: a service that has ended well without a word about
    the end of its worker.
-/
import MountControl.Proofs.Service.Lifecycle

namespace MountControl.Service

open Volume (InstanceId)
open Wire (Request)

variable {σ : Type} {plan : Plan σ} {place : σ} {running after : Running σ}

/-! ## Until the registry is emptied -/

/-- Has the registry not been emptied yet? -/
def Closing.isOpen : Closing → Bool
  | .stopping .. => false
  | .over => false
  | _ => true

/-- The main thread never goes back. -/
theorem Running.Step.open_before (h : running.Step plan after) (ho : after.closing.isOpen) :
    running.closing.isOpen := by
  cases h with
  | listener => exact ho
  | wake waited hwaiting => rw [hwaiting]; rfl
  | main =>
    rw [Running.advance] at ho
    rcases hclosing : running.closing with - | - | - | - | - | - | ⟨- | ⟨entry, left⟩, count⟩ | -
    all_goals first | rfl | (simp only [hclosing] at ho; cases ho)

/-- **What requests, reports and notes in the log keep, holds until the registry is emptied.** -/
theorem open_induction {P : Stage σ → Prop} (hinitial : P (Stage.initial place))
    (hlog : ∀ stage event, P stage → P (stage.note (.logged event)))
    (hdispatch : ∀ stage request, P stage → P (stage.dispatch plan.dispatcher request).2)
    (hready : ∀ stage, P stage → P (stage.report (.listenerReady plan.endpoint)))
    (hshutdown : ∀ stage, P stage → P (stage.report .shutdownStarted))
    (h : (Running.start plan place).Reaches plan running) (ho : running.closing.isOpen) :
    P running.stage := by
  induction h with
  | refl => exact hinitial
  | @tail before after _ hstep ih =>
    have hbefore := ih (hstep.open_before ho)
    cases hstep with
    | listener stop accepted _ =>
      exact turn_induction (P := fun shared : Shared σ => P shared.stage)
        (fun connection _ h => exchange_induction hlog hdispatch connection h) stop accepted hbefore
    | wake => exact hbefore
    | main =>
      rw [Running.advance] at ho ⊢
      split
      · exact hready _ hbefore
      · split <;> exact hbefore
      · exact hshutdown _ hbefore
      · exact hbefore
      · split <;> exact hbefore
      -- from here on the registry is empty
      all_goals
        next hclosing =>
          simp only [hclosing] at ho
          cases ho

/-! ## The end -/

/-- The story of a volume of which no exit was lost. -/
theorem Told.lives {id : InstanceId} {reports : List Health} (h : Told id False reports) :
    ∃ lives : List (Nat × Exit), reports =
      lives.flatMap fun (pid, exit) => [.workerStarted id pid, .workerExited id exit] := by
  induction h with
  | untold => exact ⟨[], rfl⟩
  | @ended reports pid exit _ ih =>
    obtain ⟨lives, rfl⟩ := ih
    exact ⟨lives ++ [(pid, exit)], by simp⟩
  | lost hlost => cases hlost

section
variable {trace : List Effect} {worker : Worker}

/-- Only reaping and stopping bring exits. -/
theorem reaped_or_stopped (h : worker ∈ ended trace) :
    worker ∈ reapedWorkers trace ∨ worker ∈ stoppedWorkers trace := by
  obtain ⟨effect, he, hended⟩ := List.mem_filterMap.1 h
  cases effect with
  | polled id polled result =>
    rcases result with error | _ | exit <;> cases hended
    exact .inl (List.mem_filterMap.2 ⟨_, he, rfl⟩)
  | stopped id stopped grace result =>
    rcases result with error | exit <;> cases hended
    exact .inr (List.mem_filterMap.2 ⟨_, he, rfl⟩)
  | launched | reported | logged => cases hended

theorem ended_of_reaped (h : worker ∈ reapedWorkers trace) : worker ∈ ended trace := by
  obtain ⟨effect, he, hreaped⟩ := List.mem_filterMap.1 h
  cases effect with
  | polled id polled result =>
    rcases result with error | _ | exit <;> cases hreaped
    exact List.mem_filterMap.2 ⟨_, he, rfl⟩
  | launched | stopped | reported | logged => cases hreaped

/-- A stop that does not fail brings the exit. -/
theorem ended_of_stopped (hstops : spared trace = []) (h : worker ∈ stoppedWorkers trace) :
    worker ∈ ended trace := by
  obtain ⟨effect, he, hstopped⟩ := List.mem_filterMap.1 h
  cases effect with
  | stopped id stopped grace result =>
    cases hstopped
    rcases result with error | exit
    · exact absurd (List.filterMap_eq_nil_iff.1 hstops _ he) nofun
    · exact List.mem_filterMap.2 ⟨_, he, rfl⟩
  | launched | polled | reported | logged => cases hstopped

end

/-- A worker that an entry owned when the registry was emptied has ended since then. -/
theorem ended_since_drained {drained : Running σ} {later : List Effect}
    (h : Drained plan drained running later) (haccounted : Accounted running.stage [])
    (hstops : spared running.stage.trace = []) {entry : Entry}
    (he : entry ∈ drained.stage.registry.entries) :
    entry.worker ∉ ended drained.stage.trace ∧ entry.worker ∈ ended running.stage.trace := by
  have hstart : later.filterMap Effect.start? = [] := by
    refine List.filterMap_eq_nil_iff.2 fun effect heffect => ?_
    have hlaunch := List.filterMap_eq_nil_iff.1 h.launches effect heffect
    cases effect with
    | launched => cases hlaunch
    | polled | stopped | reported | logged => rfl
  -- the worker is counted once, among the entries before and among those that ended after
  have hbefore := h.live.accounted.settled entry.worker
  have hafter := haccounted.settled entry.worker
  have hone := List.nodup_iff_count_le_one.1 (nodup_launchedWorkers drained.stage.trace)
    entry.worker
  have hentry : 0 < (drained.stage.registry.entries.map (·.worker)).count entry.worker :=
    List.count_pos_iff.2 (List.mem_map_of_mem he)
  have hlaunched : launchedWorkers running.stage.trace = launchedWorkers drained.stage.trace := by
    rw [h.trace, launchedWorkers, duties_append_of_nil hstart, launchedWorkers]
  rw [hlaunched, List.map_nil, List.count_nil] at hafter
  constructor
  · intro hended
    rcases reaped_or_stopped hended with hmem | hmem
    all_goals
      have hpos := List.count_pos_iff.2 hmem
      omega
  · by_cases hreaped : entry.worker ∈ reapedWorkers running.stage.trace
    · exact ended_of_reaped hreaped
    · rw [← List.count_eq_zero] at hreaped
      exact ended_of_stopped hstops (List.count_pos_iff.1 (by omega))

/-- The stories at any time before the registry is emptied. -/
theorem narrated_open (h : (Running.start plan place).Reaches plan running)
    (ho : running.closing.isOpen) : running.stage.registry.Sound ∧ Narrated running.stage := by
  refine open_induction (P := fun stage => stage.registry.Sound ∧ Narrated stage)
    ⟨.initial, .initial place⟩ ?_ ?_ ?_ ?_ h ho
  · exact fun stage event h => ⟨h.1, h.2.note fun _ => rfl⟩
  · exact fun stage request h => ⟨h.1.observe request, h.2.dispatch h.1 request⟩
  · exact fun stage h => ⟨h.1, h.2.note fun _ => rfl⟩
  · exact fun stage h => ⟨h.1, h.2.note fun _ => rfl⟩

/-- **The reports of a whole service.**  If no stop has failed when the end is reported, then of
    every volume each start was followed by one exit, in turn, save for the last start of a volume
    that was live when the registry was emptied: its worker was stopped, and its exit is known, but
    it was not reported. -/
theorem ends_reported (h : (Running.start plan place).Reaches plan running) {count : Nat}
    (hcompleted : .shutdownCompleted count ∈ running.stage.reports)
    (hstops : spared running.stage.trace = []) :
    ∃ drained, (Running.start plan place).Reaches plan drained ∧ drained.closing = .joined ∧
      (drained.advance plan).Reaches plan running ∧
      running.stage.reports = drained.stage.reports ++
        [.shutdownCompleted drained.stage.registry.entries.length] ∧
      (∀ entry ∈ drained.stage.registry.entries,
        entry.worker ∉ ended drained.stage.trace ∧ entry.worker ∈ ended running.stage.trace) ∧
      ∀ id, ∃ lives : List (Nat × Exit), about id running.stage.reports =
        (lives.flatMap fun (pid, exit) => [.workerStarted id pid, .workerExited id exit]) ++
          ((drained.stage.registry.get? id).map fun entry =>
            Health.workerStarted id entry.worker.pid).toList := by
  cases kept_reaches h with
  | live _ hlive => exact absurd hcompleted (not_mem_reports hlive.unfinished count)
  | joined _ _ hlive => exact absurd hcompleted (not_mem_reports hlive.unfinished count)
  | @stopping left drained later _ _ hdrained _ hreports =>
    rw [reports_eq, hdrained.trace, List.filterMap_append, hreports, List.append_nil] at hcompleted
    exact absurd hcompleted (not_mem_reports hdrained.live.unfinished count)
  | @finished drained later _ hfirst hdrained haccounted hreports =>
    have hopen : drained.closing.isOpen := by rw [hdrained.joined]; rfl
    obtain ⟨hs, hn⟩ := narrated_open hfirst hopen
    have hreported : running.stage.reports = drained.stage.reports ++
        [.shutdownCompleted drained.stage.registry.entries.length] := by
      rw [reports_eq, reports_eq, hdrained.trace, List.filterMap_append, hreports]
    have hspared : spared drained.stage.trace = [] := by
      rw [hdrained.trace, spared_append] at hstops
      exact (List.append_eq_nil_iff.1 hstops).1
    refine ⟨drained, hfirst, hdrained.joined, hdrained.reached, hreported,
      fun entry he => ended_since_drained hdrained haccounted hstops he, fun id => ?_⟩
    have hstory := hn id
    rw [hspared] at hstory
    rw [hreported, about_append, show about id [.shutdownCompleted _] = [] from rfl,
      List.append_nil]
    generalize about id drained.stage.reports = reports at hstory
    generalize drained.stage.registry.get? id = found at hstory
    cases hstory with
    | gone htold =>
      obtain ⟨lives, rfl⟩ := (htold.mono fun hlost => hlost rfl).lives
      exact ⟨lives, (List.append_nil _).symm⟩
    | live htold =>
      obtain ⟨lives, rfl⟩ := (htold.mono fun hlost => hlost rfl).lives
      exact ⟨lives, rfl⟩

/-- The first volume is unmounted, the second reaped, and the third is left at the end. -/
theorem ends_reported_three :
    let workers : Workers Unit :=
      { launch := fun number _ _ _ => (.started (1000 + number), ())
        poll := fun worker _ => (.ok (if worker.number = 1 then some (.code 0) else none), ())
        stop := fun _ _ _ => (.ok (.signal 15), ()) }
    let plan : Plan Unit := ⟨.unix "/d", ⟨workers, .scripted [16], 2, 10⟩⟩
    let send := fun message : String =>
      Move.listener (.connection { reads := [.chunk (Text.encode message.toList)] })
    let mount := fun path : String => send ("Mount\nMountPoint|2|" ++ path ++ "\nDevice|2|/x\n")
    let running := ((Running.start plan ()).run plan
      [.main, mount "/a", mount "/b", send "Unmount\nMountPoint|2|/a\n", mount "/c"]).finish plan
        (.ok ())
    ∃ drained : Running Unit, drained.stage.registry.entries.length = 1 ∧
      ∃ lives : List (Nat × Exit), about ⟨17⟩ running.stage.reports =
        (lives.flatMap fun (pid, exit) => [.workerStarted ⟨17⟩ pid, .workerExited ⟨17⟩ exit]) ++
          ((drained.stage.registry.get? ⟨17⟩).map fun entry =>
            Health.workerStarted ⟨17⟩ entry.worker.pid).toList := by
  intro workers plan send mount running
  have hreaches : (Running.start plan ()).Reaches plan running :=
    (run_reaches ..).trans (run_reaches ..)
  have hlast : running.stage.reports.getLast? = some (.shutdownCompleted 1) := by decide +kernel
  obtain ⟨drained, -, -, -, hreports, -, hstories⟩ :=
    ends_reported hreaches (List.mem_of_getLast? hlast) (by decide +kernel)
  rw [hreports, List.getLast?_concat] at hlast
  exact ⟨drained, by simpa using hlast, hstories ⟨17⟩⟩

/-- The worker whose poll failed. -/
def Effect.unseen? : Effect → Option Worker
  | .polled _ worker (.error _) => some worker
  | _ => none

/-- **The exit of a worker that is stopped at the end is not reported**, though no poll and no stop
    fails and the service ends well. -/
theorem stopped_unreported :
    let workers : Workers Unit :=
      { launch := fun number _ _ _ => (.started (1000 + number), ())
        poll := fun _ _ => (.ok none, ())
        stop := fun _ _ _ => (.ok (.signal 15), ()) }
    let plan : Plan Unit := ⟨.unix "/d", ⟨workers, .scripted [16], 2, 10⟩⟩
    let mount := Move.listener (.connection { reads := [.chunk
      (Text.encode "Mount\nMountPoint|4|/mnt\nDevice|5|/dev1\n".toList)] })
    let running := ((Running.start plan ()).run plan [.main, mount]).finish plan (.ok ())
    running.result?.isSome ∧ spared running.stage.trace = [] ∧
      running.stage.trace.filterMap Effect.unseen? = [] ∧
      ended running.stage.trace = [⟨0, 1000⟩] ∧
      running.stage.reports = [.listenerReady (.unix "/d"), .workerStarted ⟨16⟩ 1000,
        .shutdownStarted, .shutdownCompleted 1] := by
  decide +kernel

end MountControl.Service
