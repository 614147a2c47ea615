/-
  MountControl — volumes stand in the order in which they were registered.

  A new entry is added behind all others, and its worker is numbered after
  all earlier ones.  So the numbers of the workers increase along the
  registry, whatever has left it meanwhile.

  * `Registered` adds this order to what volumes own;
  * `Registered.live`: the registry is what is left of all launches, in their
    order, without those whose workers are released;
  * `registered_serving`: so it is while the service takes connections.
-/
import MountControl.Proofs.Service.Endings

namespace MountControl.Service

open Wire (Request)

variable {σ : Type}

instance (trace : List Effect) (worker : Worker) : Decidable (Released trace worker) :=
  inferInstanceAs (Decidable (_ ∨ _))

/-- The volumes own their workers, and stand in the order of their launches. -/
structure Registered (stage : Stage σ) : Prop where
  tended : Tended stage
  ordered : (stage.registry.entries.map (·.worker.number)).Pairwise (· < ·)

/-- The launches of a trace are numbered in their order. -/
theorem ordered_duties (trace : List Effect) :
    (duties trace).Pairwise fun first second => first.worker.number < second.worker.number := by
  have hnumbers : ((launchedWorkers trace).map (·.number)).Pairwise (· < ·) := by
    rw [number_launchedWorkers]
    exact List.pairwise_lt_range'
  rwa [launchedWorkers, List.map_map, List.pairwise_map] at hnumbers

namespace Registered
variable {stage after : Stage σ} {effects : List Effect} {dispatcher : Dispatcher σ}
  {request : Request}

theorem initial (place : σ) : Registered (Stage.initial place) := ⟨.initial place, .nil⟩

/-- What is only noted or reported leaves the volumes alone. -/
theorem note (h : Registered stage) {effect : Effect} (hstart : effect.start? = none)
    (hended : effect.ended? = none) (hspared : effect.spared? = none) :
    Registered (stage.note effect) :=
  ⟨h.tended.quiet rfl (by simp [hstart]) (by simp [ended, hended]) (by simp [spared, hspared])
    rfl rfl, h.ordered⟩

/-- **Every request keeps the order**: what leaves does not disturb it, and what comes stands
    last. -/
theorem dispatch (h : Registered stage) (request : Request) :
    Registered (stage.dispatch dispatcher request).2 := by
  refine ⟨h.tended.observe request, ?_⟩
  obtain ⟨event, note, result, routed, hr, hd⟩ := dispatch_eq dispatcher stage request
  rw [hd]
  have htended : Tended (stage.swept dispatcher.workers event) :=
    h.tended.swept dispatcher.workers event
  have hswept : ((stage.swept dispatcher.workers event).registry.entries.map
      (·.worker.number)).Pairwise (· < ·) :=
    h.ordered.sublist
      ((survivors_sublist dispatcher.workers stage.registry.entries stage.place).map _)
  generalize stage.swept dispatcher.workers event = swept at hr htended hswept
  cases hr with
  | refused | stuck | listed | described => exact hswept
  | panicked hl | failed hl =>
    rwa [← (allocate_eq_some hl.allocated).2] at hswept
  | started hl =>
    dsimp only [Registry.add]
    rw [(allocate_eq_some hl.allocated).2, List.map_append, List.pairwise_append]
    refine ⟨hswept, List.pairwise_singleton .., fun first hfirst last hlast => ?_⟩
    obtain ⟨entry, he, rfl⟩ := List.mem_map.1 hfirst
    rw [List.map_singleton, List.mem_singleton] at hlast
    rw [hlast]
    exact htended.number_lt he
  | reported hm =>
    obtain ⟨-, rfl⟩ := markMounted?_eq_some.1 hm
    rwa [← map_updateFirst (·.worker.number) (·.attach _ _) (fun _ => rfl)] at hswept
  | stopped hr | abandoned hr =>
    obtain ⟨-, rfl⟩ := remove?_eq_some.1 hr.removed
    exact hswept.sublist (List.eraseP_sublist.map _)

/-- **The volumes are those of all launches whose workers are not released, in the order of the
    launches.** -/
theorem live (h : Registered stage) : stage.registry.entries.map Entry.duty =
    (duties stage.trace).filter fun duty => ¬ Released stage.trace duty.worker := by
  have hentries : (stage.registry.entries.map Entry.duty).Pairwise
      fun first second => first.worker.number < second.worker.number := by
    rw [List.pairwise_map]
    exact List.pairwise_map.1 h.ordered
  have hleft := (ordered_duties stage.trace).filter fun duty =>
    ¬ Released stage.trace duty.worker
  -- both are in the order of the launches, and have the same members
  refine List.Perm.eq_of_pairwise (fun first second _ _ hfirst hsecond =>
    absurd hsecond (Nat.lt_asymm hfirst)) hentries hleft ?_
  have hne : ∀ first second : Duty, first.worker.number < second.worker.number → first ≠ second :=
    fun first second hlt heq => Nat.lt_irrefl _ (heq ▸ hlt)
  rw [List.perm_ext_iff_of_nodup (hentries.imp (hne _ _)) (hleft.imp (hne _ _))]
  intro duty
  rw [h.tended.owned, List.mem_filter, decide_eq_true_iff]

end Registered

/-- **Every exchange keeps the order.** -/
theorem Registered.exchange {dispatcher : Dispatcher σ} {shared : Shared σ}
    (h : Registered shared.stage) (connection : Connection) :
    Registered (shared.exchange dispatcher connection).2.2.stage :=
  exchange_induction (fun _ _ h => h.note rfl rfl rfl) (fun _ request h => h.dispatch request)
    connection h

section
variable {plan : Plan σ} {place : σ} {running : Running σ}

/-- As long as the listener takes connections, the registry was not emptied. -/
theorem open_of_serving (h : (Running.start plan place).Reaches plan running)
    (hserving : running.loop.ended = none) : running.closing.isOpen := by
  have hgoing : ¬ running.loop.ended.isSome := by simp [hserving]
  cases kept_reaches h with
  | live hclosing _ =>
    generalize running.closing = closing at hclosing
    simp only [List.mem_cons, List.not_mem_nil, or_false] at hclosing
    rcases hclosing with rfl | rfl | rfl | rfl | rfl <;> rfl
  | joined _ hended _ => exact absurd hended hgoing
  | stopping _ _ hdrained _ _ => exact absurd hdrained.ended hgoing
  | finished _ _ hdrained _ _ => exact absurd hdrained.ended hgoing

/-- **While the service takes connections, its volumes stand in the order in which they were
    registered.** -/
theorem registered_serving (h : (Running.start plan place).Reaches plan running)
    (hserving : running.loop.ended = none) : Registered running.stage := by
  refine open_induction (P := Registered) (.initial place) ?_ ?_ ?_ ?_ h
    (open_of_serving h hserving)
  · exact fun stage event h => h.note rfl rfl rfl
  · exact fun stage request h => h.dispatch request
  · exact fun stage h => h.note rfl rfl rfl
  · exact fun stage h => h.note rfl rfl rfl

end

end MountControl.Service
