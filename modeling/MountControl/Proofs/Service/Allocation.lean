/-
  MountControl — identifiers are fresh, and one is found in time.

  Registering draws candidates until one is free.  Whether that ends is up to
  the source: one that goes on counting, around the end of the numbers if need
  be, comes to a free number before it has passed as many taken ones as there
  are volumes.

  * `Registers`: what registering under an identifier comes to;
  * `IdSource.Replays`: a list of candidates, then counting upwards;
  * `exists_free`: of more candidates than volumes, all different, one is free;
  * `registers_first_free` puts this together.
-/
import Mathlib.Data.List.Nodup
import Mathlib.Data.List.Perm.Subperm
import MountControl.Proofs.Service.Registry
import MountControl.Service.Rehearsal
import MountControl.Service.Stage

namespace MountControl.Service

open Volume (InstanceId Options)

variable {σ : Type}

/-! ## Registering under an identifier -/

/-- What registering a volume comes to that takes some draws and finds an identifier: the launcher
    gets this one, and if a worker has started, so does the new entry. -/
inductive Registers (workers : Workers σ) (stage : Stage σ) (options : Options) (id : InstanceId)
    (draws : Nat) : Except Halt (Except SpawnError Entry) → Stage σ → Prop
  | started {pid place} :
      workers.launch stage.launches id options stage.place = (.started pid, place) →
      Registers workers stage options id draws
        (.ok (.ok (.starting id options ⟨stage.launches, pid⟩)))
        { registry :=
            { entries := stage.registry.entries ++ [.starting id options ⟨stage.launches, pid⟩]
              drawn := stage.registry.drawn + draws }
          launches := stage.launches + 1
          place
          trace := stage.trace ++ [.launched id options (.started pid)] }
  | failed {error place} :
      workers.launch stage.launches id options stage.place = (.failed error, place) →
      Registers workers stage options id draws (.ok (.error error))
        { stage with
          registry.drawn := stage.registry.drawn + draws
          place
          trace := stage.trace ++ [.launched id options (.failed error)] }
  | panicked {message place} :
      workers.launch stage.launches id options stage.place = (.panicked message, place) →
      Registers workers stage options id draws (.error (.panicked message))
        { stage with
          registry.drawn := stage.registry.drawn + draws
          place
          trace := stage.trace ++ [.launched id options (.panicked message)] }

section
variable {ids : IdSource} {stage : Stage σ} {patience n : Nat}

theorem register_of_firstFree (workers : Workers σ) (options : Options) (hn : n < patience)
    (h : stage.registry.FirstFree ids n) :
    Registers workers stage options ⟨ids.candidate (stage.registry.drawn + n)⟩ (n + 1)
      (stage.register workers ids patience options).1
      (stage.register workers ids patience options).2 := by
  rw [Stage.register, allocate_eq_some_iff.2 ⟨n, hn, h, rfl, rfl⟩]
  dsimp only
  generalize (⟨ids.candidate (stage.registry.drawn + n)⟩ : InstanceId) = id
  rcases hlaunch : workers.launch stage.launches id options stage.place with
    ⟨pid | error | message, place⟩
  · simpa [hlaunch, Stage.note, Registry.add] using Registers.started hlaunch
  · simpa [hlaunch, Stage.note] using Registers.failed hlaunch
  · simpa [hlaunch, Stage.note] using Registers.panicked hlaunch

theorem register_of_taken (workers : Workers σ) (options : Options)
    (h : ∀ n < patience, ¬ stage.registry.FirstFree ids n) :
    stage.register workers ids patience options = (.error .stuck, stage) := by
  have hnone : stage.registry.allocate ids patience = none := by
    refine Option.eq_none_iff_forall_not_mem.2 fun (id, after) hsome => ?_
    obtain ⟨n, hn, hfirst, -⟩ := allocate_eq_some_iff.1 hsome
    exact h n hn hfirst
  rw [Stage.register, hnone]

end

/-! ## Sources that count -/

/-- The source gives the numbers of a list, and then counts upwards from the last of them, or from
    0 if there is none; the greatest number is followed by 0. -/
structure IdSource.Replays (ids : IdSource) (script : List UInt64) : Prop where
  listed : ∀ n (h : n < script.length), ids.candidate n = script[n]
  first : ids.candidate script.length = script.getLastD 0 + 1
  next : ∀ n, script.length ≤ n → ids.candidate (n + 1) = ids.candidate n + 1

theorem scripted_replays (script : List UInt64) : (IdSource.scripted script).Replays script where
  listed n h := by simp [IdSource.scripted, h]
  first := by simp [IdSource.scripted]
  next n h := by
    have hsub : n + 1 - script.length = n - script.length + 1 := by omega
    simp [IdSource.scripted, h, Nat.le_succ_of_le h, hsub, UInt64.ofNat_add, UInt64.add_assoc]

namespace IdSource.Replays
variable {ids : IdSource} {script : List UInt64} {n : Nat}

/-- Once it counts, each candidate is as far from another as their places are, around the end of the
    numbers. -/
theorem candidate_add (h : ids.Replays script) (hn : script.length ≤ n) (k : Nat) :
    ids.candidate (n + k) = ids.candidate n + UInt64.ofNat k := by
  induction k with
  | zero => simp
  | succ k ih =>
    rw [← Nat.add_assoc, h.next _ (Nat.le_add_right_of_le hn), ih, UInt64.ofNat_add,
      UInt64.add_assoc]
    rfl

/-- No candidate comes back before all numbers have come. -/
theorem nodup_candidates (h : ids.Replays script) (hn : script.length ≤ n) {count : Nat}
    (hcount : count ≤ UInt64.size) :
    ((List.range count).map fun k => ids.candidate (n + k)).Nodup := by
  refine List.Nodup.map_on (fun k hk l hl heq => ?_) List.nodup_range
  rw [List.mem_range] at hk hl
  rw [h.candidate_add hn, h.candidate_add hn, UInt64.add_right_inj] at heq
  have htoNat := congrArg UInt64.toNat heq
  rwa [UInt64.toNat_ofNat_of_lt' (Nat.lt_of_lt_of_le hk hcount),
    UInt64.toNat_ofNat_of_lt' (Nat.lt_of_lt_of_le hl hcount)] at htoNat

end IdSource.Replays

section
variable {ids : IdSource} {registry : Registry}

/-- **Of more candidates than volumes, all different, one is free.** -/
theorem exists_free {n : Nat} (h : ((List.range (registry.entries.length + 1)).map fun k =>
      ids.candidate (n + k)).Nodup) :
    ∃ k ≤ registry.entries.length, registry.get? ⟨ids.candidate (n + k)⟩ = none := by
  by_contra hnone
  push Not at hnone
  -- otherwise the volumes would have all of them
  have hsub : ((List.range (registry.entries.length + 1)).map fun k => ids.candidate (n + k)) ⊆
      registry.entries.map (·.id.value) := by
    intro candidate hmem
    obtain ⟨k, hk, rfl⟩ := List.mem_map.1 hmem
    obtain ⟨entry, he, hid⟩ := get?_ne_none.1 (hnone k (Nat.lt_succ_iff.1 (List.mem_range.1 hk)))
    exact List.mem_map.2 ⟨entry, he, congrArg InstanceId.value hid⟩
  have hlength : registry.entries.length + 1 ≤ registry.entries.length := by
    simpa using (h.subperm hsub).length_le
  exact Nat.not_succ_le_self _ hlength

/-- Counting finds a free number: it comes to as many candidates as there are volumes, and one
    more. -/
theorem firstFree_of_replays {script : List UInt64} (h : ids.Replays script)
    (hsize : registry.entries.length < UInt64.size) :
    ∃ n ≤ script.length - registry.drawn + registry.entries.length,
      registry.FirstFree ids n := by
  have hcounts : script.length ≤ registry.drawn + (script.length - registry.drawn) := by omega
  obtain ⟨k, hk, hfree⟩ : ∃ k ≤ registry.entries.length, registry.get?
      ⟨ids.candidate (registry.drawn + (script.length - registry.drawn) + k)⟩ = none :=
    exists_free (h.nodup_candidates hcounts hsize)
  rw [Nat.add_assoc] at hfree
  obtain ⟨n, hn, hfirst⟩ := exists_firstFree hfree
  exact ⟨n, Nat.le_trans hn (Nat.add_le_add_left hk _), hfirst⟩

end

/-! ## Registering -/

/-- **Registering finds the first free candidate**, gives it to the launcher and to the new entry,
    and draws no more; as long as it has found none, it goes on.  With a source that replays a list
    and then counts, it ends after as many draws as the rest of the list has numbers and there are
    volumes, and one more. -/
theorem registers_first_free (workers : Workers σ) (ids : IdSource) (stage : Stage σ)
    (options : Options) :
    (∀ n, stage.registry.FirstFree ids n → ∀ patience, n < patience →
      Registers workers stage options ⟨ids.candidate (stage.registry.drawn + n)⟩ (n + 1)
        (stage.register workers ids patience options).1
        (stage.register workers ids patience options).2) ∧
    (∀ patience, (∀ n < patience, ¬ stage.registry.FirstFree ids n) →
      stage.register workers ids patience options = (.error .stuck, stage)) ∧
    ∀ script, ids.Replays script → stage.registry.entries.length < UInt64.size →
      ∃ n, stage.registry.FirstFree ids n ∧
        n + 1 ≤ script.length - stage.registry.drawn + stage.registry.entries.length + 1 := by
  refine ⟨fun n hfirst patience hn => register_of_firstFree workers options hn hfirst,
    fun patience htaken => register_of_taken workers options htaken, fun script hids hsize => ?_⟩
  obtain ⟨n, hn, hfirst⟩ := firstFree_of_replays hids hsize
  exact ⟨n, hfirst, Nat.succ_le_succ hn⟩

/-- The list ends with the greatest number, which is taken, as is 0, with which counting goes on:
    the volume gets 1, after three of at most four draws. -/
theorem registers_first_free_wrapping :
    let ids : IdSource := .scripted [0xFFFFFFFFFFFFFFFF]
    let options : Options := ⟨"/mnt", ["/dev/sdb"], .default, none, false⟩
    let entry (id : UInt64) (number : Nat) : Entry := .starting ⟨id⟩ options ⟨number, 1000 + number⟩
    let stage : Stage Rehearsal.Cast :=
      { registry.entries := [entry 0xFFFFFFFFFFFFFFFF 0, entry 0 1], launches := 2,
        place.actors := [{}, {}] }
    Registers Rehearsal.rehearsal stage options ⟨1⟩ 3
        (stage.register Rehearsal.rehearsal ids 4 options).1
        (stage.register Rehearsal.rehearsal ids 4 options).2 ∧
      stage.register Rehearsal.rehearsal ids 2 options = (.error .stuck, stage) ∧
      ∃ n, stage.registry.FirstFree ids n ∧ n + 1 ≤ 4 := by
  intro ids options entry stage
  obtain ⟨hregisters, htaken, hends⟩ := registers_first_free Rehearsal.rehearsal ids stage options
  have hfirst : stage.registry.FirstFree ids 2 := ⟨by decide, by decide⟩
  have hid : ids.candidate (stage.registry.drawn + 2) = 1 := by decide
  have hregistered := hregisters 2 hfirst 4 (by decide)
  rw [hid] at hregistered
  refine ⟨hregistered, htaken 2 fun n hn hfree => ?_, hends _ (scripted_replays _) (by decide)⟩
  exact absurd (hfree.unique hfirst) (Nat.ne_of_lt hn)

end MountControl.Service
