/-
  MountControl — the operations of the registry.

  Each operation is described by what it does to the list of entries.  Where
  identifiers are distinct, the first entry of an identifier is the only one,
  so that a change of the first is a map and a removal of the first a filter.
-/
import MountControl.Service.Registry

namespace MountControl.Service

open Volume (InstanceId Uuid)

variable {registry after : Registry} {id : InstanceId} {mountPoint : String} {entry : Entry}

/-! ## Looking entries up -/

theorem get?_eq_none : registry.get? id = none ↔ ∀ entry ∈ registry.entries, entry.id ≠ id := by
  simp [Registry.get?]

theorem get?_ne_none : registry.get? id ≠ none ↔ ∃ entry ∈ registry.entries, entry.id = id := by
  simp [Registry.get?]

theorem atMountPoint?_eq_none :
    registry.atMountPoint? mountPoint = none ↔
      ∀ entry ∈ registry.entries, entry.options.mountPoint ≠ mountPoint := by
  simp [Registry.atMountPoint?]

theorem mem_of_atMountPoint? (h : registry.atMountPoint? mountPoint = some entry) :
    entry ∈ registry.entries ∧ entry.options.mountPoint = mountPoint :=
  ⟨List.mem_of_find?_eq_some h, by simpa using List.find?_some h⟩

/-- A volume that is found by its mount point is found by its identifier, too. -/
theorem get?_of_atMountPoint? (h : registry.atMountPoint? mountPoint = some entry) :
    (registry.get? entry.id).isSome := by
  rw [Registry.get?, List.find?_isSome]
  exact ⟨entry, (mem_of_atMountPoint? h).1, decide_eq_true rfl⟩

/-! ## Changing and removing the first entry that fits -/

section
variable {p : Entry → Bool} {change : Entry → Entry}

theorem map_updateFirst {β : Type} (f : Entry → β) (change : Entry → Entry)
    (hf : ∀ entry, f (change entry) = f entry) :
    ∀ entries, (updateFirst p change entries).map f = entries.map f
  | [] => rfl
  | entry :: entries => by
    rw [updateFirst]
    split
    · simp only [List.map_cons, hf]
    · simp only [List.map_cons, map_updateFirst f change hf entries]

theorem mem_updateFirst : ∀ {entries : List Entry}, entry ∈ updateFirst p change entries →
    entry ∈ entries ∨ ∃ old ∈ entries, entry = change old
  | [], h => Or.inl h
  | first :: entries, h => by
    rw [updateFirst] at h
    split at h
    · rcases List.mem_cons.1 h with rfl | h
      · exact Or.inr ⟨first, by simp, rfl⟩
      · exact Or.inl (by simp [h])
    · rcases List.mem_cons.1 h with rfl | h
      · exact Or.inl (by simp)
      · rcases mem_updateFirst h with h | ⟨old, hold, rfl⟩
        · exact Or.inl (by simp [h])
        · exact Or.inr ⟨old, by simp [hold], rfl⟩

theorem ne_of_not_mem_ids {first : Entry} {entries : List Entry}
    (h : first.id ∉ entries.map (·.id)) : ∀ entry ∈ entries, entry.id ≠ first.id :=
  fun entry he heq => h (List.mem_map.2 ⟨entry, he, heq⟩)

/-- Where only one entry fits, changing the first one changes all. -/
theorem updateFirst_eq_map : ∀ {entries : List Entry}, (entries.map (·.id)).Nodup →
    updateFirst (·.id = id) change entries =
      entries.map fun entry => if entry.id = id then change entry else entry
  | [], _ => rfl
  | first :: entries, h => by
    rw [List.map_cons, List.nodup_cons] at h
    rw [updateFirst, List.map_cons]
    by_cases hid : first.id = id
    · subst hid
      -- no later entry has this identifier
      have hrest : entries.map (fun entry => if entry.id = first.id then change entry else entry) =
          entries.map fun entry => entry := List.map_congr_left fun entry he =>
        if_neg (ne_of_not_mem_ids h.1 entry he)
      rw [hrest, List.map_id', if_pos (decide_eq_true rfl), if_pos rfl]
    · rw [if_neg (by simpa using hid), if_neg hid, updateFirst_eq_map h.2]

/-- Where only one entry fits, removing the first one removes all. -/
theorem eraseP_eq_filter : ∀ {entries : List Entry}, (entries.map (·.id)).Nodup →
    entries.eraseP (·.id = id) = entries.filter (·.id ≠ id)
  | [], _ => rfl
  | first :: entries, h => by
    rw [List.map_cons, List.nodup_cons] at h
    rw [List.eraseP_cons, List.filter_cons]
    by_cases hid : first.id = id
    · subst hid
      -- nor does the filter find another one
      have hrest : entries.filter (·.id ≠ first.id) = entries :=
        List.filter_eq_self.2 fun entry he => decide_eq_true (ne_of_not_mem_ids h.1 entry he)
      rw [hrest]; simp
    · rw [eraseP_eq_filter h.2]; simp [hid]

/-- A change of entries that a lookup does not see leaves what is found. -/
theorem map_find?_updateFirst {β : Type} {q : Entry → Bool} (f : Entry → β)
    (hq : ∀ entry, q (change entry) = q entry) (hf : ∀ entry, f (change entry) = f entry) :
    ∀ entries, ((updateFirst p change entries).find? q).map f = (entries.find? q).map f
  | [] => rfl
  | entry :: entries => by
    rw [updateFirst]
    split
    · rw [List.find?_cons, List.find?_cons, hq]
      split
      · exact congrArg some (hf entry)
      · rfl
    · rw [List.find?_cons, List.find?_cons]
      split
      · rfl
      · exact map_find?_updateFirst f hq hf entries

/-- Removing an entry that was found leaves those before it and those after it. -/
theorem split_of_get? (h : registry.get? id = some entry) :
    ∃ front back, registry.entries = front ++ entry :: back ∧
      registry.entries.eraseP (·.id = id) = front ++ back := by
  obtain ⟨hid, front, back, hsplit, hfront⟩ := List.find?_eq_some_iff_append.1 h
  have hlater : ∀ other ∈ front, ¬ decide (other.id = id) := by
    intro other ho
    simpa using hfront other ho
  refine ⟨front, back, hsplit, ?_⟩
  rw [hsplit, List.eraseP_append_right _ hlater, List.eraseP_cons, hid]
  rfl

end

/-! ## The operations -/

theorem remove?_eq_none : registry.remove? id = none ↔ registry.get? id = none := by
  rw [Registry.remove?, Option.map_eq_none_iff]

theorem remove?_eq_some :
    registry.remove? id = some (entry, after) ↔
      registry.get? id = some entry ∧
        after = { registry with entries := registry.entries.eraseP (·.id = id) } := by
  rw [Registry.remove?, Option.map_eq_some_iff]
  constructor
  · rintro ⟨found, hget, heq⟩
    cases heq
    exact ⟨hget, rfl⟩
  · rintro ⟨hget, rfl⟩
    exact ⟨entry, hget, rfl⟩

/-- Where identifiers are distinct, no entry has the identifier of the one that was removed, and the
    others are still found. -/
theorem get?_eraseP (h : (registry.entries.map (·.id)).Nodup) (other : InstanceId) :
    Registry.get? { registry with entries := registry.entries.eraseP (·.id = id) } other =
      if other = id then none else registry.get? other := by
  rw [Registry.get?, eraseP_eq_filter h, List.find?_filter]
  split
  next heq =>
    subst heq
    refine List.find?_eq_none.2 fun entry _ => ?_
    simp
  next hne =>
    rw [Registry.get?]
    congr 1
    funext entry
    by_cases hid : entry.id = other <;> simp [hid, hne]

theorem markMounted?_eq_none {fsUuid : Uuid} {label : Option String} :
    registry.markMounted? id fsUuid label = none ↔ registry.get? id = none := by
  rw [Registry.markMounted?]
  cases registry.get? id <;> simp

theorem markMounted?_eq_some {fsUuid : Uuid} {label : Option String} :
    registry.markMounted? id fsUuid label = some after ↔
      (registry.get? id).isSome ∧ after = { registry with
        entries := updateFirst (·.id = id) (·.attach fsUuid label) registry.entries } := by
  rw [Registry.markMounted?]
  cases registry.get? id <;> simp [eq_comm]

/-- A new entry is found by its identifier, if that was free. -/
theorem get?_add (h : registry.get? entry.id = none) :
    (registry.add entry).get? entry.id = some entry := by
  rw [Registry.get?] at h
  simp [Registry.get?, Registry.add, List.find?_append, h]

theorem get?_add_of_ne (h : entry.id ≠ id) : (registry.add entry).get? id = registry.get? id := by
  simp [Registry.get?, Registry.add, List.find?_append, h]

/-- So its process is that of its worker. -/
theorem pid_add (h : registry.get? entry.id = none) :
    (registry.add entry).pid entry.id = entry.worker.pid := by
  rw [Registry.pid, get?_add h]
  rfl

/-! ## Drawing identifiers -/

/-- The candidate after `n` others is the first that no volume has. -/
structure Registry.FirstFree (ids : IdSource) (registry : Registry) (n : Nat) : Prop where
  free : ∀ entry ∈ registry.entries, entry.id ≠ ⟨ids.candidate (registry.drawn + n)⟩
  taken : ∀ m < n, ∃ entry ∈ registry.entries, entry.id = ⟨ids.candidate (registry.drawn + m)⟩

section
variable {ids : IdSource} {patience n m : Nat}

theorem firstFree_zero :
    registry.FirstFree ids 0 ↔ registry.get? ⟨ids.candidate registry.drawn⟩ = none := by
  rw [get?_eq_none]
  exact ⟨fun h => h.free, fun h => ⟨h, nofun⟩⟩

/-- A candidate that is taken is only counted. -/
theorem firstFree_succ : registry.FirstFree ids (n + 1) ↔
    registry.get? ⟨ids.candidate registry.drawn⟩ ≠ none ∧
      Registry.FirstFree ids { registry with drawn := registry.drawn + 1 } n := by
  rw [get?_ne_none]
  constructor
  · rintro ⟨hfree, htaken⟩
    refine ⟨htaken 0 n.succ_pos, ⟨?_, fun m hm => ?_⟩⟩
    · dsimp only
      rwa [Nat.succ_add_eq_add_succ]
    · dsimp only
      rw [Nat.succ_add_eq_add_succ]
      exact htaken (m + 1) (Nat.succ_lt_succ hm)
  · rintro ⟨hfirst, hfree, htaken⟩
    simp only [Nat.succ_add_eq_add_succ] at hfree htaken
    refine ⟨hfree, fun m hm => ?_⟩
    cases m with
    | zero => exact hfirst
    | succ m => exact htaken m (Nat.lt_of_succ_lt_succ hm)

theorem Registry.FirstFree.unique (hn : registry.FirstFree ids n)
    (hm : registry.FirstFree ids m) : n = m := by
  rcases Nat.lt_trichotomy n m with hlt | heq | hlt
  · obtain ⟨entry, he, hid⟩ := hm.taken n hlt
    exact absurd hid (hn.free entry he)
  · exact heq
  · obtain ⟨entry, he, hid⟩ := hn.taken m hlt
    exact absurd hid (hm.free entry he)

/-- Where some candidate is free, one is the first. -/
theorem exists_firstFree (h : registry.get? ⟨ids.candidate (registry.drawn + n)⟩ = none) :
    ∃ m ≤ n, registry.FirstFree ids m := by
  induction n generalizing registry with
  | zero => exact ⟨0, Nat.le_refl 0, firstFree_zero.2 h⟩
  | succ n ih =>
    by_cases hfirst : registry.get? ⟨ids.candidate registry.drawn⟩ = none
    · exact ⟨0, Nat.zero_le _, firstFree_zero.2 hfirst⟩
    · rw [← Nat.succ_add_eq_add_succ] at h
      obtain ⟨m, hle, hm⟩ : ∃ m ≤ n,
          Registry.FirstFree ids { registry with drawn := registry.drawn + 1 } m := ih h
      exact ⟨m + 1, Nat.succ_le_succ hle, firstFree_succ.2 ⟨hfirst, hm⟩⟩

/-- **Allocation finds the first free candidate**, draws the candidates up to it, and changes
    nothing else. -/
theorem allocate_eq_some_iff : registry.allocate ids patience = some (id, after) ↔
    ∃ n < patience, registry.FirstFree ids n ∧ id = ⟨ids.candidate (registry.drawn + n)⟩ ∧
      after = { registry with drawn := registry.drawn + (n + 1) } := by
  induction patience generalizing registry with
  | zero => simp [Registry.allocate]
  | succ patience ih =>
    rw [Registry.allocate]
    split
    next hfree =>
      have hzero : registry.FirstFree ids 0 := firstFree_zero.2 (Option.isNone_iff_eq_none.1 hfree)
      constructor
      · intro h
        cases h
        exact ⟨0, patience.succ_pos, hzero, rfl, rfl⟩
      · rintro ⟨n, -, hn, rfl, rfl⟩
        obtain rfl := hn.unique hzero
        rfl
    next htaken =>
      rw [Option.isNone_iff_eq_none] at htaken
      rw [ih]
      dsimp only
      constructor
      · rintro ⟨n, hlt, hn, hid, hafter⟩
        rw [Nat.succ_add_eq_add_succ] at hid hafter
        exact ⟨n + 1, Nat.succ_lt_succ hlt, firstFree_succ.2 ⟨htaken, hn⟩, hid, hafter⟩
      · rintro ⟨n, hlt, hn, hid, hafter⟩
        cases n with
        | zero => exact absurd (firstFree_zero.1 hn) htaken
        | succ n =>
          rw [← Nat.succ_add_eq_add_succ] at hid hafter
          exact ⟨n, Nat.lt_of_succ_lt_succ hlt, (firstFree_succ.1 hn).2, hid, hafter⟩

/-- What allocation finds is free, and the entries stay. -/
theorem allocate_eq_some (h : registry.allocate ids patience = some (id, after)) :
    registry.get? id = none ∧ after.entries = registry.entries := by
  obtain ⟨n, -, hfirst, rfl, rfl⟩ := allocate_eq_some_iff.1 h
  exact ⟨get?_eq_none.2 hfirst.free, rfl⟩

/-- **A free candidate is found** if it comes before patience ends. -/
theorem allocate_isSome (hn : n < patience)
    (hfree : registry.get? ⟨ids.candidate (registry.drawn + n)⟩ = none) :
    (registry.allocate ids patience).isSome := by
  obtain ⟨m, hm, hfirst⟩ := exists_firstFree hfree
  rw [Option.isSome_iff_exists]
  exact ⟨_, allocate_eq_some_iff.2 ⟨m, Nat.lt_of_le_of_lt hm hn, hfirst, rfl, rfl⟩⟩

end

end MountControl.Service
