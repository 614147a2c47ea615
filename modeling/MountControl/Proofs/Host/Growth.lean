/-
  MountControl — trees that only gain directories.

  * `Grown`: everything that was there is as it was, and what is new is a
    directory of one mode, to which one of some paths leads.  A path that
    leads to something leads to the same thing after that (`Grown.stat`),
    since no new node is a link.
  * `mkdir_grown`, `climb_grown`, `descend_grown`: every step of making
    directories only adds such nodes, also where a later step fails.
  * `mkdirAll_grown`: making a directory adds directories only at that path
    and at the paths above it, and where it succeeds the directory is there.
-/
import MountControl.Proofs.Host.FileTree

namespace MountControl.Host.FileTree

variable {tree middle after : FileTree} {cwd place target : Place} {node : Node} {mode : Nat}
  {path : List Char} {paths : List (List Char)}

/-! ## Growth -/

/-- `after` has what `tree` has and, besides, only directories of `mode`, each at the end of one of
    `paths`. -/
structure Grown (cwd : Place) (mode : Nat) (paths : List (List Char)) (tree after : FileTree) :
    Prop where
  /-- Nothing is changed or taken away. -/
  kept : ∀ {place node}, tree.node? place = some node → after.node? place = some node
  /-- What is new is a directory. -/
  new : ∀ {place node}, after.node? place = some node → tree.node? place = none →
    ∃ path ∈ paths, after.stat true cwd path = .ok (place, .directory mode)

namespace Grown

theorem refl : Grown cwd mode paths tree tree where
  kept := id
  new h hnone := by rw [hnone] at h; cases h

theorem mono {paths' : List (List Char)} (h : Grown cwd mode paths tree after)
    (hsub : ∀ path ∈ paths, path ∈ paths') : Grown cwd mode paths' tree after where
  kept := h.kept
  new hnode hnone := by
    obtain ⟨path, hpath, hstat⟩ := h.new hnode hnone
    exact ⟨path, hsub path hpath, hstat⟩

/-- Growth brings no link. -/
theorem link {text : List Char} (h : Grown cwd mode paths tree after)
    (hlink : after.node? place = some (.link text)) : tree.node? place = some (.link text) := by
  cases hnode : tree.node? place with
  | none =>
    obtain ⟨_, _, hstat⟩ := h.new hlink hnode
    rw [(stat_eq_ok.1 hstat).2] at hlink
    cases hlink
  | some node => rw [← hlink, h.kept hnode]

/-- A way that leads somewhere leads there still: all that it passes is as it was, and where it
    passes no link there is none now. -/
theorem walk {follow : Bool} {links : Nat} {todo : List (List Char)}
    (h : Grown cwd mode paths tree after) (hwalk : tree.walk follow links place todo = .ok target) :
    after.walk follow links place todo = .ok target := by
  fun_induction FileTree.walk tree follow links place todo with
  | case1 => rw [FileTree.walk, hwalk]
  | case2 | case5 | case7 | case10 => cases hwalk
  | case3 links place name rest mode hplace hname ih =>
    rw [FileTree.walk, h.kept hplace]
    simp only [hname, if_true]
    exact ih hwalk
  | case4 links place rest mode hplace hname ih =>
    rw [FileTree.walk, h.kept hplace]
    simp only [hname, if_true, if_false]
    exact ih hwalk
  | case6 links place name rest mode hplace hname hup hlong text hnext hlast =>
    rw [FileTree.walk, h.kept hplace]
    simp only [hname, hup, hlong, h.kept hnext, hlast, and_self, if_true, if_false]
    exact hwalk
  | case8 links place name rest mode hplace hname hup hlong text hnext hlast hlimit ih =>
    rw [FileTree.walk, h.kept hplace]
    simp only [hname, hup, hlong, h.kept hnext, hlast, hlimit, if_false, dite_false]
    exact ih hwalk
  | case9 links place name rest mode hplace hname hup hlong hnext ih =>
    rw [FileTree.walk, h.kept hplace]
    simp only [hname, hup, hlong, if_false]
    split
    next text hnode => exact (hnext text (h.link hnode)).elim
    next => exact ih hwalk

/-- What a path leads to is what it led to. -/
theorem stat {follow : Bool} {start : Place} (h : Grown start mode paths tree after)
    (hstat : tree.stat follow cwd path = .ok (place, node)) :
    after.stat follow cwd path = .ok (place, node) := by
  obtain ⟨hlocate, hnode⟩ := stat_eq_ok.1 hstat
  refine stat_eq_ok.2 ⟨?_, h.kept hnode⟩
  unfold locate at hlocate ⊢
  split_ifs at hlocate ⊢
  all_goals exact h.walk hlocate

theorem trans (h : Grown cwd mode paths tree middle) (h' : Grown cwd mode paths middle after) :
    Grown cwd mode paths tree after where
  kept hnode := h'.kept (h.kept hnode)
  new {place node} hnode hnone := by
    cases hmiddle : middle.node? place with
    | none => exact h'.new hnode hmiddle
    | some node =>
      obtain ⟨path, hpath, hstat⟩ := h.new hmiddle hnone
      exact ⟨path, hpath, h'.stat hstat⟩

end Grown

theorem isDirectory_iff :
    tree.isDirectory cwd path = true ↔
      ∃ place mode, tree.stat true cwd path = .ok (place, .directory mode) := by
  unfold isDirectory
  constructor
  · intro h
    split at h
    · exact ⟨_, _, ‹_›⟩
    · cases h
  · rintro ⟨place, mode, hstat⟩
    rw [hstat]

theorem Grown.isDirectory {start : Place} (h : Grown start mode paths tree after)
    (hdirectory : tree.isDirectory cwd path = true) : after.isDirectory cwd path = true := by
  obtain ⟨place, mode, hstat⟩ := isDirectory_iff.1 hdirectory
  exact isDirectory_iff.2 ⟨place, mode, h.stat hstat⟩

/-! ## Making directories -/

/-- A new directory is where its path leads, and has its mode where the mask takes nothing away. -/
theorem mkdir_grown (hmode : mode &&& umask = 0) (h : tree.mkdir cwd mode path = .ok after) :
    Grown cwd mode [path] tree after ∧ after.isDirectory cwd path = true := by
  unfold mkdir at h
  split at h
  · cases h
  next target hlocate =>
  split at h
  · cases h
  next hnone =>
  cases h
  rw [hmode, Nat.sub_zero]
  have hself : (tree.add target (.directory mode)).node? target = some (.directory mode) :=
    node?_add_self hnone
  have hstat : (tree.add target (.directory mode)).stat true cwd path =
      .ok (target, .directory mode) := by
    refine stat_eq_ok.2 ⟨locate_congr true hlocate (fun _ => node?_add_of_ne) ?_ ?_ ?_, hself⟩
    · intro _ hdirectory
      rw [hnone] at hdirectory
      cases hdirectory
    · intro _ hlink
      rw [hnone] at hlink
      cases hlink
    · intro _ hlink
      rw [hself] at hlink
      cases hlink
  refine ⟨⟨?_, ?_⟩, isDirectory_iff.2 ⟨target, mode, hstat⟩⟩
  · intro place node hnode
    have hne : place ≠ target := by
      rintro rfl
      rw [hnone] at hnode
      cases hnode
    rwa [node?_add_of_ne hne]
  · intro place node hnode hplace
    by_cases heq : place = target
    · subst heq
      exact ⟨path, List.mem_singleton_self path, hstat⟩
    · rw [node?_add_of_ne heq, hplace] at hnode
      cases hnode

/-- The path leads to a directory, or there is nothing above it that could be missing. -/
def Founded (tree : FileTree) (cwd : Place) (path : List Char) : Prop :=
  tree.isDirectory cwd path = true ∨ path = [] ∨ Path.parent? path = none

/-- What a climb along some paths comes to: the paths that it passes are left for later, and it
    stops at one below which all the others can be made. -/
def Climbed (cwd : Place) (mode : Nat) (tree : FileTree) (paths pending : List (List Char))
    (after : FileTree) (later : List (List Char)) : Prop :=
  Grown cwd mode paths tree after ∧ ∃ passed rest, paths = passed ++ rest ∧
    later = passed.reverse ++ pending ∧ ∀ path ∈ rest.head?, after.Founded cwd path

theorem climbed_stop {above pending : List (List Char)} (h : Grown cwd mode [path] tree after)
    (hend : after.Founded cwd path) :
    Climbed cwd mode tree (path :: above) pending after pending := by
  refine ⟨h.mono (by simp), [], path :: above, rfl, rfl, ?_⟩
  rintro _ ⟨⟩
  exact hend

theorem climb_grown {pending later : List (List Char)} (hmode : mode &&& umask = 0)
    (h : tree.climb cwd mode paths pending = .ok (after, later)) :
    Climbed cwd mode tree paths pending after later := by
  induction paths generalizing pending with
  | nil =>
    cases h
    exact ⟨.refl, [], [], rfl, rfl, fun _ hpath => nomatch hpath⟩
  | cons path above ih =>
    rw [climb] at h
    split_ifs at h with htop
    · cases h
      exact climbed_stop .refl (.inr (by simpa using htop))
    cases hmake : tree.mkdir cwd mode path with
    | ok made =>
      rw [hmake] at h
      cases h
      obtain ⟨hgrown, hdirectory⟩ := mkdir_grown hmode hmake
      exact climbed_stop hgrown (.inl hdirectory)
    | error error =>
      simp only [hmake] at h
      split_ifs at h with hmissing hthere
      · obtain ⟨hgrown, passed, rest, rfl, rfl, hend⟩ := ih h
        refine ⟨hgrown.mono fun _ => List.mem_cons_of_mem path, path :: passed, rest, rfl, ?_, hend⟩
        rw [List.reverse_cons, List.append_assoc, List.singleton_append]
      · cases h
        exact climbed_stop .refl (.inl hthere.2)

/-- Going down, every path that is passed is a directory from then on. -/
def Descended (cwd : Place) (mode : Nat) (tree : FileTree) (paths : List (List Char))
    (outcome : Except IoError Unit × FileTree) : Prop :=
  Grown cwd mode paths tree outcome.2 ∧
    (outcome.1 = .ok () → ∀ path ∈ paths, outcome.2.isDirectory cwd path = true)

theorem Descended.cons {made : FileTree} {outcome : Except IoError Unit × FileTree}
    (hgrown : Grown cwd mode [path] tree made) (hdirectory : made.isDirectory cwd path = true)
    (h : Descended cwd mode made paths outcome) :
    Descended cwd mode tree (path :: paths) outcome := by
  obtain ⟨hbelow, hall⟩ := h
  refine ⟨(hgrown.mono (by simp)).trans (hbelow.mono fun _ => List.mem_cons_of_mem path), ?_⟩
  intro hok other hother
  rcases List.mem_cons.1 hother with rfl | hother
  · exact hbelow.isDirectory hdirectory
  · exact hall hok other hother

theorem descend_grown (cwd : Place) (hmode : mode &&& umask = 0) (paths : List (List Char))
    (tree : FileTree) : Descended cwd mode tree paths (tree.descend cwd mode paths) := by
  induction paths generalizing tree with
  | nil => exact ⟨.refl, fun _ _ hpath => nomatch hpath⟩
  | cons path below ih =>
    rw [descend]
    cases hmake : tree.mkdir cwd mode path with
    | ok made =>
      obtain ⟨hgrown, hdirectory⟩ := mkdir_grown hmode hmake
      exact .cons hgrown hdirectory (ih made)
    | error error =>
      dsimp only
      split_ifs with hthere
      · exact .cons .refl hthere.2 (ih tree)
      · exact ⟨.refl, fun h => nomatch h⟩

theorem ancestors_eq_cons (path : List Char) : ∃ above, Path.ancestors path = path :: above := by
  rw [Path.ancestors, Path.ancestors.loop]
  split
  · exact ⟨_, rfl⟩
  · exact ⟨_, rfl⟩

/-- **Making a directory.**  What is there stays as it is; new are only directories of the given
    mode at the path and at paths above it; and after a success the path leads to a directory, if
    there is a path above it. -/
theorem mkdirAll_grown (cwd : Place) (hmode : mode &&& umask = 0) (path : List Char)
    (tree : FileTree) :
    Grown cwd mode (Path.ancestors path) tree (tree.mkdirAll cwd mode path).2 ∧
      ((tree.mkdirAll cwd mode path).1 = .ok () →
        (tree.mkdirAll cwd mode path).2.Founded cwd path) := by
  rw [mkdirAll]
  cases hclimb : tree.climb cwd mode (Path.ancestors path) [] with
  | error error => exact ⟨.refl, fun h => nomatch h⟩
  | ok reached =>
    obtain ⟨middle, pending⟩ := reached
    obtain ⟨hup, passed, rest, hsplit, rfl, hend⟩ := climb_grown hmode hclimb
    rw [List.append_nil]
    obtain ⟨hdown, hall⟩ := descend_grown cwd hmode passed.reverse middle
    have hgrown : Grown cwd mode (Path.ancestors path) middle
        (middle.descend cwd mode passed.reverse).2 := by
      refine hdown.mono fun path hpath => ?_
      rw [hsplit]
      exact List.mem_append_left rest (List.mem_reverse.1 hpath)
    refine ⟨hup.trans hgrown, fun hok => ?_⟩
    obtain ⟨above, habove⟩ := ancestors_eq_cons path
    rw [habove] at hsplit
    -- either the climb stopped at the path itself, or the way down ends there
    cases passed with
    | nil =>
      have hhead : path ∈ rest.head? := by
        rw [← List.nil_append rest, ← hsplit]
        rfl
      exact (hend path hhead).imp_left hgrown.isDirectory
    | cons _ passed =>
      cases hsplit
      exact .inl (hall hok path (by simp))

/-- What a path leads to, and is no directory, is in the way: nothing is made then. -/
theorem mkdirAll_of_stat (hpath : path ≠ []) (hparent : Path.parent? path ≠ none)
    (hstat : tree.stat false cwd path = .ok (place, node))
    (hdirectory : tree.isDirectory cwd path = false) :
    tree.mkdirAll cwd mode path = (.error alreadyThere, tree) := by
  obtain ⟨hlocate, hnode⟩ := stat_eq_ok.1 hstat
  have hmake : tree.mkdir cwd mode path = .error alreadyThere := by
    rw [mkdir, hlocate]
    simp only [hnode]
  obtain ⟨above, habove⟩ := ancestors_eq_cons path
  have htop : ¬ (path = [] ∨ (Path.parent? path).isNone = true) := by
    simpa [hpath] using hparent
  have hmissing : alreadyThere.kind ≠ .notFound := by decide
  rw [mkdirAll, habove, climb, if_neg htop, hmake]
  simp [hmissing, hdirectory]

/-- What can be made once the directory above it is made, is made with it. -/
theorem mkdirAll_of_parent {up : List Char} {above : List (List Char)} {made : FileTree}
    (habove : Path.ancestors path = path :: up :: above)
    (hpath : path ≠ [] ∧ Path.parent? path ≠ none) (hup : up ≠ [] ∧ Path.parent? up ≠ none)
    (hmissing : tree.mkdir cwd mode path = .error noEntry)
    (hmade : tree.mkdir cwd mode up = .ok made) (hafter : made.mkdir cwd mode path = .ok after) :
    tree.mkdirAll cwd mode path = (.ok (), after) := by
  have hclimb : tree.climb cwd mode (Path.ancestors path) [] = .ok (made, [path]) := by
    have hkind : noEntry.kind = .notFound := rfl
    simp [habove, climb, hpath, hup, hmissing, hkind, hmade]
  rw [mkdirAll, hclimb]
  simp only [descend, hafter]

end MountControl.Host.FileTree
