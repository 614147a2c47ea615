/-
  MountControl — where paths lead, and what is put there.

  An absolute path leads from the root along its names (`locate_of_spells`),
  each of which leads down from a directory, unless a link leads elsewhere
  (`walk_name`, `walk_link`).

  A node that is put at the end of a path does not change where the path
  leads, as long as it is no directory and no link (`walk_congr`).  So a
  socket is found where it was put (`stat_add`), and who listens on it is
  reached there (`connect_of_stat`).
-/
import MountControl.Host.FileTree
import Mathlib.Data.List.TakeWhile

namespace MountControl.Host.FileTree

variable {tree : FileTree} {place target : Place} {node : Node}

/-! ## Ways by name -/

/-- A name that leads down from a directory: none that leads back or nowhere, and none too long. -/
def LeadsDown (name : List Char) : Prop :=
  name ∉ [[], ['.'], ['.', '.']] ∧ Text.byteLength name ≤ maxNameBytes

instance (name : List Char) : Decidable (LeadsDown name) := inferInstanceAs (Decidable (_ ∧ _))

/-- An absolute path, not too long, that consists of these names. -/
def Spells (path : List Char) (names : List (List Char)) : Prop :=
  '\x00' ∉ path ∧ Text.byteLength path < maxPathBytes ∧ Path.isAbsolute path = true ∧
    Path.components path = [] :: names

instance (path : List Char) (names : List (List Char)) : Decidable (Spells path names) :=
  inferInstanceAs (Decidable (_ ∧ _ ∧ _ ∧ _))

section
variable {follow : Bool} {links mode : Nat} {name : List Char} {rest : List (List Char)}

theorem walk_none (hplace : tree.node? place = none) :
    tree.walk follow links place (name :: rest) = .error noEntry := by
  rw [walk, hplace]

theorem walk_nil (hplace : tree.node? place = some (.directory mode)) :
    tree.walk follow links place ([] :: rest) = tree.walk follow links place rest := by
  rw [walk, hplace]
  simp only [true_or, if_true]

/-- From a directory a name leads to what has that name there, unless that is a link. -/
theorem walk_name (hname : LeadsDown name) (hplace : tree.node? place = some (.directory mode))
    (hlink : ∀ text, tree.node? (place ++ [name]) ≠ some (.link text)) :
    tree.walk follow links place (name :: rest) =
      tree.walk follow links (place ++ [name]) rest := by
  obtain ⟨hdots, hshort⟩ := hname
  simp only [List.mem_cons, List.not_mem_nil, or_false, not_or] at hdots
  rw [walk, hplace]
  simp only [hdots, Nat.not_lt.2 hshort, or_self, if_false]

/-- Where links are not followed, the last name leads to what has that name there, be it a link. -/
theorem walk_last (hname : LeadsDown name) (hplace : tree.node? place = some (.directory mode)) :
    tree.walk false links place [name] = .ok (place ++ [name]) := by
  obtain ⟨hdots, hshort⟩ := hname
  simp only [List.mem_cons, List.not_mem_nil, or_false, not_or] at hdots
  rw [walk, hplace]
  simp only [hdots, Nat.not_lt.2 hshort, or_self, and_self, if_true, if_false]
  split
  next => rfl
  next => rw [walk]

/-- Any other link leads on along its own names, and then along those behind it. -/
theorem walk_link {text : List Char} (hname : LeadsDown name)
    (hplace : tree.node? place = some (.directory mode))
    (hlink : tree.node? (place ++ [name]) = some (.link text)) (hrest : rest ≠ [] ∨ follow = true) :
    tree.walk follow (links + 1) place (name :: rest) =
      tree.walk follow links (if Path.isAbsolute text then [] else place)
        (Path.components text ++ rest) := by
  obtain ⟨hdots, hshort⟩ := hname
  simp only [List.mem_cons, List.not_mem_nil, or_false, not_or] at hdots
  have hon : ¬ (rest = [] ∧ follow = false) := by
    rintro ⟨rfl, rfl⟩
    simp at hrest
  rw [walk, hplace]
  simp only [hdots, Nat.not_lt.2 hshort, hlink, hon, or_self, if_false, Nat.add_sub_cancel]
  exact dif_neg (Nat.succ_ne_zero links)

/-- An absolute path leads where its names lead from the root. -/
theorem locate_of_spells {cwd : Place} {path : List Char} {names : List (List Char)}
    (h : Spells path names) :
    tree.locate follow cwd path = tree.walk follow maxLinks [] names := by
  obtain ⟨hnul, hshort, habsolute, hnames⟩ := h
  have hne : path ≠ [] := by
    rintro rfl
    cases habsolute
  have hroot : tree.node? [] = some (.directory 0o755) := rfl
  rw [locate, if_neg hnul, if_neg hne, if_neg (Nat.not_le.2 hshort), if_pos habsolute, hnames,
    walk_nil hroot]

/-- A link to the directory of the root that it is in leads back there. -/
theorem walk_link_back {above next text : List Char} (habove : LeadsDown above)
    (hname : LeadsDown name) (hdirectory : tree.node? [above] = some (.directory mode))
    (hlink : tree.node? [above, name] = some (.link text)) (htext : Spells text [above]) :
    tree.walk follow (links + 1) [] (above :: name :: next :: rest) =
      tree.walk follow links [above] (next :: rest) := by
  obtain ⟨-, -, habsolute, hnames⟩ := htext
  have hroot : tree.node? [] = some (.directory 0o755) := rfl
  have hdown : ∀ text, tree.node? ([] ++ [above]) ≠ some (.link text) := by
    intro text hother
    cases hdirectory.symm.trans hother
  calc tree.walk follow (links + 1) [] (above :: name :: next :: rest)
    _ = tree.walk follow (links + 1) [above] (name :: next :: rest) := walk_name habove hroot hdown
    _ = tree.walk follow links [] ([] :: above :: next :: rest) := by
      rw [walk_link hname hdirectory hlink (.inl (List.cons_ne_nil next rest)), if_pos habsolute,
        hnames]
      rfl
    _ = tree.walk follow links [above] (next :: rest) := by
      rw [walk_nil hroot]
      exact walk_name habove hroot hdown

theorem locate_below_root {cwd : Place} (hspells : Spells ('/' :: name) [name])
    (hname : LeadsDown name) (hlink : ∀ text, tree.node? [name] ≠ some (.link text)) :
    tree.locate follow cwd ('/' :: name) = .ok [name] := by
  have hroot : tree.node? [] = some (.directory 0o755) := rfl
  rw [locate_of_spells hspells, walk_name hname hroot hlink, List.nil_append, walk]

end

/-! ## A new node -/

theorem node?_add_of_ne (h : place ≠ target) :
    (tree.add target node).node? place = tree.node? place := by
  have hne : ¬ target = place := fun heq => h heq.symm
  simp only [node?, add, List.find?_append, List.find?_cons, List.find?_nil, hne, decide_false,
    Option.or_none]

theorem ne_nil_of_node?_eq_none (h : tree.node? place = none) : place ≠ [] := by
  rintro rfl
  cases h

theorem find?_eq_none (h : tree.node? place = none) : tree.nodes.find? (·.1 = place) = none := by
  rw [node?, if_neg (ne_nil_of_node?_eq_none h)] at h
  exact Option.map_eq_none_iff.1 h

theorem node?_add_self (h : tree.node? target = none) :
    (tree.add target node).node? target = some node := by
  have hfind := find?_eq_none h
  rw [node?, if_neg (ne_nil_of_node?_eq_none h), add, List.find?_append, hfind]
  simp

theorem erase_add (h : tree.node? target = none) : (tree.add target node).erase target = tree := by
  have hfind := find?_eq_none h
  have hkeep : tree.nodes.filter (·.1 ≠ target) = tree.nodes := by
    rw [List.filter_eq_self]
    intro entry hentry
    simpa using List.find?_eq_none.1 hfind entry hentry
  simp only [erase, add, List.filter_append, hkeep, List.filter_cons, List.filter_nil, ne_eq,
    not_true, decide_false, Bool.false_eq_true, if_false, List.append_nil]

/-- What is at the end of a way does not change where it leads, as long as it is no directory and no
    link; nor does it matter then whether a link there would be followed. -/
theorem walk_congr {other : FileTree} (follow : Bool) {links : Nat} {todo : List (List Char)}
    (h : tree.walk false links place todo = .ok target)
    (hrest : ∀ place ≠ target, other.node? place = tree.node? place)
    (hdirectory : ∀ mode, tree.node? target ≠ some (.directory mode))
    (hlink : ∀ text, tree.node? target ≠ some (.link text))
    (hother : ∀ text, other.node? target ≠ some (.link text)) :
    other.walk follow links place todo = .ok target := by
  have hdirectories : ∀ {place mode}, tree.node? place = some (.directory mode) →
      other.node? place = some (.directory mode) := fun {place mode} hplace =>
    (hrest place fun heq => hdirectory mode (heq ▸ hplace)).trans hplace
  have hlinks : ∀ {place text}, tree.node? place = some (.link text) →
      other.node? place = some (.link text) := fun {place text} hplace =>
    (hrest place fun heq => hlink text (heq ▸ hplace)).trans hplace
  have hnew : ∀ {place text}, other.node? place = some (.link text) →
      tree.node? place = some (.link text) := fun {place text} hplace =>
    (hrest place fun heq => hother text (heq ▸ hplace)).symm.trans hplace
  fun_induction walk tree false links place todo with
  | case1 => rw [walk, h]
  | case2 | case5 | case7 | case10 => cases h
  | case3 links place name rest mode hplace hname ih =>
    rw [walk, hdirectories hplace]
    simp only [hname, if_true]
    exact ih h
  | case4 links place rest mode hplace hname ih =>
    rw [walk, hdirectories hplace]
    simp only [hname, if_true, if_false]
    exact ih h
  | case6 links place name rest mode _ _ _ _ text hnext =>
    -- the way would end at a link
    cases h
    exact absurd hnext (hlink text)
  | case8 links place name rest mode hplace hname hup hlong text hnext hlast hlimit ih =>
    have hrest' : rest ≠ [] := fun heq => hlast ⟨heq, rfl⟩
    rw [walk, hdirectories hplace]
    simp only [hname, hup, hlong, hlinks hnext, hrest', hlimit, false_and, if_false, dite_false]
    exact ih h
  | case9 links place name rest mode hplace hname hup hlong hnext ih =>
    rw [walk, hdirectories hplace]
    simp only [hname, hup, hlong, if_false]
    split
    next text hnode => exact (hnext text (hnew hnode)).elim
    next => exact ih h

section
variable {cwd : Place} {path : List Char}

theorem stat_eq_ok {follow : Bool} :
    tree.stat follow cwd path = .ok (place, node) ↔
      tree.locate follow cwd path = .ok place ∧ tree.node? place = some node := by
  rw [stat]
  constructor
  · intro h
    split at h
    · cases h
    · split at h
      · cases h
      · cases h
        exact ⟨‹_›, ‹_›⟩
  · rintro ⟨hlocate, hnode⟩
    rw [hlocate]
    simp only [hnode]

theorem locate_congr {other : FileTree} (follow : Bool)
    (h : tree.locate false cwd path = .ok target)
    (hrest : ∀ place ≠ target, other.node? place = tree.node? place)
    (hdirectory : ∀ mode, tree.node? target ≠ some (.directory mode))
    (hlink : ∀ text, tree.node? target ≠ some (.link text))
    (hother : ∀ text, other.node? target ≠ some (.link text)) :
    other.locate follow cwd path = .ok target := by
  rw [locate] at h ⊢
  split at h
  · cases h
  · split at h
    · cases h
    · split at h
      · cases h
      · rw [if_neg ‹_›, if_neg ‹_›, if_neg ‹_›]
        exact walk_congr follow h hrest hdirectory hlink hother

/-- A socket that is put where a path leads is found there. -/
theorem stat_add {listener : Option Nat} (h : tree.locate false cwd path = .ok target)
    (hnone : tree.node? target = none) :
    (tree.add target (.socket listener)).stat false cwd path = .ok (target, .socket listener) := by
  have hnode : (tree.add target (.socket listener)).node? target = some (.socket listener) :=
    node?_add_self hnone
  refine stat_eq_ok.2 ⟨locate_congr false h (fun _ => node?_add_of_ne) ?_ ?_ ?_, hnode⟩
  · intro mode hdirectory
    rw [hnone] at hdirectory
    cases hdirectory
  · intro text hlink
    rw [hnone] at hlink
    cases hlink
  · intro text hlink
    rw [hnode] at hlink
    cases hlink

/-- Who listens at a path answers there, unless the path is too long for a socket. -/
theorem connect_of_stat {owner : Nat}
    (h : tree.stat false cwd path = .ok (place, .socket (some owner))) :
    tree.connect cwd path = (checkSocketPath path).map fun _ => owner := by
  obtain ⟨hlocate, hnode⟩ := stat_eq_ok.1 h
  have hstat : tree.stat true cwd path = .ok (place, .socket (some owner)) := by
    refine stat_eq_ok.2 ⟨locate_congr true hlocate (fun _ _ => rfl) ?_ ?_ ?_, hnode⟩
    all_goals
      intro _ hother
      rw [hnode] at hother
      cases hother
  rw [locate] at hlocate
  split at hlocate
  · cases hlocate
  · split at hlocate
    · cases hlocate
    · next hnul hne =>
      have htake : path.takeWhile (· ≠ '\x00') = path := by
        rw [List.takeWhile_eq_self_iff]
        intro c hc
        simpa using fun heq : c = '\x00' => hnul (heq ▸ hc)
      rw [connect, htake]
      cases hlength : checkSocketPath path with
      | error error => rfl
      | ok _ =>
        obtain ⟨c, rest, rfl⟩ := List.exists_cons_of_ne_nil hne
        simp only [hstat, Except.map]

end

end MountControl.Host.FileTree
