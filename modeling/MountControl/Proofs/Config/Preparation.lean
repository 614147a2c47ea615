/-
  MountControl — the directory of a socket is prepared without harm.

  `Endpoint.prepare` asks first whether the directory is there, following
  links, and then makes what is missing of it.

  * `Path.parent?_parent?`: a parent that has no parent itself is the root,
    so it is there and is never made.
  * `prepare_grown`: whatever becomes of it, preparing only adds directories
    that are open to their owner only.
  * `directory_prepared`: so nothing is lost on the way; a success leaves a
    directory in which a second call finds nothing to do, and what is in the
    way of the directory, were it a link to nowhere, stays there.
-/
import MountControl.Config.Preparation
import MountControl.Proofs.Host.Growth

namespace MountControl.Host.Path

theorem tidyReversed_tidyReversed (text : List Char) :
    tidyReversed (tidyReversed text) = tidyReversed text := by
  fun_induction tidyReversed text with
  | case1 => rw [tidyReversed]
  | case2 rest _ ih => exact ih
  | case3 rest ih => exact ih
  | case4 text hroot hslash hdot =>
    rw [tidyReversed]
    · exact hroot
    · exact hslash
    · exact hdot

/-- Only the root is a parent with no parent of its own. -/
theorem parent?_parent? {path up : List Char} (h : parent? path = some up) (hne : up ≠ [])
    (htop : parent? up = none) : up = ['/'] := by
  have htidy : (tidy up).reverse = up.reverse := by
    rw [parent?] at h
    split at h
    · cases h
    · cases h
    · cases h
      rw [tidy, List.reverse_reverse, List.reverse_reverse, tidyReversed_tidyReversed]
  rw [parent?, htidy] at htop
  split at htop
  · next hnil => exact absurd (List.reverse_eq_nil_iff.1 hnil) hne
  · next hroot => exact List.reverse_eq_iff.1 hroot
  · cases htop

end MountControl.Host.Path

namespace MountControl.Config

open Host (FileTree Node Path.ancestors Path.parent? Path.parent?_parent? Place)
open Host.FileTree (Grown LeadsDown Spells isDirectory_iff locate_of_spells mkdir mkdirAll_grown
  mkdirAll_of_parent mkdirAll_of_stat stat stat_eq_ok walk walk_last walk_link walk_link_back
  walk_name walk_none)

variable {path : String} {directory : List Char} {cwd : Place} {tree : FileTree}

theorem socketDirectory?_eq_some :
    socketDirectory? path = some directory ↔
      Path.parent? path.toList = some directory ∧ directory ≠ [] := by
  simp [socketDirectory?, Option.filter_eq_some_iff]

theorem socketDirectory?_eq_none :
    socketDirectory? path = none ↔ ∀ directory ∈ Path.parent? path.toList, directory = [] := by
  simp [socketDirectory?, Option.filter_eq_none_iff]

/-- The root is always there. -/
theorem isDirectory_root : tree.isDirectory cwd ['/'] = true := by
  have hroot : tree.node? [] = some (.directory 0o755) := rfl
  have hlocate : tree.locate true cwd ['/'] = .ok [] := by
    have hcomponents : Host.Path.components ['/'] = [[], []] := rfl
    have hlength : ¬ Host.maxPathBytes ≤ Text.byteLength ['/'] := by decide
    simp [FileTree.locate, hlength, hcomponents, Host.Path.isAbsolute, FileTree.walk, hroot]
  exact isDirectory_iff.2 ⟨[], _, stat_eq_ok.2 ⟨hlocate, hroot⟩⟩

/-- The directory of a socket has a parent, unless it is there already. -/
theorem parent?_ne_none (h : socketDirectory? path = some directory)
    (hmissing : tree.isDirectory cwd directory = false) : Path.parent? directory ≠ none := by
  intro htop
  obtain ⟨hparent, hne⟩ := socketDirectory?_eq_some.1 h
  rw [Path.parent?_parent? hparent hne htop, isDirectory_root] at hmissing
  cases hmissing

/-- Where a directory is already, there is nothing to do. -/
theorem prepare_of_isDirectory (h : socketDirectory? path = some directory)
    (hthere : tree.isDirectory cwd directory = true) :
    (Endpoint.unix path).prepare cwd tree = (.ok (), tree) := by
  simp only [Endpoint.prepare, h, hthere, if_true]

theorem mapError_eq_ok {ε ε' α : Type} {result : Except ε α} {f : ε → ε'} {value : α} :
    result.mapError f = .ok value ↔ result = .ok value := by
  cases result <;> simp [Except.mapError]

/-- Something else is there. -/
theorem prepare_of_has (h : socketDirectory? path = some directory)
    (hother : tree.isDirectory cwd directory = false) (hhas : tree.has cwd directory = true) :
    (Endpoint.unix path).prepare cwd tree =
      (.error (.notADirectory (String.ofList directory)), tree) := by
  simp [Endpoint.prepare, h, hother, hhas]

/-- Nothing is there that the system can see. -/
theorem prepare_of_not_has (h : socketDirectory? path = some directory)
    (hother : tree.isDirectory cwd directory = false) (hhas : tree.has cwd directory = false) :
    (Endpoint.unix path).prepare cwd tree =
      ((tree.mkdirAll cwd privateMode directory).1.mapError
        (.createDirectory (String.ofList directory)),
       (tree.mkdirAll cwd privateMode directory).2) := by
  simp only [Endpoint.prepare, h, hother, hhas, Bool.false_eq_true, if_false]
  split <;> simp [*, Except.mapError]

/-- The way ends before the directory, and it can be made. -/
theorem prepare_of_missing {after : FileTree} {error : Host.IoError}
    (h : socketDirectory? path = some directory)
    (hmissing : tree.locate true cwd directory = .error error)
    (hmade : tree.mkdirAll cwd privateMode directory = (.ok (), after)) :
    (Endpoint.unix path).prepare cwd tree = (.ok (), after) := by
  have hstat : tree.stat true cwd directory = .error error := by rw [FileTree.stat, hmissing]
  have hother : tree.isDirectory cwd directory = false := by rw [FileTree.isDirectory, hstat]
  have hhas : tree.has cwd directory = false := by
    rw [FileTree.has, hstat]
    rfl
  rw [prepare_of_not_has h hother hhas, hmade]
  rfl

/-- Preparing only adds directories that are open to their owner, at the directory of the socket
    and above it; after a success the directory is there. -/
theorem prepare_grown (cwd : Place) (tree : FileTree)
    (h : socketDirectory? path = some directory) :
    Grown cwd privateMode (Path.ancestors directory) tree
        ((Endpoint.unix path).prepare cwd tree).2 ∧
      (((Endpoint.unix path).prepare cwd tree).1 = .ok () →
        ((Endpoint.unix path).prepare cwd tree).2.isDirectory cwd directory = true) := by
  have hmode : privateMode &&& Host.umask = 0 := by decide
  by_cases hthere : tree.isDirectory cwd directory = true
  · rw [prepare_of_isDirectory h hthere]
    exact ⟨.refl, fun _ => hthere⟩
  rw [Bool.not_eq_true] at hthere
  by_cases hhas : tree.has cwd directory = true
  · rw [prepare_of_has h hthere hhas]
    exact ⟨.refl, fun hok => nomatch hok⟩
  rw [Bool.not_eq_true] at hhas
  obtain ⟨hgrown, hmade⟩ := mkdirAll_grown cwd hmode directory tree
  have htree : ((Endpoint.unix path).prepare cwd tree).2 =
      (tree.mkdirAll cwd privateMode directory).2 := by
    rw [prepare_of_not_has h hthere hhas]
  rw [htree]
  refine ⟨hgrown, fun hok => ?_⟩
  have hdone : (tree.mkdirAll cwd privateMode directory).1 = .ok () := by
    rw [prepare_of_not_has h hthere hhas] at hok
    exact mapError_eq_ok.1 hok
  rcases hmade hdone with hmade | hnil | htop
  · exact hmade
  · exact absurd hnil (socketDirectory?_eq_some.1 h).2
  · exact absurd htop (parent?_ne_none h hthere)

/-- Nothing is changed where the directory's path leads to something else, even if that is a link
    which leads nowhere. -/
theorem prepare_of_stat {follow : Bool} {place : Place} {node : Node}
    (h : socketDirectory? path = some directory)
    (hstat : tree.stat follow cwd directory = .ok (place, node))
    (hother : tree.isDirectory cwd directory = false) :
    (Endpoint.unix path).prepare cwd tree =
      (.error (if tree.has cwd directory then .notADirectory (String.ofList directory)
        else .createDirectory (String.ofList directory) Host.alreadyThere), tree) := by
  by_cases hhas : tree.has cwd directory = true
  · rw [prepare_of_has h hother hhas, if_pos hhas]
  rw [if_neg hhas]
  rw [Bool.not_eq_true] at hhas
  cases follow with
  | true =>
    rw [FileTree.has, hstat] at hhas
    cases hhas
  | false =>
    rw [prepare_of_not_has h hother hhas, mkdirAll_of_stat (socketDirectory?_eq_some.1 h).2
      (parent?_ne_none h hother) hstat hother]
    rfl

/-- **Preparing the directory of a socket.**  Everything that was there is there as it was; what is
    new is a directory open to its owner only, at the socket's directory or above it.  A success
    leaves a directory there, and a second call then changes nothing.  Something else in the place
    of the directory, and a path without a directory, are errors that leave the tree alone. -/
theorem directory_prepared {after : FileTree} {result : Except PreparationError Unit}
    (h : (Endpoint.unix path).prepare cwd tree = (result, after)) :
    (∀ place node, tree.node? place = some node → after.node? place = some node) ∧
      (∀ place node, after.node? place = some node → tree.node? place = none →
        node = .directory 0o700 ∧ ∃ directory, Path.parent? path.toList = some directory ∧
          ∃ above ∈ Path.ancestors directory, after.stat true cwd above = .ok (place, node)) ∧
      (result = .ok () → ∃ directory, Path.parent? path.toList = some directory ∧ directory ≠ [] ∧
        (∃ place mode, after.stat true cwd directory = .ok (place, .directory mode)) ∧
        (Endpoint.unix path).prepare cwd after = (.ok (), after)) ∧
      (∀ directory follow place node, Path.parent? path.toList = some directory →
        tree.stat follow cwd directory = .ok (place, node) →
        (∀ place mode, tree.stat true cwd directory ≠ .ok (place, .directory mode)) →
        result = .error (if tree.has cwd directory then .notADirectory (String.ofList directory)
          else .createDirectory (String.ofList directory) Host.alreadyThere) ∧ after = tree) ∧
      ((∀ directory, Path.parent? path.toList = some directory → directory = []) →
        result = .error (.missingParent path) ∧ after = tree) := by
  cases hdirectory : socketDirectory? path with
  | none =>
    have hnil := socketDirectory?_eq_none.1 hdirectory
    simp only [Endpoint.prepare, hdirectory] at h
    cases h
    refine ⟨fun _ _ => id, ?_, (fun hok => nomatch hok), ?_, fun _ => ⟨rfl, rfl⟩⟩
    · intro place node hnode hnone
      rw [hnone] at hnode
      cases hnode
    · intro directory follow place node hparent hstat
      cases hnil directory hparent
      cases (stat_eq_ok.1 hstat).1
  | some directory =>
    obtain ⟨hparent, hne⟩ := socketDirectory?_eq_some.1 hdirectory
    obtain ⟨hgrown, hmade⟩ := prepare_grown cwd tree hdirectory
    rw [h] at hgrown hmade
    refine ⟨fun _ _ => hgrown.kept, ?_, ?_, ?_, ?_⟩
    · intro place node hnode hnone
      obtain ⟨above, habove, hstat⟩ := hgrown.new hnode hnone
      cases hnode.symm.trans (stat_eq_ok.1 hstat).2
      exact ⟨rfl, directory, hparent, above, habove, hstat⟩
    · intro hok
      exact ⟨directory, hparent, hne, isDirectory_iff.1 (hmade hok),
        prepare_of_isDirectory hdirectory (hmade hok)⟩
    · intro directory' follow place node hparent' hstat hother
      cases hparent.symm.trans hparent'
      have hno : tree.isDirectory cwd directory = false := by
        rw [← Bool.not_eq_true, isDirectory_iff]
        rintro ⟨place, mode, hthere⟩
        exact hother place mode hthere
      rw [prepare_of_stat hdirectory hstat hno] at h
      cases h
      exact ⟨rfl, rfl⟩
    · intro hnil
      exact absurd (hnil directory hparent) hne

/-- One socket behind a link to a directory, where two directories are made, and one behind a link
    to nowhere. -/
theorem directory_prepared_behind_links :
    let tree : FileTree := ⟨[(["run".toList], .directory 0o755),
      (["run".toList, "up".toList], .link "/run".toList),
      (["run".toList, "gone".toList], .link "nowhere".toList)]⟩
    let after := (tree.add ["run".toList, "b".toList] (.directory 0o700)).add
      ["run".toList, "b".toList, "m".toList] (.directory 0o700)
    (Endpoint.unix "/run/up/b/m/d.sock").prepare [] tree = (.ok (), after) ∧
      (Endpoint.unix "/run/up/b/m/d.sock").prepare [] after = (.ok (), after) ∧
      (∃ error, (Endpoint.unix "/run/gone/d.sock").prepare [] tree = (.error error, tree)) := by
  intro tree after
  let made := tree.add ["run".toList, "b".toList] (.directory 0o700)
  have hrun : LeadsDown "run".toList := by decide +kernel
  have hdirectory : tree.node? ["run".toList] = some (.directory 0o755) := rfl
  have hback {tree : FileTree} {follow : Bool} {rest : List (List Char)}
      (hdirectory : tree.node? ["run".toList] = some (.directory 0o755))
      (hup : tree.node? ["run".toList, "up".toList] = some (.link "/run".toList)) :
      tree.walk follow Host.maxLinks [] ("run".toList :: "up".toList :: "b".toList :: rest) =
        tree.walk follow (Host.maxLinks - 1) ["run".toList] ("b".toList :: rest) :=
    walk_link_back hrun (by decide +kernel) hdirectory hup (by decide +kernel)
  have hb : Spells "/run/up/b".toList ["run".toList, "up".toList, "b".toList] := by
    decide +kernel
  have hm : Spells "/run/up/b/m".toList
      ["run".toList, "up".toList, "b".toList, "m".toList] := by decide +kernel
  have hmissing (follow : Bool) :
      tree.locate follow [] "/run/up/b/m".toList = .error Host.noEntry := by
    rw [locate_of_spells hm, hback rfl rfl, walk_name (by decide) hdirectory (by rintro _ ⟨⟩)]
    exact walk_none rfl
  have hfails : tree.mkdir [] privateMode "/run/up/b/m".toList = .error Host.noEntry := by
    rw [mkdir, hmissing]
  have hmakes : tree.mkdir [] privateMode "/run/up/b".toList = .ok made := by
    rw [mkdir, locate_of_spells hb, hback rfl rfl, walk_last (by decide) hdirectory]
    rfl
  have hends : made.mkdir [] privateMode "/run/up/b/m".toList = .ok after := by
    have hdirectory : made.node? ["run".toList] = some (.directory 0o755) := rfl
    have hinside : made.node? (["run".toList] ++ ["b".toList]) = some (.directory 0o700) := rfl
    rw [mkdir, locate_of_spells hm, hback rfl rfl,
      walk_name (by decide) hdirectory (by rintro _ ⟨⟩), walk_last (by decide) hinside]
    rfl
  have hmade : (Endpoint.unix "/run/up/b/m/d.sock").prepare [] tree = (.ok (), after) := by
    have habove : Path.ancestors "/run/up/b/m".toList = "/run/up/b/m".toList ::
        "/run/up/b".toList :: ["/run/up".toList, "/run".toList, "/".toList] := by decide +kernel
    exact prepare_of_missing (by decide +kernel) (hmissing true)
      (mkdirAll_of_parent habove (by decide +kernel) (by decide +kernel) hfails hmakes hends)
  obtain ⟨_, _, hdone, _⟩ := directory_prepared hmade
  obtain ⟨_, _, _, _, hagain⟩ := hdone rfl
  have hparent : Path.parent? "/run/gone/d.sock".toList = some "/run/gone".toList := by
    decide +kernel
  have hgone : Spells "/run/gone".toList ["run".toList, "gone".toList] := by decide +kernel
  have hlink : tree.stat false [] "/run/gone".toList =
      .ok (["run".toList, "gone".toList], .link "nowhere".toList) := by
    refine stat_eq_ok.2 ⟨?_, rfl⟩
    rw [locate_of_spells hgone, walk_name hrun rfl (by rintro _ ⟨⟩)]
    exact walk_last (by decide +kernel) hdirectory
  have hnowhere : tree.stat true [] "/run/gone".toList = .error Host.noEntry := by
    have hrelative : ¬ Host.Path.isAbsolute "nowhere".toList = true := by decide
    have hnames : Host.Path.components "nowhere".toList = ["nowhere".toList] := by decide +kernel
    rw [stat, locate_of_spells hgone, walk_name hrun rfl (by rintro _ ⟨⟩), List.nil_append,
      Host.maxLinks, walk_link (by decide +kernel) hdirectory rfl (.inr rfl), if_neg hrelative,
      hnames, List.append_nil, walk_name (by decide +kernel) hdirectory (by rintro _ ⟨⟩), walk]
    rfl
  cases hprepare : (Endpoint.unix "/run/gone/d.sock").prepare [] tree with
  | mk result other =>
    obtain ⟨_, _, _, hway, _⟩ := directory_prepared hprepare
    have hother : ∀ place mode, tree.stat true [] "/run/gone".toList ≠
        .ok (place, .directory mode) := by
      intro place mode hthere
      rw [hnowhere] at hthere
      cases hthere
    obtain ⟨rfl, rfl⟩ := hway _ false _ _ hparent hlink hother
    exact ⟨hmade, hagain, _, rfl⟩

end MountControl.Config
