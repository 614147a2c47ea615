/-
  MountControl — services that contend for one socket file.

  Any number of services have been given the same path.  They make their
  calls one after another, in any order, and each that listens may begin to
  stop at any time.

  * `Phase.step_of_owned`: a service that finds somebody listening at the
    path changes nothing;
  * `Contest.Orderly.turn`: so who listens owns the file, unless the file was
    bound while another was about to remove it;
  * `owned_unless_clash`: so it is in every run without such a clash, and each
    clash can leave a service without its file;
  * `unowned_after_clash`: clashes happen.
-/
import MountControl.Proofs.Host.FileTree
import MountControl.Service.SocketFile

namespace MountControl.Service

open Host (FileTree IoError Node Place)

/-! ## Contests -/

/-- Services that have been given the same path: the files, and how far each service has come. -/
structure Contest (n : Nat) where
  tree : FileTree
  phases : Fin n → Phase

/-- What may happen next: a service makes its next call, or one that listens begins to stop. -/
inductive Contest.Turn (n : Nat)
  | call (service : Fin n)
  | stop (service : Fin n)
  deriving DecidableEq, Repr

/-- Nobody has made a call yet. -/
def Contest.start (n : Nat) (tree : FileTree) : Contest n := ⟨tree, fun _ => .inspecting⟩

section
variable {n : Nat} (cwd : Place) (path : List Char)

/-- The contest after a turn. -/
def Contest.turn (contest : Contest n) : Contest.Turn n → Contest n
  | .call service =>
    let (phase, tree, _) := (contest.phases service).step cwd path service contest.tree
    ⟨tree, Function.update contest.phases service phase⟩
  | .stop service =>
    if contest.phases service = .bound then
      ⟨contest.tree, Function.update contest.phases service .closing⟩
    else contest

/-- The contest after some turns. -/
def Contest.run (contest : Contest n) (turns : List (Contest.Turn n)) : Contest n :=
  turns.foldl (Contest.turn cwd path) contest

/-- Does the service listen? -/
def Phase.Listens (phase : Phase) : Prop := phase = .bound ∨ phase = .closing

/-- Is the service about to remove the file at the path? -/
def Phase.Removes (phase : Phase) : Prop := phase = .removing ∨ phase = .unlinking

/-- The file at the path is the socket on which the service listens. -/
def Contest.Owns (contest : Contest n) (service : Fin n) : Prop :=
  ∃ place, contest.tree.stat false cwd path = .ok (place, .socket (some service))

/-- The next call of `service` binds the file while `other` is about to remove it. -/
def Contest.Clash (contest : Contest n) (service other : Fin n) : Prop :=
  contest.phases service = .binding ∧
    (contest.turn cwd path (.call service)).phases service = .bound ∧
    (contest.phases other).Removes

/-- A run in which no turn is a clash. -/
def Contest.Peaceful : Contest n → List (Contest.Turn n) → Prop
  | _, [] => True
  | contest, turn :: turns =>
    (∀ service other, turn = .call service → ¬ contest.Clash cwd path service other) ∧
      Peaceful (contest.turn cwd path turn) turns

end

section
variable {n : Nat} {cwd : Place} {path : List Char} {contest : Contest n} {service other : Fin n}

theorem Contest.phases_call_self :
    (contest.turn cwd path (.call service)).phases service =
      ((contest.phases service).step cwd path service contest.tree).1 :=
  Function.update_self ..

theorem Contest.phases_call_of_ne (h : other ≠ service) :
    (contest.turn cwd path (.call service)).phases other = contest.phases other :=
  Function.update_of_ne h ..

theorem Contest.tree_call :
    (contest.turn cwd path (.call service)).tree =
      ((contest.phases service).step cwd path service contest.tree).2.1 := rfl

theorem Contest.Owns.unique (h : contest.Owns cwd path service)
    (hother : contest.Owns cwd path other) : service = other := by
  obtain ⟨place, h⟩ := h
  obtain ⟨_, hother⟩ := hother
  have heq := h.symm.trans hother
  simp only [Except.ok.injEq, Prod.mk.injEq, Node.socket.injEq, Option.some.injEq] at heq
  exact Fin.ext heq.2

end

/-! ## Single calls -/

section
variable {cwd : Place} {path : List Char} {service : Nat} {phase : Phase} {tree : FileTree}

theorem kind_of_checkSocketPath {error : IoError} (h : Host.checkSocketPath path = .error error) :
    error.kind = .invalidInput := by
  by_cases hlong : Host.maxSocketPathBytes <
      Text.byteLength path + if path.head? = some '\x00' then 0 else 1
  · simp only [Host.checkSocketPath, hlong, if_true, Except.error.injEq] at h
    rw [← h]
    rfl
  · simp only [Host.checkSocketPath, hlong, if_false] at h
    cases h

/-- **A service that finds somebody listening at the path changes nothing**, and does not come to
    listen or to remove the file. -/
theorem Phase.step_of_owned {place : Place} {owner : Nat}
    (h : tree.stat false cwd path = .ok (place, .socket (some owner)))
    (hremoves : ¬ phase.Removes) (hclosing : phase ≠ .closing) :
    (phase.step cwd path service tree).2.1 = tree ∧
      ((phase.step cwd path service tree).1 = phase ∨
        ¬ (phase.step cwd path service tree).1.Listens ∧
          ¬ (phase.step cwd path service tree).1.Removes) := by
  obtain ⟨hlocate, hnode⟩ := FileTree.stat_eq_ok.1 h
  cases phase with
  | inspecting => simp [step, h, isSocket, Listens, Removes]
  | connecting =>
    have hconnect := FileTree.connect_of_stat h
    cases hlength : Host.checkSocketPath path with
    | ok _ =>
      rw [hlength] at hconnect
      simp [step, hconnect, Except.map, Listens, Removes]
    | error error =>
      have hkind := kind_of_checkSocketPath hlength
      rw [hlength] at hconnect
      simp [step, hconnect, Except.map, hkind, Listens, Removes]
  | binding =>
    cases hlength : Host.checkSocketPath path with
    | ok _ =>
      have hne : path.isEmpty = false := by
        cases path with
        | nil => cases hlocate
        | cons => rfl
      simp [step, FileTree.listen, hlength, hne, hlocate, hnode, Listens, Removes]
    | error error => simp [step, FileTree.listen, hlength, Listens, Removes]
  | removing => exact absurd (.inl rfl) hremoves
  | unlinking => exact absurd (.inr rfl) hremoves
  | closing => exact absurd rfl hclosing
  | bound | released | failed => exact ⟨rfl, .inl rfl⟩

/-- A service that comes to listen was about to, and puts its socket where nothing was. -/
theorem Phase.step_listens (hpath : path ≠ []) (hbefore : ¬ phase.Listens)
    (hafter : (phase.step cwd path service tree).1.Listens) :
    phase = .binding ∧ (phase.step cwd path service tree).1 = .bound ∧
      ∃ place, tree.locate false cwd path = .ok place ∧ tree.node? place = none ∧
        (phase.step cwd path service tree).2.1 = tree.add place (.socket (some service)) := by
  have hne : path.isEmpty = false := by simpa using hpath
  cases phase with
  | binding =>
    cases hlisten : tree.listen cwd service path with
    | error error =>
      simp only [step, hlisten] at hafter
      rcases hafter with h | h <;> cases h
    | ok after =>
      have hstep : Phase.binding.step cwd path service tree = (.bound, after, []) := by
        simp only [step, hlisten]
      rw [hstep]
      refine ⟨rfl, rfl, ?_⟩
      rw [FileTree.listen, hne] at hlisten
      split at hlisten
      · cases hlisten
      · simp only [Bool.false_eq_true, if_false] at hlisten
        split at hlisten
        · cases hlisten
        · next place hlocate =>
          split at hlisten
          · cases hlisten
          · cases hlisten
            exact ⟨place, hlocate, ‹_›, rfl⟩
  | bound => exact absurd (.inl rfl) hbefore
  | closing => exact absurd (.inr rfl) hbefore
  | released | failed => exact absurd hafter hbefore
  | inspecting | connecting | removing | unlinking =>
    exfalso
    simp only [step] at hafter
    repeat' split at hafter
    all_goals rcases hafter with h | h <;> cases h

/-- A service that is about to remove the file removes any socket. -/
theorem Phase.step_removes {place : Place} {listener : Option Nat} (hremoves : phase.Removes)
    (h : tree.stat false cwd path = .ok (place, .socket listener)) :
    (phase.step cwd path service tree).2.1 = tree.erase place := by
  have hunlink : tree.unlink cwd path = .ok (tree.erase place) := by rw [FileTree.unlink, h]
  rcases hremoves with rfl | rfl <;> simp only [step, hunlink]

end

/-! ## Whole runs -/

section
variable {n : Nat} {cwd : Place} {path : List Char} {contest : Contest n} {service other : Fin n}

/-- Who listens owns the file, and then nobody is about to remove it. -/
structure Contest.Orderly (cwd : Place) (path : List Char) (contest : Contest n) : Prop where
  owned : ∀ service, (contest.phases service).Listens → contest.Owns cwd path service
  safe : ∀ service other, (contest.phases service).Listens → ¬ (contest.phases other).Removes

theorem Contest.Orderly.unique (h : contest.Orderly cwd path)
    (hservice : (contest.phases service).Listens) (hother : (contest.phases other).Listens) :
    service = other :=
  (h.owned service hservice).unique (h.owned other hother)

/-- While a service listens, no call of another changes any file. -/
theorem Contest.Orderly.step_other (h : contest.Orderly cwd path)
    (hservice : (contest.phases service).Listens) (hne : other ≠ service) :
    (contest.turn cwd path (.call other)).tree = contest.tree ∧
      ((contest.turn cwd path (.call other)).phases other = contest.phases other ∨
        ¬ ((contest.turn cwd path (.call other)).phases other).Listens ∧
          ¬ ((contest.turn cwd path (.call other)).phases other).Removes) := by
  obtain ⟨place, hstat⟩ := h.owned service hservice
  have hclosing : contest.phases other ≠ .closing := fun hclosing =>
    hne (h.unique (.inr hclosing) hservice)
  rw [Contest.phases_call_self, Contest.tree_call]
  exact Phase.step_of_owned hstat (h.safe service other hservice) hclosing

theorem Contest.Orderly.start (tree : FileTree) : (Contest.start n tree).Orderly cwd path where
  owned _ h := by rcases h with h | h <;> cases h
  safe _ _ h := by rcases h with h | h <;> cases h

/-- The service that listens makes a call: it goes on to listen, or nobody does any more. -/
theorem Contest.Orderly.call_self (h : contest.Orderly cwd path)
    (hlistens : (contest.phases service).Listens) :
    (contest.turn cwd path (.call service)).Orderly cwd path := by
  rcases hlistens with hbound | hclosing
  · have hsame : contest.turn cwd path (.call service) = contest := by
      simp only [turn, hbound, Phase.step]
      rw [← hbound, Function.update_eq_self]
    rw [hsame]
    exact h
  · have hnobody : ∀ other, ¬ ((contest.turn cwd path (.call service)).phases other).Listens := by
      intro other hother
      by_cases hne : other = service
      · rw [hne, phases_call_self, hclosing] at hother
        rcases hother with h | h <;> cases h
      · rw [phases_call_of_ne hne] at hother
        exact hne (h.unique hother (.inr hclosing))
    exact ⟨fun other hother => absurd hother (hnobody other),
      fun other _ hother => absurd hother (hnobody other)⟩

/-- Another makes a call while a service listens. -/
theorem Contest.Orderly.call_other (h : contest.Orderly cwd path)
    (hlistens : (contest.phases service).Listens) (hne : other ≠ service) :
    (contest.turn cwd path (.call other)).Orderly cwd path := by
  obtain ⟨htree, hphase⟩ := h.step_other hlistens hne
  have hother : ¬ (contest.phases other).Listens := fun hother => hne (h.unique hother hlistens)
  have hback : ∀ third, ((contest.turn cwd path (.call other)).phases third).Listens →
      (contest.phases third).Listens := by
    intro third hthird
    by_cases heq : third = other
    · subst heq
      rcases hphase with hsame | ⟨hnot, -⟩
      · rwa [hsame] at hthird
      · exact absurd hthird hnot
    · rwa [phases_call_of_ne heq] at hthird
  refine ⟨fun third hthird => ?_, fun third fourth hthird hremoves => ?_⟩
  · have howns := h.owned third (hback third hthird)
    rw [Owns, htree]
    exact howns
  · by_cases heq : fourth = other
    · subst heq
      rcases hphase with hsame | ⟨-, hnot⟩
      · rw [hsame] at hremoves
        exact h.safe third fourth (hback third hthird) hremoves
      · exact hnot hremoves
    · rw [phases_call_of_ne heq] at hremoves
      exact h.safe third fourth (hback third hthird) hremoves

/-- A call while nobody listens: if the service comes to listen, it owns the file. -/
theorem Contest.Orderly.call_first (hpath : path ≠ [])
    (hnobody : ∀ other, ¬ (contest.phases other).Listens)
    (hpeace : ∀ other, ¬ contest.Clash cwd path service other) :
    (contest.turn cwd path (.call service)).Orderly cwd path := by
  have honly : ∀ other, ((contest.turn cwd path (.call service)).phases other).Listens →
      other = service := by
    intro other hother
    by_contra hne
    rw [phases_call_of_ne hne] at hother
    exact hnobody other hother
  refine ⟨fun other hother => ?_, fun other third hother hremoves => ?_⟩
  · obtain rfl := honly other hother
    rw [phases_call_self] at hother
    obtain ⟨-, -, place, hlocate, hnone, htree⟩ :=
      Phase.step_listens hpath (hnobody other) hother
    refine ⟨place, ?_⟩
    rw [tree_call, htree]
    exact FileTree.stat_add hlocate hnone
  · obtain rfl := honly other hother
    have hphase := hother
    rw [phases_call_self] at hphase
    obtain ⟨hbinding, hbound, -⟩ := Phase.step_listens hpath (hnobody other) hphase
    by_cases hne : third = other
    · rw [hne, phases_call_self, hbound] at hremoves
      rcases hremoves with h | h <;> cases h
    · rw [phases_call_of_ne hne] at hremoves
      exact hpeace third ⟨hbinding, phases_call_self.trans hbound, hremoves⟩

/-- **A turn that is no clash keeps order.** -/
theorem Contest.Orderly.turn (hpath : path ≠ []) (h : contest.Orderly cwd path)
    {turn : Contest.Turn n}
    (hpeace : ∀ service other, turn = .call service → ¬ contest.Clash cwd path service other) :
    (contest.turn cwd path turn).Orderly cwd path := by
  cases turn with
  | call service =>
    by_cases hlistens : ∃ listener, (contest.phases listener).Listens
    · obtain ⟨listener, hlistens⟩ := hlistens
      by_cases hne : service = listener
      · exact hne ▸ h.call_self hlistens
      · exact h.call_other hlistens hne
    · exact .call_first hpath (not_exists.1 hlistens) fun other => hpeace service other rfl
  | stop service =>
    rw [Contest.turn]
    split
    next hbound =>
      have hback : ∀ other,
          (Function.update contest.phases service .closing other).Listens →
            (contest.phases other).Listens := by
        intro other hother
        by_cases hne : other = service
        · exact hne ▸ .inl hbound
        · rwa [Function.update_of_ne hne] at hother
      refine ⟨fun other hother => h.owned other (hback other hother),
        fun other third hother (hremoves :
          (Function.update contest.phases service .closing third).Removes) => ?_⟩
      by_cases hne : third = service
      · rw [hne, Function.update_self] at hremoves
        rcases hremoves with h | h <;> cases h
      · rw [Function.update_of_ne hne] at hremoves
        exact h.safe other third (hback other hother) hremoves
    next => exact h

theorem Contest.Orderly.run (hpath : path ≠ []) {turns : List (Contest.Turn n)}
    (h : contest.Orderly cwd path) (hpeace : contest.Peaceful cwd path turns) :
    (contest.run cwd path turns).Orderly cwd path := by
  induction turns generalizing contest with
  | nil => exact h
  | cons turn turns ih =>
    obtain ⟨hturn, hlater⟩ := hpeace
    exact ih (h.turn hpath hturn) hlater

/-- What a clash leads to: the other's next call takes away the file of a service that listens. -/
theorem Contest.Clash.unowned (hpath : path ≠ []) (h : contest.Clash cwd path service other) :
    let after := (contest.turn cwd path (.call service)).turn cwd path (.call other)
    after.phases service = .bound ∧ after.tree = contest.tree ∧
      after.tree.stat false cwd path = .error Host.noEntry := by
  intro after
  obtain ⟨hbinding, hbound, hremoves⟩ := h
  have hne : service ≠ other := by
    rintro rfl
    rw [hbinding] at hremoves
    rcases hremoves with h | h <;> cases h
  have hbefore : ¬ (contest.phases service).Listens := by
    rw [hbinding]
    rintro (h | h) <;> cases h
  have hafter : ((contest.phases service).step cwd path service contest.tree).1.Listens :=
    .inl (phases_call_self.symm.trans hbound)
  obtain ⟨-, -, place, hlocate, hnone, htree⟩ := Phase.step_listens hpath hbefore hafter
  have hstat : (contest.turn cwd path (.call service)).tree.stat false cwd path =
      .ok (place, .socket (some service)) := by
    rw [tree_call, htree]
    exact FileTree.stat_add hlocate hnone
  have hremoves' : ((contest.turn cwd path (.call service)).phases other).Removes := by
    rwa [phases_call_of_ne hne.symm]
  have hback : after.tree = contest.tree := by
    rw [tree_call, Phase.step_removes hremoves' hstat, tree_call, htree, FileTree.erase_add hnone]
  refine ⟨(phases_call_of_ne hne).trans hbound, hback, ?_⟩
  rw [hback, FileTree.stat, hlocate]
  simp only [hnone]

end

/-- **Who listens owns its file**, unless the file was bound while another service was about to
    remove it: then it is the only one that listens, and no call of another changes any file.  Each
    time the file is bound so, the other's next call can take it away. -/
theorem owned_unless_clash {n : Nat} {cwd : Place} {path : List Char} (hpath : path ≠ [])
    (tree : FileTree) {turns : List (Contest.Turn n)}
    (hpeace : (Contest.start n tree).Peaceful cwd path turns) :
    let contest := (Contest.start n tree).run cwd path turns
    (∀ service, (contest.phases service).Listens → contest.Owns cwd path service) ∧
    (∀ service other, (contest.phases service).Listens → (contest.phases other).Listens →
      service = other) ∧
    (∀ service other, (contest.phases service).Listens → other ≠ service →
      (contest.turn cwd path (.call other)).tree = contest.tree) ∧
    ∀ service other, contest.Clash cwd path service other →
      let after := (contest.turn cwd path (.call service)).turn cwd path (.call other)
      after.phases service = .bound ∧ ¬ after.Owns cwd path service := by
  intro contest
  have horderly : contest.Orderly cwd path := (Contest.Orderly.start tree).run hpath hpeace
  refine ⟨horderly.owned, fun service other => horderly.unique,
    fun service other hservice hne => (horderly.step_other hservice hne).1,
    fun service other hclash => ?_⟩
  obtain ⟨hbound, -, hgone⟩ := hclash.unowned hpath
  refine ⟨hbound, ?_⟩
  rintro ⟨place, howns⟩
  rw [hgone] at howns
  cases howns

/-- A service replaces the file that a dead one has left, and a third finds it listening. -/
theorem owned_unless_clash_replaced :
    let contest := (Contest.start 2 ⟨[([['d']], .socket none)]⟩).run [] "/d".toList
      [.call 0, .call 0, .call 0, .call 0, .call 1, .call 1]
    contest.Owns [] "/d".toList 0 ∧ contest.phases 1 = .failed (.stale .inUse) := by
  have hspells : FileTree.Spells ['/', 'd'] [['d']] := by decide
  have hname : FileTree.LeadsDown ['d'] := by decide
  have hrefused : Host.connectionRefused.kind = .connectionRefused := rfl
  have hpath : Host.checkSocketPath ['/', 'd'] = .ok () := rfl
  have hpeace : (Contest.start 2 ⟨[([['d']], .socket none)]⟩).Peaceful [] "/d".toList
      [.call 0, .call 0, .call 0, .call 0, .call 1, .call 1] := by
    simp [Contest.start, Contest.Peaceful, Contest.Clash, Contest.turn, Phase.step, Phase.Removes,
      isSocket, FileTree.stat, FileTree.locate_below_root, hspells, hname, FileTree.node?,
      FileTree.connect, hpath, hrefused, FileTree.unlink, FileTree.erase, FileTree.listen,
      FileTree.add]
  obtain ⟨howned, -⟩ := owned_unless_clash (by decide) _ hpeace
  refine ⟨howned 0 (.inl ?_), ?_⟩
  all_goals
    simp [Contest.start, Contest.run, Contest.turn, Phase.step, isSocket, FileTree.stat,
      FileTree.locate_below_root, hspells, hname, FileTree.node?, FileTree.connect, hpath,
      hrefused, FileTree.unlink, FileTree.erase, FileTree.listen, FileTree.add]

/-- One service stops, another replaces its file before it is removed: the file of the second is
    removed.  Two services find the file of a dead one: both come to listen, and the file is only
    one's.  Where the path is empty, services listen without any file. -/
theorem unowned_after_clash :
    let restart := (Contest.start 2 ⟨[]⟩).run [] "/d".toList
      [.call 0, .call 0, .stop 0, .call 0, .call 1, .call 1, .call 1, .call 1, .call 0]
    let stale := (Contest.start 2 ⟨[([['d']], .socket none)]⟩).run [] "/d".toList
      [.call 0, .call 0, .call 1, .call 1, .call 1, .call 1, .call 0, .call 0]
    let unnamed := (Contest.start 2 ⟨[]⟩).run [] [] [.call 0, .call 0, .call 1, .call 1]
    (restart.phases 1 = .bound ∧ restart.tree = ⟨[]⟩) ∧
      (stale.phases 0 = .bound ∧ stale.phases 1 = .bound ∧
        stale.tree = ⟨[([['d']], .socket (some 0))]⟩) ∧
      (unnamed.phases 0 = .bound ∧ unnamed.phases 1 = .bound ∧ unnamed.tree = ⟨[]⟩) := by
  have hspells : FileTree.Spells ['/', 'd'] [['d']] := by decide
  have hname : FileTree.LeadsDown ['d'] := by decide
  have hnowhere {tree : FileTree} {follow : Bool} :
      tree.locate follow [] [] = .error Host.noEntry := rfl
  have hmissing : Host.noEntry.kind = .notFound := rfl
  have hrefused : Host.connectionRefused.kind = .connectionRefused := rfl
  have hpath : Host.checkSocketPath ['/', 'd'] = .ok () := rfl
  have hunnamed : Host.checkSocketPath [] = .ok () := rfl
  refine ⟨?_, ?_, ?_⟩
  · simp [Contest.start, Contest.run, Contest.turn, Phase.step, isSocket, FileTree.stat,
      FileTree.locate_below_root, hspells, hname, FileTree.node?, hmissing, FileTree.connect, hpath,
      hrefused, FileTree.unlink, FileTree.erase, FileTree.listen, FileTree.add, FileTree.hangUp]
  · simp [Contest.start, Contest.run, Contest.turn, Phase.step, isSocket, FileTree.stat,
      FileTree.locate_below_root, hspells, hname, FileTree.node?, FileTree.connect, hpath,
      hrefused, FileTree.unlink, FileTree.erase, FileTree.listen, FileTree.add]
  · simp [Contest.start, Contest.run, Contest.turn, Phase.step, FileTree.stat, hnowhere, hmissing,
      FileTree.listen, hunnamed]

end MountControl.Service
