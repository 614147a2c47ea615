/-
  MountControl — connections are served in turn.

  The serve loop looks at its flag, accepts, and has what it has accepted
  handled.  What it does in one turn is `Took`, and a run is a course of such
  turns.

  * `Course`: it goes on through idle turns and failures to accept, until the
    flag is set or a connection is not handled well;
  * `Handles`: the handler is called for one connection after another;
  * `Warns`: of failures of one kind in a row, only the first is logged;
  * `connections_served_in_turn` is all of that for every run.
-/
import Mathlib.Data.List.Induction
import MountControl.Proofs.Service.Exchange

namespace MountControl.Service

open Config (Endpoint)
open Host (ErrorKind IoError)

section
variable {κ : Type}

/-! ## What a loop has done -/

/-- What accepting has given. -/
def LoopEffect.accepted? : LoopEffect κ → Option (Accepted κ)
  | .accepted result => some result
  | _ => none

/-- The connection that was handled, and how that has ended. -/
def LoopEffect.handled? : LoopEffect κ → Option (κ × Handled)
  | .handled connection result => some (connection, result)
  | _ => none

/-- Was the hook for faults called? -/
def LoopEffect.isHook : LoopEffect κ → Bool
  | .hooked => true
  | _ => false

/-- The connection that was accepted. -/
def Accepted.connection? : Accepted κ → Option κ
  | .connection taken => some taken
  | _ => none

/-- Has accepting given a connection, or failed? -/
def Accepted.isNews : Accepted κ → Bool
  | .nobody => false
  | _ => true

/-- The kind of a failure to accept. -/
def Accepted.failure? : Accepted κ → Option ErrorKind
  | .failed error => some error.kind
  | _ => none

/-- The kind of the latest failure to accept, if no connection came since. -/
def latestFailure (accepts : List (Accepted κ)) : Option ErrorKind :=
  (accepts.filter Accepted.isNews).getLast?.bind Accepted.failure?

/-- The log event of a failure to accept. -/
def failureNote (error : IoError) : LoopEffect κ :=
  transportEvent .warn "failed to accept a connection" [("error", .shown error.message)]

/-- **Of failures of one kind in a row only the first is logged**: right behind it, and nothing
    else is logged so. -/
structure Warns (earlier effects : List (LoopEffect κ)) : Prop where
  logged : ∀ before error behind, effects = before ++ .accepted (.failed error) :: behind →
    (behind.head? = some (failureNote error) ↔
      latestFailure ((earlier ++ before).filterMap LoopEffect.accepted?) ≠ some error.kind)
  only : ∀ before error behind, effects = before ++ failureNote error :: behind →
    ∃ front failure, before = front ++ [.accepted (.failed failure)] ∧
      failureNote (κ := κ) failure = failureNote error

/-- An effect that is neither a failure to accept nor its log event. -/
def Quiet (effect : LoopEffect κ) : Prop :=
  ∀ error, effect ≠ .accepted (.failed error) ∧ effect ≠ failureNote error

section
variable {earlier effects round : List (LoopEffect κ)}

theorem Warns.of_quiet (h : ∀ effect ∈ effects, Quiet effect) : Warns earlier effects where
  logged := by
    rintro before error behind rfl
    exact absurd rfl (h (.accepted (.failed error)) (by simp) error).1
  only := by
    rintro before error behind rfl
    exact absurd rfl (h (failureNote error) (by simp) error).2

theorem Warns.of_failed (earlier : List (LoopEffect κ)) (error : IoError) :
    Warns earlier (.accepted (.failed error) ::
      if latestFailure (earlier.filterMap LoopEffect.accepted?) = some error.kind then []
      else [failureNote error]) where
  logged := by
    intro before failure behind h
    cases before with
    | nil =>
      cases h
      rw [List.append_nil]
      split <;> simp_all
    | cons first before =>
      obtain ⟨-, h⟩ := List.cons_eq_cons.1 h
      split at h <;> simp [failureNote, transportEvent, List.cons_eq_append_iff] at h
  only := by
    intro before failure behind h
    cases before with
    | nil => cases h
    | cons first before =>
      obtain ⟨rfl, h⟩ := List.cons_eq_cons.1 h
      split at h
      · simp at h
      · obtain ⟨rfl, hnote, -⟩ : before = [] ∧ failureNote failure = failureNote error ∧
            behind = [] := by
          simpa [List.cons_eq_append_iff] using h
        exact ⟨[], error, rfl, hnote.symm⟩

/-- What begins with no log event of a failure may follow. -/
theorem Warns.append (h : Warns earlier effects) (hround : Warns (earlier ++ effects) round)
    (hhead : ∀ error, round.head? ≠ some (failureNote error)) :
    Warns earlier (effects ++ round) where
  logged := by
    intro before error behind heq
    obtain ⟨front, rfl, hback⟩ | ⟨back, rfl, hback⟩ := List.append_eq_append_iff.1 heq
    · rw [← List.append_assoc]
      exact hround.logged front error behind hback
    · cases back with
      | nil =>
        simpa using hround.logged [] error behind hback.symm
      | cons first back =>
        obtain ⟨rfl, rfl⟩ := List.cons_eq_cons.1 hback
        rw [← h.logged before error back rfl]
        cases back with
        | nil => simpa using hhead error
        | cons => rfl
  only := by
    intro before error behind heq
    obtain ⟨front, rfl, hback⟩ | ⟨back, rfl, hback⟩ := List.append_eq_append_iff.1 heq
    · obtain ⟨front, failure, rfl, hnote⟩ := hround.only front error behind hback
      exact ⟨effects ++ front, failure, by simp, hnote⟩
    · cases back with
      | nil => exact absurd (congrArg List.head? hback).symm (hhead error)
      | cons first back =>
        obtain ⟨rfl, rfl⟩ := List.cons_eq_cons.1 hback
        exact h.only before error back rfl

end
end

section
variable {κ τ : Type}

/-- The handler was called for these connections, one after another, with these results; the state
    that it has left. -/
inductive Handles (handle : κ → τ → Handled × τ) (first : τ) : List (κ × Handled) → τ → Prop
  | nothing : Handles handle first [] first
  | next {earlier : List (κ × Handled)} {state after : τ} {connection : κ} {result : Handled} :
      Handles handle first earlier state → handle connection state = (result, after) →
      Handles handle first (earlier ++ [(connection, result)]) after

/-- What accepting has given to a loop. -/
def Loop.accepts (loop : Loop κ τ) : List (Accepted κ) :=
  loop.trace.filterMap LoopEffect.accepted?

/-- What a loop has had handled. -/
def Loop.handled (loop : Loop κ τ) : List (κ × Handled) :=
  loop.trace.filterMap LoopEffect.handled?

/-- How often a loop has called the hook. -/
def Loop.hooks (loop : Loop κ τ) : Nat := loop.trace.countP LoopEffect.isHook

/-! ## A turn -/

/-- What a loop notes when a fault ends it. -/
def stopNotes (number : Nat) : Option Fault → List (LoopEffect κ)
  | none => []
  | some fault =>
    [transportEvent .error "stopping listener after internal fault"
      [("connection", .number number), ("error", .shown fault.message)], .hooked]

/-- What a loop that goes on does in one turn. -/
inductive Took (endpoint : Endpoint) (handle : κ → τ → Handled × τ) (loop after : Loop κ τ) :
    Bool → Accepted κ → Prop
  | closed {accepted : Accepted κ} :
      after.trace = loop.trace ++ [transportEvent .info "control socket closed"
        [("endpoint", .shown endpoint.display), ("connections", .number loop.served)]] →
      after.state = loop.state → after.lastFailure = loop.lastFailure →
      after.ended = some .stopped → Took endpoint handle loop after true accepted
  | idle : after.trace = loop.trace ++ [.accepted .nobody] → after.state = loop.state →
      after.lastFailure = loop.lastFailure → after.ended = none →
      Took endpoint handle loop after false .nobody
  | failed {error : IoError} :
      after.trace = loop.trace ++ .accepted (.failed error) ::
        (if loop.lastFailure = some error.kind then [] else [failureNote error]) →
      after.state = loop.state → after.lastFailure = some error.kind → after.ended = none →
      Took endpoint handle loop after false (.failed error)
  | served {connection : κ} {result : Handled} :
      handle connection loop.state = (result, after.state) →
      after.trace = loop.trace ++ .accepted (.connection connection) ::
        transportEvent .debug "serving connection" [("connection", .number (loop.served + 1))] ::
        .handled connection result :: stopNotes (loop.served + 1) result.fault? →
      after.lastFailure = none → after.ended = result.ending →
      Took endpoint handle loop after false (.connection connection)

section
variable {endpoint : Endpoint} {handle : κ → τ → Handled × τ} {loop after : Loop κ τ}
  {stop : Bool} {accepted : Accepted κ}

theorem turn_took (endpoint : Endpoint) (handle : κ → τ → Handled × τ) (h : loop.ended = none)
    (stop : Bool) (accepted : Accepted κ) :
    Took endpoint handle loop (loop.turn endpoint handle stop accepted) stop accepted := by
  have hgoing : ¬ loop.ended.isSome := by simp [h]
  unfold Loop.turn
  rw [if_neg hgoing]
  cases stop with
  | true => exact .closed rfl rfl rfl rfl
  | false =>
    cases accepted with
    | nobody => exact .idle rfl rfl rfl h
    | failed error =>
      refine .failed ?_ rfl rfl h
      by_cases hkind : loop.lastFailure = some error.kind <;>
        simp [Loop.fail, Loop.note, failureNote, hkind]
    | connection connection =>
      simp only [Bool.false_eq_true, if_false, Loop.serve, Loop.note]
      rcases hhandle : handle connection loop.state with ⟨result, state⟩
      cases result with
      | done => exact .served hhandle (by simp [stopNotes, Handled.fault?]) rfl h
      | stuck => exact .served hhandle (by simp [stopNotes, Handled.fault?]) rfl rfl
      | faulted fault | panicked panic =>
        exact .served hhandle
          (by simp [Loop.serve.stop, Loop.note, stopNotes, Handled.fault?]) rfl rfl

theorem accepted_stopNotes (number : Nat) (fault? : Option Fault) :
    (stopNotes (κ := κ) number fault?).filterMap LoopEffect.accepted? = [] := by
  cases fault? <;> rfl

theorem handled_stopNotes (number : Nat) (fault? : Option Fault) :
    (stopNotes (κ := κ) number fault?).filterMap LoopEffect.handled? = [] := by
  cases fault? <;> rfl

theorem hooks_stopNotes (number : Nat) (fault? : Option Fault) :
    (stopNotes (κ := κ) number fault?).countP LoopEffect.isHook = fault?.toList.length := by
  cases fault? <;> rfl

theorem quiet_stopNotes (number : Nat) (fault? : Option Fault) :
    ∀ effect ∈ stopNotes (κ := κ) number fault?, Quiet effect := by
  cases fault? <;> simp [stopNotes, Quiet, failureNote, transportEvent]

/-- A loop that has seen the flag accepts nothing. -/
theorem Took.accepts_eq (h : Took endpoint handle loop after stop accepted) :
    after.accepts = loop.accepts ++ if stop then [] else [accepted] := by
  unfold Loop.accepts
  cases h with
  | closed htrace => simp [htrace, LoopEffect.accepted?, transportEvent]
  | idle htrace => simp [htrace, LoopEffect.accepted?]
  | failed htrace =>
    rw [htrace]
    split <;> simp [LoopEffect.accepted?, failureNote, transportEvent]
  | served _ htrace =>
    simp [htrace, List.filterMap_cons, LoopEffect.accepted?, transportEvent, accepted_stopNotes]

/-- Nothing is handled, or what was accepted is. -/
theorem Took.handled_cases (h : Took endpoint handle loop after stop accepted) :
    (after.handled = loop.handled ∧ after.hooks = loop.hooks ∧ after.state = loop.state ∧
      (stop = false → accepted.connection? = none) ∧
      after.ended = if stop then some .stopped else none) ∨
    ∃ connection result, stop = false ∧ accepted = .connection connection ∧
      handle connection loop.state = (result, after.state) ∧
      after.handled = loop.handled ++ [(connection, result)] ∧
      after.hooks = loop.hooks + result.fault?.toList.length ∧ after.ended = result.ending := by
  unfold Loop.handled Loop.hooks
  cases h with
  | closed htrace hstate _ hended =>
    refine .inl ⟨?_, ?_, hstate, nofun, hended⟩
    · simp [htrace, LoopEffect.handled?, transportEvent]
    · simp [htrace, LoopEffect.isHook, transportEvent]
  | idle htrace hstate _ hended =>
    refine .inl ⟨?_, ?_, hstate, fun _ => rfl, hended⟩
    · simp [htrace, LoopEffect.handled?]
    · simp [htrace, LoopEffect.isHook]
  | failed htrace hstate _ hended =>
    refine .inl ⟨?_, ?_, hstate, fun _ => rfl, hended⟩ <;> rw [htrace] <;> split <;>
      simp [LoopEffect.handled?, LoopEffect.isHook, failureNote, transportEvent]
  | @served connection result hhandle htrace _ hended =>
    refine .inr ⟨connection, result, rfl, rfl, hhandle, ?_, ?_, hended⟩
    · simp [htrace, List.filterMap_cons, LoopEffect.handled?, transportEvent, handled_stopNotes]
    · simp [htrace, LoopEffect.isHook, transportEvent, hooks_stopNotes]

/-! ## What every turn keeps -/

/-- The handler gets what is accepted, the memory is right, and so are the warnings. -/
structure Loop.InTurn (handle : κ → τ → Handled × τ) (first : τ) (loop : Loop κ τ) : Prop where
  taken : loop.handled.map Prod.fst = loop.accepts.filterMap Accepted.connection?
  calls : Handles handle first loop.handled loop.state
  latest : loop.lastFailure = latestFailure loop.accepts
  warns : Warns [] loop.trace

theorem Loop.InTurn.start (endpoint : Endpoint) (handle : κ → τ → Handled × τ) (first : τ) :
    (Loop.start endpoint first).InTurn handle first where
  taken := rfl
  calls := .nothing
  latest := rfl
  warns := .of_quiet (by simp [Quiet, Loop.start, failureNote, transportEvent])

/-- **Every turn keeps it.** -/
theorem Loop.InTurn.turn {first : τ} (h : loop.InTurn handle first)
    (ht : Took endpoint handle loop after stop accepted) : after.InTurn handle first where
  taken := by
    rw [ht.accepts_eq, List.filterMap_append, ← h.taken]
    obtain ⟨hsame, -, -, hnone, -⟩ | ⟨connection, result, rfl, rfl, -, hhandled, -⟩ :=
      ht.handled_cases
    · rw [hsame]
      cases stop <;> simp [hnone]
    · simp [hhandled, Accepted.connection?]
  calls := by
    obtain ⟨hsame, -, hstate, -⟩ | ⟨connection, result, -, -, hhandle, hhandled, -⟩ :=
      ht.handled_cases
    · rw [hsame, hstate]
      exact h.calls
    · rw [hhandled]
      exact h.calls.next hhandle
  latest := by
    rw [ht.accepts_eq]
    cases ht with
    | closed _ _ hfailure => simp [hfailure, h.latest]
    | idle _ _ hfailure => simp [hfailure, h.latest, latestFailure, Accepted.isNews]
    | failed _ _ hfailure => simp [hfailure, latestFailure, Accepted.isNews, Accepted.failure?]
    | served _ _ hfailure => simp [hfailure, latestFailure, Accepted.isNews, Accepted.failure?]
  warns := by
    cases ht with
    | closed htrace | idle htrace =>
      rw [htrace]
      refine h.warns.append (.of_quiet ?_) ?_ <;> simp [Quiet, failureNote, transportEvent]
    | failed htrace =>
      rw [htrace, h.latest]
      exact h.warns.append (.of_failed loop.trace _) (by simp [failureNote, transportEvent])
    | served _ htrace =>
      rw [htrace]
      refine h.warns.append (.of_quiet ?_) (by simp [failureNote, transportEvent])
      simp only [List.forall_mem_cons]
      refine ⟨?_, ?_, ?_, quiet_stopNotes _ _⟩ <;> simp [Quiet, failureNote, transportEvent]

/-! ## The course of a run -/

/-- How a run has gone: it goes on, it has seen the flag, or a connection has ended it. -/
inductive Course : List (Bool × Accepted κ) → Loop κ τ → Prop
  | going {turns : List (Bool × Accepted κ)} {loop : Loop κ τ} :
      (∀ turn ∈ turns, turn.1 = false) → loop.accepts = turns.map Prod.snd →
      (∀ pair ∈ loop.handled, pair.2 = .done) → loop.hooks = 0 → loop.ended = none →
      Course turns loop
  | stopped {before later : List (Bool × Accepted κ)} {accepted : Accepted κ} {loop : Loop κ τ} :
      (∀ turn ∈ before, turn.1 = false) → loop.accepts = before.map Prod.snd →
      (∀ pair ∈ loop.handled, pair.2 = .done) → loop.hooks = 0 → loop.ended = some .stopped →
      Course (before ++ (true, accepted) :: later) loop
  | failed {before later : List (Bool × Accepted κ)} {connection : κ} {result : Handled}
      {front : List (κ × Handled)} {loop : Loop κ τ} :
      (∀ turn ∈ before, turn.1 = false) →
      loop.accepts = before.map Prod.snd ++ [.connection connection] →
      loop.handled = front ++ [(connection, result)] → (∀ pair ∈ front, pair.2 = .done) →
      result ≠ .done → loop.hooks = result.fault?.toList.length → loop.ended = result.ending →
      Course (before ++ (false, .connection connection) :: later) loop

/-- **One turn more.** -/
theorem Course.turn {turns : List (Bool × Accepted κ)} (h : Course turns loop)
    (endpoint : Endpoint) (handle : κ → τ → Handled × τ) (stop : Bool) (accepted : Accepted κ) :
    Course (turns ++ [(stop, accepted)]) (loop.turn endpoint handle stop accepted) := by
  cases h with
  | going hflags haccepts hdone hhooks hended =>
    have ht := turn_took endpoint handle hended stop accepted
    have hnews := ht.accepts_eq
    rw [haccepts] at hnews
    obtain ⟨hsame, hsilent, -, -, hend⟩ |
      ⟨connection, result, rfl, rfl, -, hhandled, hcalled, hend⟩ := ht.handled_cases
    · rw [← hsame] at hdone
      rw [← hsilent] at hhooks
      cases stop with
      | true => exact .stopped hflags (by simpa using hnews) hdone hhooks hend
      | false =>
        refine .going ?_ (by simpa using hnews) hdone hhooks hend
        exact List.forall_mem_append.2 ⟨hflags, by simp⟩
    · rw [hhooks, Nat.zero_add] at hcalled
      by_cases hresult : result = .done
      · -- The connection was handled well, and the loop goes on.
        subst hresult
        refine .going ?_ (by simpa using hnews) ?_ hcalled hend
        · exact List.forall_mem_append.2 ⟨hflags, by simp⟩
        · rw [hhandled]
          exact List.forall_mem_append.2 ⟨hdone, by simp⟩
      · exact .failed hflags hnews hhandled hdone hresult hcalled hend
  | stopped hflags haccepts hdone hhooks hended =>
    rw [turn_of_ended (by simp [hended])]
    simpa using .stopped hflags haccepts hdone hhooks hended
  | @failed before later connection result front _ hflags haccepts hhandled hfront hresult hhooks
      hended =>
    have hover : loop.ended.isSome := by
      rw [hended]
      cases result with
      | done => exact absurd rfl hresult
      | faulted | panicked | stuck => rfl
    rw [turn_of_ended hover]
    simpa using .failed hflags haccepts hhandled hfront hresult hhooks hended

end

theorem run_concat (endpoint : Endpoint) (handle : κ → τ → Handled × τ) (loop : Loop κ τ)
    (turns : List (Bool × Accepted κ)) (turn : Bool × Accepted κ) :
    loop.run endpoint handle (turns ++ [turn]) =
      (loop.run endpoint handle turns).turn endpoint handle turn.1 turn.2 := by
  simp [Loop.run]

/-- **A whole run.** -/
theorem run_course (endpoint : Endpoint) (handle : κ → τ → Handled × τ) (first : τ)
    (turns : List (Bool × Accepted κ)) :
    let loop := (Loop.start endpoint first).run endpoint handle turns
    Course turns loop ∧ loop.InTurn handle first := by
  induction turns using List.reverseRecOn with
  | nil => exact ⟨.going nofun rfl nofun rfl rfl, .start endpoint handle first⟩
  | append_singleton turns turn ih =>
    obtain ⟨hcourse, hkept⟩ := ih
    rw [run_concat]
    refine ⟨hcourse.turn endpoint handle turn.1 turn.2, ?_⟩
    -- a loop that has ended stays as it is
    cases hended : (Loop.run endpoint handle turns (Loop.start endpoint first)).ended with
    | none => exact hkept.turn (turn_took endpoint handle hended turn.1 turn.2)
    | some => rwa [turn_of_ended (by rw [hended]; rfl)]

/-! ## Runs -/

section
variable {turns : List (Bool × Accepted κ)} {loop : Loop κ τ}

/-- What accepting would give before the flag is seen. -/
def offered (turns : List (Bool × Accepted κ)) : List (Accepted κ) :=
  (turns.takeWhile fun turn => !turn.1).map Prod.snd

@[simp] theorem offered_stop (accepted : Accepted κ) (later : List (Bool × Accepted κ)) :
    offered ((true, accepted) :: later) = [] := rfl

@[simp] theorem offered_go (accepted : Accepted κ) (later : List (Bool × Accepted κ)) :
    offered ((false, accepted) :: later) = accepted :: offered later := rfl

theorem offered_append {before : List (Bool × Accepted κ)} (h : ∀ turn ∈ before, turn.1 = false)
    (later : List (Bool × Accepted κ)) :
    offered (before ++ later) = before.map Prod.snd ++ offered later := by
  unfold offered
  rw [List.takeWhile_append_of_pos (by simpa using h), List.map_append]

theorem offered_of_going (h : ∀ turn ∈ turns, turn.1 = false) :
    offered turns = turns.map Prod.snd := by
  simpa [offered] using offered_append h []

theorem Course.accepts_prefix (h : Course turns loop) : loop.accepts <+: offered turns := by
  cases h with
  | going hflags haccepts => simp [offered_of_going hflags, haccepts]
  | stopped hflags haccepts => simp [offered_append hflags, haccepts]
  | failed hflags haccepts => simp [offered_append hflags, haccepts]

/-- Neither idle turns nor failures to accept end a loop. -/
theorem Course.of_done (h : Course turns loop) (hdone : ∀ pair ∈ loop.handled, pair.2 = .done) :
    loop.accepts = offered turns ∧
      loop.ended = if turns.any Prod.fst then some .stopped else none := by
  cases h with
  | going hflags haccepts _ _ hended =>
    refine ⟨by rw [haccepts, offered_of_going hflags], ?_⟩
    rw [hended, if_neg]
    simpa using hflags
  | stopped hflags haccepts _ _ hended =>
    exact ⟨by simp [offered_append hflags, haccepts], by simp [hended]⟩
  | @failed _ _ connection result _ _ _ _ hhandled _ hresult =>
    rw [hhandled] at hdone
    exact absurd (hdone (connection, result) (by simp)) hresult

/-- A connection that is not handled well is the last. -/
theorem Course.of_not_done (h : Course turns loop) {pair : κ × Handled}
    (hpair : pair ∈ loop.handled) (hresult : pair.2 ≠ .done) :
    loop.ended = pair.2.ending ∧ loop.accepts.getLast? = some (.connection pair.1) := by
  cases h with
  | going _ _ hdone => exact absurd (hdone pair hpair) hresult
  | stopped _ _ hdone => exact absurd (hdone pair hpair) hresult
  | failed _ haccepts hhandled hfront _ _ hended =>
    rw [hhandled] at hpair
    obtain hearlier | rfl := List.mem_append.1 hpair |>.imp_right List.mem_singleton.1
    · exact absurd (hfront pair hearlier) hresult
    · exact ⟨hended, by simp [haccepts]⟩

theorem Course.dropLast_done (h : Course turns loop) :
    ∀ pair ∈ loop.handled.dropLast, pair.2 = .done := by
  cases h with
  | going _ _ hdone => exact fun pair hpair => hdone pair (List.dropLast_subset _ hpair)
  | stopped _ _ hdone => exact fun pair hpair => hdone pair (List.dropLast_subset _ hpair)
  | failed _ _ hhandled hfront => simpa [hhandled] using hfront

theorem ending_eq_fault_iff (result : Handled) (fault : Fault) :
    result.ending = some (.fault fault) ↔ result.fault? = some fault := by
  cases result <;> simp [Handled.ending, Handled.fault?]

theorem Course.fault_iff (h : Course turns loop) (fault : Fault) :
    loop.ended = some (.fault fault) ↔ ∃ pair ∈ loop.handled, pair.2.fault? = some fault := by
  have hnone : (∀ pair ∈ loop.handled, pair.2 = .done) →
      ¬∃ pair ∈ loop.handled, pair.2.fault? = some fault := by
    rintro hdone ⟨pair, hpair, hfault⟩
    rw [hdone pair hpair] at hfault
    cases hfault
  cases h with
  | going _ _ hdone _ hended => simpa [hended] using hnone hdone
  | stopped _ _ hdone _ hended => simpa [hended] using hnone hdone
  | @failed _ _ connection result front _ _ _ hhandled hfront _ _ hended =>
    rw [hended, ending_eq_fault_iff]
    constructor
    · exact fun hfault => ⟨(connection, result), by simp [hhandled], hfault⟩
    · rintro ⟨pair, hpair, hfault⟩
      rw [hhandled] at hpair
      obtain hearlier | rfl := List.mem_append.1 hpair |>.imp_right List.mem_singleton.1
      · rw [hfront pair hearlier] at hfault
        cases hfault
      · exact hfault

/-- The hook is called once after a fault, and never else. -/
theorem Course.hooks_eq (h : Course turns loop) :
    ((∃ fault, loop.ended = some (.fault fault)) → loop.hooks = 1) ∧
      ((¬∃ fault, loop.ended = some (.fault fault)) → loop.hooks = 0) := by
  cases h with
  | going _ _ _ hhooks hended => simp [hended, hhooks]
  | stopped _ _ _ hhooks hended => simp [hended, hhooks]
  | @failed _ _ _ result _ _ _ _ _ _ _ hhooks hended =>
    simp only [hended, hhooks, ending_eq_fault_iff]
    cases result.fault? <;> simp

end

/-- **Connections are served in turn.**  What is accepted before the flag is seen is handled, each
    connection once and in order, and only a connection that is not handled well ends that; the
    hook is called once after a fault, and never else; and of failures of one kind in a row the
    first is logged. -/
theorem connections_served_in_turn (endpoint : Endpoint) (handle : κ → τ → Handled × τ)
    (first : τ) (turns : List (Bool × Accepted κ)) :
    let loop := (Loop.start endpoint first).run endpoint handle turns
    loop.handled.map Prod.fst = loop.accepts.filterMap Accepted.connection? ∧
    Handles handle first loop.handled loop.state ∧
    loop.accepts <+: offered turns ∧
    ((∀ pair ∈ loop.handled, pair.2 = .done) → loop.accepts = offered turns ∧
      loop.ended = if turns.any Prod.fst then some .stopped else none) ∧
    (∀ pair ∈ loop.handled, pair.2 ≠ .done →
      loop.ended = pair.2.ending ∧ loop.accepts.getLast? = some (.connection pair.1)) ∧
    (∀ pair ∈ loop.handled.dropLast, pair.2 = .done) ∧
    (∀ fault, loop.ended = some (.fault fault) ↔
      ∃ pair ∈ loop.handled, pair.2.fault? = some fault) ∧
    ((∃ fault, loop.ended = some (.fault fault)) → loop.hooks = 1) ∧
    ((¬∃ fault, loop.ended = some (.fault fault)) → loop.hooks = 0) ∧
    Warns [] loop.trace := by
  intro loop
  obtain ⟨hcourse, htaken, hcalls, -, hwarns⟩ := run_course endpoint handle first turns
  exact ⟨htaken, hcalls, hcourse.accepts_prefix, hcourse.of_done,
    fun pair hpair => hcourse.of_not_done hpair, hcourse.dropLast_done, hcourse.fault_iff,
    hcourse.hooks_eq.1, hcourse.hooks_eq.2, hwarns⟩

end

/-- Accepting fails three times in one way and once in another; idle turns make no difference, a
    connection does.  The handler of the second connection breaks down, and the third stays. -/
theorem connections_served_in_turn_panicking :
    let handle : Nat → List Nat → Handled × List Nat := fun connection seen =>
      (if connection = 2 then .panicked .silent else .done, seen ++ [connection])
    let turns : List (Bool × Accepted Nat) :=
      [.failed (.system 24), .nobody, .failed (.system 24), .failed (.system 12), .connection 1,
        .failed (.system 12), .connection 2, .connection 3].map (false, ·)
    let loop := (Loop.start (.unix "/run/control") []).run (.unix "/run/control") handle turns
    loop.handled = [(1, .done), (2, .panicked .silent)] ∧ loop.state = [1, 2] ∧
      loop.accepts = (offered turns).dropLast ∧
      loop.ended = some (.fault (.ofPanic .silent)) ∧ loop.hooks = 1 ∧
      loop.trace.count (failureNote (.system 24)) = 1 ∧
      loop.trace.count (failureNote (.system 12)) = 2 := by
  intro handle turns loop
  obtain ⟨-, -, -, -, -, -, -, hcalled, -⟩ :=
    connections_served_in_turn (.unix "/run/control") handle [] turns
  have hended : loop.ended = some (.fault (.ofPanic .silent)) := by decide +kernel
  refine ⟨by decide +kernel, by decide +kernel, by decide +kernel, hended, hcalled ⟨_, hended⟩, ?_⟩
  constructor <;> decide +kernel

end MountControl.Service
