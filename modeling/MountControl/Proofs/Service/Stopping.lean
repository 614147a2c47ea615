/-
  MountControl — stopping a process is safe.

  Between two calls on a process anything may happen to it, and each call may
  fail.  `Stopping.After` lists which calls were made when stopping has come
  so far; `Stopping.After.step`: the next call keeps to it, whatever it tells.

  * `Call.verdict?`: what a call tells of the end of a process; stopping
    results in that, and makes no further call;
  * `Outlived`: a process still runs when its time is over;
  * `stops_safely`: a process is asked to end only when it was found running,
    and killed only when it was asked and has outlived its time, each once at
    most; and after its exit was told, it gets no signal.
-/
import MountControl.Service.Child

namespace MountControl.Service

open Host (IoError)
open Volume (InstanceId)

/-! ## What calls tell -/

/-- What a call tells of the end of a process: its exit, or a failure with which stopping cannot go
    on.  That a process has ended before it was killed is none. -/
def Call.verdict? : Call → Option (Except IoError Exit)
  | .polled (.ok exit?) => exit?.map .ok
  | .polled (.error error) => some (.error error)
  | .killed (.error error) => if error.kind = .invalidInput then none else some (.error error)
  | .waited result => some result
  | _ => none

/-- The time that a call tells. -/
def Call.time? : Call → Option Nat
  | .looked time => some time
  | _ => none

/-- What stopping has come to. -/
def Stopping.result? : Stopping → Option (Except IoError Exit)
  | .done result => some result
  | _ => none

/-- With these calls since it was asked to end, a process was found running each time, and was given
    its time from the first look at the clock to the last. -/
structure Outlived (grace : Nat) (calls : List Call) : Prop where
  running : ∀ result, .polled result ∈ calls → result = .ok none
  overdue : ∃ start time, (calls.filterMap Call.time?).head? = some start ∧
    (calls.filterMap Call.time?).getLast? = some time ∧ start + grace ≤ time

/-- **Stopping is safe.**  It results in what a call has told, and this is the last call.  A process
    is asked to end once at most, when it was found running; and killed once at most, when it was
    asked and has outlived its time. -/
structure StopsSafely (grace : Nat) (result : Option (Except IoError Exit)) (calls : List Call) :
    Prop where
  verdict : ∀ verdict, result = some verdict ↔ ∃ call ∈ calls, call.verdict? = some verdict
  last : ∀ call ∈ calls.dropLast, call.verdict? = none
  asked : ∀ sent, .terminated sent ∈ calls → ∃ later,
    calls = .polled (.ok none) :: .terminated sent :: later ∧ ∀ again, .terminated again ∉ later
  killed : ∀ sent, .killed sent ∈ calls → ∃ asked given later,
    calls = .polled (.ok none) :: .terminated asked :: given ++ .killed sent :: later ∧
      Outlived grace given ∧ ∀ again, .killed again ∉ given ++ later

/-! ## Waiting -/

/-- A call that tells nothing new: the process runs, or it is not asked. -/
def Call.IsQuiet : Call → Prop
  | .polled (.ok none) | .looked _ | .logged _ => True
  | _ => False

/-- With these calls since it was asked to end, a process runs; the time that it is given has begun
    at `start`. -/
structure Waiting (start : Nat) (given : List Call) : Prop where
  quiet : ∀ call ∈ given, call.IsQuiet
  started : (given.filterMap Call.time?).head? = some start

section
variable {call : Call} {given more : List Call} {start time grace : Nat}

theorem Call.IsQuiet.verdict? (h : call.IsQuiet) : call.verdict? = none := by
  rcases call with (_ | _ | _) | _ | _ | _ | _ | _ <;> first | rfl | exact h.elim

theorem Call.IsQuiet.running {result : Except IoError (Option Exit)}
    (h : (Call.polled result).IsQuiet) : result = .ok none := by
  rcases result with _ | _ | _ <;> first | rfl | exact h.elim

theorem not_terminated_of_quiet (h : ∀ call ∈ given, call.IsQuiet) (sent : Except IoError Unit) :
    .terminated sent ∉ given := fun hmem => h _ hmem

theorem not_killed_of_quiet (h : ∀ call ∈ given, call.IsQuiet) (sent : Except IoError Unit) :
    .killed sent ∉ given := fun hmem => h _ hmem

theorem quiet_terminationEvents (id : InstanceId) (sent : Except IoError Unit) :
    ∀ call ∈ terminationEvents id sent, call.IsQuiet := by
  rcases sent with error | _
  · rw [terminationEvents]
    split <;> simp [Call.IsQuiet]
  · nofun

theorem time?_terminationEvents (id : InstanceId) (sent : Except IoError Unit) :
    (terminationEvents id sent).filterMap Call.time? = [] := by
  rcases sent with error | _
  · rw [terminationEvents]
    split <;> rfl
  · rfl

/-- Waiting goes on. -/
theorem Waiting.append (h : Waiting start given) (hmore : ∀ call ∈ more, call.IsQuiet) :
    Waiting start (given ++ more) where
  quiet call hcall := (List.mem_append.1 hcall).elim (h.quiet call) (hmore call)
  started := by
    rw [List.filterMap_append, List.head?_append, h.started]
    rfl

/-- When the time is over, the process has outlived it. -/
theorem Waiting.outlived (h : Waiting start given)
    (htime : (given.filterMap Call.time?).getLast? = some time) (hover : start + grace ≤ time) :
    Outlived grace given where
  running _ hmem := (h.quiet _ hmem).running
  overdue := ⟨start, time, h.started, htime, hover⟩

end

/-! ## The calls so far -/

/-- The calls that were made when stopping has come so far. -/
inductive Stopping.After (grace : Nat) : Stopping → List Call → Prop
  | checking : After grace .checking []
  | terminating : After grace .terminating [.polled (.ok none)]
  | granting (asked : Except IoError Unit) {notes : List Call} : (∀ note ∈ notes, note.IsQuiet) →
      notes.filterMap Call.time? = [] →
      After grace .granting (.polled (.ok none) :: .terminated asked :: notes)
  | timing (asked : Except IoError Unit) {start : Nat} {given : List Call} : Waiting start given →
      After grace (.timing (start + grace)) (.polled (.ok none) :: .terminated asked :: given)
  | polling (asked : Except IoError Unit) {start : Nat} {given : List Call} : Waiting start given →
      After grace (.polling (start + grace)) (.polled (.ok none) :: .terminated asked :: given)
  | killing (asked : Except IoError Unit) {given : List Call} : (∀ call ∈ given, call.IsQuiet) →
      Outlived grace given →
      After grace .killing (.polled (.ok none) :: .terminated asked :: given)
  | reaping {sent : Except IoError Unit} {calls : List Call} : After grace .killing calls →
      (Call.killed sent).verdict? = none → After grace .reaping (calls ++ [.killed sent])
  | done {stopping : Stopping} {call : Call} {verdict : Except IoError Exit} {calls : List Call} :
      After grace stopping calls → stopping.result? = none → call.verdict? = some verdict →
      (∀ sent, call = .killed sent → stopping = .killing) →
      After grace (.done verdict) (calls ++ [call])

namespace Stopping.After
variable {σ : Type} {grace : Nat} {stopping : Stopping} {calls : List Call}

/-- **The next call keeps to it**, whatever it tells. -/
theorem step (child : Child σ) (id : InstanceId) (place : σ) (h : After grace stopping calls) :
    After grace (stopping.step child id grace place).1
      (calls ++ (stopping.step child id grace place).2.2) := by
  cases h with
  | checking =>
    rw [Stopping.step]
    rcases child.poll place with ⟨error | _ | exit, place⟩
    · exact .done .checking rfl rfl nofun
    · exact .terminating
    · exact .done .checking rfl rfl nofun
  | terminating =>
    rw [Stopping.step]
    rcases child.terminate place with ⟨sent, place⟩
    exact .granting sent (quiet_terminationEvents id sent) (time?_terminationEvents id sent)
  | @granting asked notes hquiet hnone =>
    rw [Stopping.step]
    rcases child.now place with ⟨start, place⟩
    have hwaiting : Waiting start (notes ++ [.looked start]) :=
      ⟨by simpa [or_imp, forall_and, Call.IsQuiet] using hquiet, by simp [hnone, Call.time?]⟩
    exact .timing asked hwaiting
  | @timing asked start given hwaiting =>
    rw [Stopping.step]
    rcases child.now place with ⟨time, place⟩
    dsimp only
    split
    next => exact .polling asked (hwaiting.append (by simp [Call.IsQuiet]))
    next hover =>
      have hlater : Waiting start (given ++ [.looked time, .logged (ignoredEvent id grace)]) :=
        hwaiting.append (by simp [Call.IsQuiet])
      refine .killing asked hlater.quiet (hlater.outlived ?_ (Nat.le_of_not_lt hover))
      rw [List.filterMap_append, List.getLast?_append]
      rfl
  | polling asked hwaiting =>
    rw [Stopping.step]
    rcases child.poll place with ⟨error | _ | exit, place⟩
    · exact .done (.polling asked hwaiting) rfl rfl nofun
    · exact .timing asked (hwaiting.append (by simp [Call.IsQuiet]))
    · exact .done (.polling asked hwaiting) rfl rfl nofun
  | killing asked hquiet houtlived =>
    have hkilling := After.killing asked hquiet houtlived
    rw [Stopping.step]
    rcases child.kill place with ⟨error | _, place⟩
    · dsimp only
      split
      next hkind => exact .reaping hkilling (if_pos hkind)
      next hkind => exact .done hkilling rfl (if_neg hkind) fun _ _ => rfl
    · exact .reaping hkilling rfl
  | reaping hkilling hsent =>
    rw [Stopping.step]
    rcases child.wait place with ⟨result, place⟩
    exact .done (.reaping hkilling hsent) rfl rfl nofun
  | done hearlier hgoing hverdict hkill =>
    rw [Stopping.step, List.append_nil]
    exact .done hearlier hgoing hverdict hkill

/-- **So do all calls.** -/
theorem steps (child : Child σ) (id : InstanceId) (count : Nat) (place : σ)
    (h : After grace stopping calls) :
    After grace (Stopping.steps child id grace count stopping place).1
      (calls ++ (Stopping.steps child id grace count stopping place).2.2) := by
  induction count generalizing stopping place calls with
  | zero => simpa [Stopping.steps] using h
  | succ count ih =>
    have hnext := h.step child id place
    rw [Stopping.steps]
    rcases hstep : stopping.step child id grace place with ⟨next, place, made⟩
    rw [hstep] at hnext
    dsimp only at hnext ⊢
    split
    next => exact hnext
    next =>
      rw [← List.append_assoc]
      exact ih place hnext

/-! ## Safety -/

section
variable {asked sent : Except IoError Unit} {given : List Call}

theorem verdict?_of_quiet (h : ∀ call ∈ given, call.IsQuiet) :
    ∀ call ∈ Call.polled (.ok none) :: .terminated asked :: given, call.verdict? = none := by
  simp only [List.forall_mem_cons]
  exact ⟨rfl, rfl, fun call hcall => (h call hcall).verdict?⟩

theorem asked_of_quiet (h : ∀ call ∈ given, call.IsQuiet)
    (hsent : .terminated sent ∈ Call.polled (.ok none) :: .terminated asked :: given) :
    ∃ later, Call.polled (.ok none) :: .terminated asked :: given =
      .polled (.ok none) :: .terminated sent :: later ∧ ∀ again, .terminated again ∉ later := by
  obtain rfl : sent = asked := by simpa [not_terminated_of_quiet h] using hsent
  exact ⟨given, rfl, not_terminated_of_quiet h⟩

end

/-- Until it is over, nothing has told of the end. -/
theorem verdict? (h : After grace stopping calls) (hgoing : stopping.result? = none) :
    ∀ call ∈ calls, call.verdict? = none := by
  induction h with
  | checking => nofun
  | terminating => simp [Call.verdict?]
  | granting asked hquiet | killing asked hquiet => exact verdict?_of_quiet hquiet
  | timing asked hwaiting | polling asked hwaiting => exact verdict?_of_quiet hwaiting.quiet
  | reaping _ hsent ih => simpa [or_imp, forall_and, hsent] using ih rfl
  | done => cases hgoing

theorem asked (h : After grace stopping calls) (sent : Except IoError Unit)
    (hsent : .terminated sent ∈ calls) : ∃ later,
      calls = .polled (.ok none) :: .terminated sent :: later ∧
        ∀ again, .terminated again ∉ later := by
  induction h with
  | checking => cases hsent
  | terminating => simp at hsent
  | granting asked hquiet | killing asked hquiet => exact asked_of_quiet hquiet hsent
  | timing asked hwaiting | polling asked hwaiting => exact asked_of_quiet hwaiting.quiet hsent
  | reaping _ _ ih =>
    obtain ⟨later, rfl, honce⟩ := ih (by simpa using hsent)
    exact ⟨later ++ [_], rfl, by simpa using honce⟩
  | @done _ call _ _ _ _ hverdict _ ih =>
    -- asking it to end tells nothing of its end
    have hother : ∀ again, .terminated again ≠ call := by
      rintro again rfl
      cases hverdict
    obtain ⟨later, rfl, honce⟩ := ih (by simpa [hother] using hsent)
    exact ⟨later ++ [call], rfl, by simpa [hother] using honce⟩

theorem not_killed_of_killing (h : After grace .killing calls) (sent : Except IoError Unit) :
    .killed sent ∉ calls := by
  cases h with
  | killing asked hquiet => simpa using not_killed_of_quiet hquiet sent

/-- A process about to be killed was asked to end, and has outlived its time. -/
theorem killed_of_killing (h : After grace .killing calls) (sent : Except IoError Unit) :
    ∃ asked given later,
      calls ++ [.killed sent] =
        .polled (.ok none) :: .terminated asked :: given ++ .killed sent :: later ∧
      Outlived grace given ∧ ∀ again, .killed again ∉ given ++ later := by
  cases h with
  | @killing asked given hquiet houtlived =>
    exact ⟨asked, given, [], rfl, houtlived, by simpa using not_killed_of_quiet hquiet⟩

theorem killed (h : After grace stopping calls) (sent : Except IoError Unit)
    (hsent : .killed sent ∈ calls) : ∃ asked given later,
      calls = .polled (.ok none) :: .terminated asked :: given ++ .killed sent :: later ∧
        Outlived grace given ∧ ∀ again, .killed again ∉ given ++ later := by
  induction h with
  | checking => cases hsent
  | terminating => simp at hsent
  | granting asked hquiet | killing asked hquiet => simp [not_killed_of_quiet hquiet] at hsent
  | timing asked hwaiting | polling asked hwaiting =>
    simp [not_killed_of_quiet hwaiting.quiet] at hsent
  | reaping hkilling =>
    obtain rfl : sent = _ := by simpa [hkilling.not_killed_of_killing] using hsent
    exact hkilling.killed_of_killing sent
  | @done _ call _ calls hearlier _ _ hkill ih =>
    rcases List.mem_append.1 hsent with hbefore | hlast
    · obtain ⟨asked, given, later, rfl, houtlived, honce⟩ := ih hbefore
      refine ⟨asked, given, later ++ [call], by simp, houtlived, fun again hmem => ?_⟩
      rw [← List.append_assoc] at hmem
      rcases List.mem_append.1 hmem with hmem | hmem
      · exact honce again hmem
      · -- a kill that ends stopping is the first
        obtain rfl := hkill again (List.mem_singleton.1 hmem).symm
        exact hearlier.not_killed_of_killing sent hbefore
    · obtain rfl := List.mem_singleton.1 hlast
      obtain rfl := hkill sent rfl
      exact hearlier.killed_of_killing sent

/-- What stopping results in was told by the last call, and by no other. -/
theorem told (h : After grace stopping calls) {verdict : Except IoError Exit}
    (hover : stopping.result? = some verdict) : ∃ before call, calls = before ++ [call] ∧
      (∀ earlier ∈ before, earlier.verdict? = none) ∧ call.verdict? = some verdict := by
  cases h with
  | done hearlier hgoing hverdict =>
    cases hover
    exact ⟨_, _, rfl, hearlier.verdict? hgoing, hverdict⟩
  | _ => cases hover

theorem safe (h : After grace stopping calls) : StopsSafely grace stopping.result? calls where
  verdict verdict := by
    cases hover : stopping.result? with
    | none =>
      refine ⟨nofun, fun ⟨call, hcall, hverdict⟩ => ?_⟩
      rw [h.verdict? hover call hcall] at hverdict
      cases hverdict
    | some result =>
      obtain ⟨before, call, rfl, hbefore, hcall⟩ := h.told hover
      rw [← hcall]
      refine ⟨fun hverdict => ⟨call, by simp, hverdict⟩, fun ⟨other, hother, hverdict⟩ => ?_⟩
      rcases List.mem_append.1 hother with hother | hother
      · rw [hbefore other hother] at hverdict
        cases hverdict
      · rwa [List.mem_singleton.1 hother] at hverdict
  last := by
    cases hover : stopping.result? with
    | none => exact fun call hcall => h.verdict? hover call (List.dropLast_subset _ hcall)
    | some result =>
      obtain ⟨before, call, rfl, hbefore, -⟩ := h.told hover
      rwa [List.dropLast_concat]
  asked := h.asked
  killed := h.killed

end Stopping.After

/-! ## Patience -/

section
variable {σ : Type} (child : Child σ) (id : InstanceId) (grace : Nat)

/-- As long as it is not over, there is a next call. -/
theorem Stopping.step_calls {stopping : Stopping} (h : stopping.result? = none) (place : σ) :
    (stopping.step child id grace place).2.2 ≠ [] := by
  cases stopping with
  | done => cases h
  | terminating | granting | reaping => simp [Stopping.step]
  | checking | polling deadline =>
    rw [Stopping.step]
    rcases child.poll place with ⟨error | _ | exit, place⟩ <;> simp
  | timing deadline =>
    rw [Stopping.step]
    dsimp only
    split <;> simp
  | killing =>
    rw [Stopping.step]
    rcases child.kill place with ⟨error | _, place⟩
    · dsimp only
      split <;> simp
    · simp

theorem Stopping.le_length_steps (count : Nat) (stopping : Stopping) (place : σ)
    (h : (Stopping.steps child id grace count stopping place).1.result? = none) :
    count ≤ (Stopping.steps child id grace count stopping place).2.2.length := by
  induction count generalizing stopping place with
  | zero => exact Nat.zero_le _
  | succ count ih =>
    have hcalls (hnow : stopping.result? = none) := Stopping.step_calls child id grace hnow place
    rw [Stopping.steps] at h ⊢
    rcases hstep : stopping.step child id grace place with ⟨next, after, made⟩
    rw [hstep] at h hcalls
    dsimp only at h hcalls ⊢
    split at h
    next => cases h
    next hgoing =>
      have hnow : stopping.result? = none := by
        cases stopping with
        | done result => exact absurd (congrArg Prod.fst hstep).symm (hgoing result)
        | _ => rfl
      have hlater := ih next after h
      have hmade := List.length_pos_iff.2 (hcalls hnow)
      rw [List.length_append, Nat.add_comm]
      exact Nat.add_le_add hmade hlater

end

/-- **Stopping a process is safe**, whatever the calls on it and the clock tell; and it is given up
    only for want of patience. -/
theorem stops_safely {σ : Type} (child : Child σ) (id : InstanceId) (grace patience : Nat)
    (place : σ) :
    let stop := child.stop id grace patience place
    StopsSafely grace stop.1 stop.2.2 ∧ (stop.1 = none → patience ≤ stop.2.2.length) := by
  intro stop
  have hstart : Stopping.After grace .checking [] := .checking
  have hafter := hstart.steps child id patience place
  have hlength := Stopping.le_length_steps child id grace patience .checking place
  have hstop : stop = child.stop id grace patience place := rfl
  rw [Child.stop] at hstop
  rcases hsteps : Stopping.steps child id grace patience .checking place with
    ⟨stopping, after, calls⟩
  rw [hsteps] at hafter hlength hstop
  rw [hstop]
  cases stopping <;> exact ⟨hafter.safe, hlength⟩

/-- A process that gets no time ends by itself after the last look at the clock, so that it is not
    there to be killed. -/
theorem stops_safely_unkilled :
    let child : Child Unit :=
      { poll := fun _ => (.ok none, ())
        terminate := fun _ => (.ok (), ())
        now := fun _ => (7, ())
        rest := fun _ _ => ()
        kill := fun _ => (.error (.ofKind .invalidInput), ())
        wait := fun _ => (.ok (.signal 15), ()) }
    let calls : List Call :=
      [.polled (.ok none), .terminated (.ok ()), .looked 7, .looked 7,
        .logged (ignoredEvent ⟨16⟩ 0), .killed (.error (.ofKind .invalidInput)),
        .waited (.ok (.signal 15))]
    StopsSafely 0 (some (.ok (.signal 15))) calls ∧
      child.stop ⟨16⟩ 0 7 () = (some (.ok (.signal 15)), (), calls) := by
  intro child calls
  exact ⟨(stops_safely child ⟨16⟩ 0 7 ()).1, rfl⟩

end MountControl.Service
