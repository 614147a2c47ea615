/-
  MountControl — one exchange, whatever the connection does.

  A connection decides whether its request is read at all, and how much of
  the reply it takes; between the two the request is answered as if there
  were no connection.  Besides, an exchange leaves notes in the log.

  * `Exchanged` lists the outcomes of an exchange, and `exchange_exchanged`
    says that there are no others;
  * `exchange_contained`: no connection brings the service down, and what an
    exchange does to the volumes is what its request does to them;
  * `serving_goes_on`: so no fault ever ends the listener.
-/
import MountControl.Proofs.Service.Prehistory
import MountControl.Proofs.Service.Provenance
import MountControl.Proofs.Service.Shutdown
import MountControl.Proofs.Wire.Framing

namespace MountControl.Service

open Wire (Read Reply Request Write maxMessageBytes readMessage writeMessage)

variable {σ : Type}

/-! ## Notes in the log -/

/-- The stage with some more notes in the log. -/
def Stage.noted (stage : Stage σ) (notes : List Log.Event) : Stage σ :=
  { stage with trace := stage.trace ++ notes.map .logged }

/-- Behind the lock there are some more notes in the log. -/
def Shared.noted (shared : Shared σ) (notes : List Log.Event) : Shared σ :=
  { shared with stage := shared.stage.noted notes }

section
variable (shared : Shared σ)

theorem noted_nil : shared.noted [] = shared := by
  simp [Shared.noted, Stage.noted]

theorem noted_noted (front back : List Log.Event) :
    (shared.noted front).noted back = shared.noted (front ++ back) := by
  simp [Shared.noted, Stage.noted]

theorem log_noted (level : Log.Level) (message : String) (fields : List (String × Log.Value)) :
    ∃ notes, shared.log level message fields = shared.noted notes :=
  ⟨[_], rfl⟩

theorem logFailure_noted (level : Log.Level) (message : String)
    (result : Except Host.IoError Unit) :
    ∃ notes, shared.logFailure level message result = shared.noted notes := by
  cases result with
  | ok => exact ⟨[], (noted_nil shared).symm⟩
  | error error => exact log_noted shared ..

theorem issues_noted (issues : List Wire.Issue) (stage : Stage σ) :
    issues.foldl (fun stage issue => stage.note (.logged issue.event)) stage =
      stage.noted (issues.map (·.event)) := by
  induction issues generalizing stage with
  | nil => simp [Stage.noted]
  | cons issue issues ih =>
    rw [List.foldl_cons, ih]
    simp [Stage.noted, Stage.note]

/-- What could not be understood is noted, and nothing else comes of it. -/
theorem decode_noted (bytes : List UInt8) :
    ∃ notes, shared.decode bytes = (.received bytes, shared.noted notes) := by
  simp only [Shared.decode, issues_noted]
  split
  · exact ⟨_, rfl⟩
  · obtain ⟨notes, hnotes⟩ := log_noted (shared.noted _) ..
    exact ⟨_, congrArg (Prod.mk _) (hnotes.trans (noted_noted ..))⟩

end

/-! ## Outcomes -/

/-- What a breakdown makes of an exchange. -/
def Halt.handled : Halt → Handled
  | .panicked message => .panicked (.message message)
  | .stuck => .stuck

/-- The stage that a request leaves, with some notes in the log before what the request did. -/
def Stage.after (dispatcher : Dispatcher σ) (stage : Stage σ) (notes : List Log.Event)
    (request : Request) : Stage σ :=
  { (stage.observe dispatcher request).2 with
    trace := stage.trace ++ notes.map .logged ++ (stage.observe dispatcher request).1.effects }

/-- A request that is let in comes to the same behind some notes. -/
theorem dispatch_noted (dispatcher : Dispatcher σ) (stage : Stage σ) (notes : List Log.Event)
    (request : Request) :
    (Shared.noted ⟨stage, false⟩ notes).dispatch dispatcher request =
      match (stage.observe dispatcher request).1.answer with
      | .ok reply => (.reply reply, ⟨stage.after dispatcher notes request, false⟩)
      | .error halt => (.halted halt, ⟨stage.after dispatcher notes request, true⟩) := by
  have hdispatch : (stage.noted notes).dispatch dispatcher request =
      ((stage.observe dispatcher request).1.answer, stage.after dispatcher notes request) :=
    dispatch_trace stage dispatcher _ request
  simp only [Shared.dispatch, Shared.noted, hdispatch]
  cases (stage.observe dispatcher request).1.answer <;> rfl

/-- All outcomes of an exchange: how it ends, what is written, and what is left behind the lock. -/
inductive Exchanged (dispatcher : Dispatcher σ) (shared : Shared σ) (connection : Connection) :
    Handled × List UInt8 × Shared σ → Prop
  | unread {notes} :
      (∀ bytes, (readMessage maxMessageBytes connection.reads).1 ≠ .ok (.complete bytes)) →
      Exchanged dispatcher shared connection (.done, [], shared.noted notes)
  | refused {notes} : shared.poisoned →
      Exchanged dispatcher shared connection
        (.faulted ⟨lockPoisoned.message⟩, [], shared.noted notes)
  | halted {bytes halt notes} : shared.poisoned = false →
      (readMessage maxMessageBytes connection.reads).1 = .ok (.complete bytes) →
      (shared.stage.observe dispatcher (.received bytes)).1.answer = .error halt →
      Exchanged dispatcher shared connection
        (halt.handled, [], ⟨shared.stage.after dispatcher notes (.received bytes), true⟩)
  | answered {bytes reply notes later} : shared.poisoned = false →
      (readMessage maxMessageBytes connection.reads).1 = .ok (.complete bytes) →
      (shared.stage.observe dispatcher (.received bytes)).1.answer = .ok reply →
      Exchanged dispatcher shared connection
        (.done, (writeMessage (Text.encode reply.encode) connection.writes connection.flush).bytes,
          ⟨(shared.stage.after dispatcher notes (.received bytes)).noted later, false⟩)

/-- **Every exchange comes to one of the outcomes.** -/
theorem exchange_exchanged (dispatcher : Dispatcher σ) (shared : Shared σ)
    (connection : Connection) :
    Exchanged dispatcher shared connection (shared.exchange dispatcher connection) := by
  rw [Shared.exchange]
  obtain ⟨front, hfront⟩ := logFailure_noted shared .warn "failed to apply exchange timeout"
    connection.timeouts
  simp only [hfront]
  split
  next error hread =>
    obtain ⟨notes, hnotes⟩ := log_noted (shared.noted front) ..
    rw [hnotes, noted_noted]
    exact .unread fun bytes h => by rw [hread] at h; cases h
  next received hread =>
    obtain ⟨notes, hnotes⟩ := log_noted (shared.noted front) ..
    obtain ⟨later, hlater⟩ := logFailure_noted ((shared.noted front).noted notes) ..
    rw [hnotes, Shared.close, hlater, noted_noted, noted_noted]
    exact .unread fun bytes h => by rw [hread] at h; cases h
  next bytes hread =>
    obtain ⟨notes, hnotes⟩ := decode_noted (shared.noted front) bytes
    simp only [hnotes, noted_noted]
    by_cases hpoisoned : shared.poisoned
    · have hrefused := @dispatch_poisoned σ dispatcher (shared.noted (front ++ notes)) hpoisoned
      simp only [hrefused]
      exact .refused hpoisoned
    · obtain ⟨stage, poisoned⟩ := shared
      obtain rfl : poisoned = false := Bool.eq_false_iff.2 hpoisoned
      rw [dispatch_noted]
      rcases hanswer : (stage.observe dispatcher (.received bytes)).1.answer with halt | reply
      · have hhalted := @Exchanged.halted σ dispatcher ⟨stage, false⟩ connection bytes halt
          (front ++ notes) rfl hread hanswer
        cases halt <;> exact hhalted
      · -- whether all of the reply was written, and the connection closed, is only noted
        dsimp only
        split
        · obtain ⟨later, hlater⟩ := logFailure_noted _ .debug "failed to shut down connection"
            connection.closing
          rw [Shared.close, hlater]
          exact .answered rfl hread hanswer
        · obtain ⟨later, hlater⟩ := log_noted _ ..
          rw [hlater]
          exact .answered rfl hread hanswer

/-! ## No connection brings the service down -/

/-- The launcher never breaks down. -/
def Workers.Steady (workers : Workers σ) : Prop :=
  ∀ number id options place message,
    (workers.launch number id options place).1 ≠ .panicked message

section
variable {dispatcher : Dispatcher σ} {shared : Shared σ}

/-- Only the launcher breaks down. -/
theorem answer_ne_panicked (hsteady : dispatcher.workers.Steady) (stage : Stage σ)
    (request : Request) (message : String) :
    (stage.observe dispatcher request).1.answer ≠ .error (.panicked message) := by
  intro h
  obtain ⟨note, result, after, effects, hr, -, hanswer, -⟩ :=
    observe_calls dispatcher stage request
  rw [h] at hanswer
  cases hr with
  | panicked hl => exact hsteady _ _ _ _ _ (congrArg Prod.fst hl.launch)
  | refused | stuck | failed | started | listed | described | reported | stopped | abandoned =>
    cases hanswer

/-- Some candidate that comes before patience ends names no volume. -/
def Registry.HasFree (registry : Registry) (dispatcher : Dispatcher σ) : Prop :=
  ∃ n < dispatcher.patience,
    registry.get? ⟨dispatcher.ids.candidate (registry.drawn + n)⟩ = none

/-- Every request is answered, if there is a free identifier for those to mount. -/
theorem answer_of_free (hsteady : dispatcher.workers.Steady) {stage : Stage σ} {request : Request}
    (hfree : ∀ raw, request = .mount raw →
      (stage.reap dispatcher.workers).2.registry.HasFree dispatcher) :
    ∃ reply, (stage.observe dispatcher request).1.answer = .ok reply := by
  rcases hanswer : (stage.observe dispatcher request).1.answer with (message | -) | reply
  · exact absurd hanswer (answer_ne_panicked hsteady stage request message)
  · obtain ⟨note, result, after, effects, hr, -, hresult, -⟩ :=
      observe_calls dispatcher stage request
    rw [hanswer] at hresult
    cases hr with
    | stuck _ _ hnone =>
      -- only a request to mount draws identifiers
      obtain ⟨n, hn, hid⟩ := hfree _ rfl
      rw [← registry_swept dispatcher.workers stage note] at hid
      have hfound := allocate_isSome hn hid
      rw [hnone] at hfound
      cases hfound
    | refused | panicked | failed | started | listed | described | reported | stopped
      | abandoned => cases hresult
  · exact ⟨reply, rfl⟩

/-- **No connection brings the service down**, whatever it brings, takes, or fails to do.  Where the
    message is not read completely, nothing is written, and the volumes are not even looked at.
    Otherwise the exchange does to them what its request does, whether or not the reply can be
    written; and what is written is a front part of that reply, or all of it where no write fails.
    (A request to mount for which no identifier is ever free is not answered at all.) -/
theorem exchange_contained (hsteady : dispatcher.workers.Steady)
    (hopen : shared.poisoned = false) (connection : Connection) :
    let left := (shared.stage.reap dispatcher.workers).2.registry
    let outcome := shared.exchange dispatcher connection
    outcome.1.fault? = none ∧
    ((∀ bytes, (readMessage maxMessageBytes connection.reads).1 ≠ .ok (.complete bytes)) →
      ∃ notes, outcome = (.done, [], shared.noted notes)) ∧
    ∀ bytes, (readMessage maxMessageBytes connection.reads).1 = .ok (.complete bytes) →
      (∀ raw, Request.received bytes = .mount raw → left.HasFree dispatcher) →
      bytes.length ≤ maxMessageBytes ∧
      ∃ reply after effects, ∃ notes later : List Log.Event,
        shared.stage.dispatch dispatcher (.received bytes) = (.ok reply, after) ∧
        after.trace = shared.stage.trace ++ effects ∧
        outcome.1 = .done ∧
        outcome.2.2 = ⟨{ after with
          trace := shared.stage.trace ++ notes.map .logged ++ effects ++ later.map .logged },
          false⟩ ∧
        outcome.2.1 <+: Text.encode reply.encode ∧
        ((∀ write ∈ connection.writes, ¬write.Fails) →
          outcome.2.1 = Text.encode reply.encode) := by
  intro left outcome
  have houtcome : Exchanged dispatcher shared connection outcome :=
    exchange_exchanged dispatcher shared connection
  generalize outcome = outcome at houtcome
  cases houtcome with
  | unread hread =>
    exact ⟨rfl, fun _ => ⟨_, rfl⟩, fun bytes h => absurd h (hread bytes)⟩
  | refused hpoisoned =>
    rw [hopen] at hpoisoned
    cases hpoisoned
  | @halted message halt notes _ hread hanswer =>
    have hstuck : halt = .stuck := by
      cases halt with
      | stuck => rfl
      | panicked text => exact absurd hanswer (answer_ne_panicked hsteady _ _ _)
    refine ⟨by rw [hstuck]; rfl, fun h => absurd hread (h _), ?_⟩
    intro bytes h hfree
    cases hread.symm.trans h
    obtain ⟨reply, hreply⟩ := answer_of_free hsteady hfree
    rw [hanswer] at hreply
    cases hreply
  | @answered message reply notes later _ hread hanswer =>
    refine ⟨rfl, fun h => absurd hread (h _), ?_⟩
    intro bytes h _
    cases hread.symm.trans h
    have hdispatch := dispatch_trace shared.stage dispatcher shared.stage.trace (.received message)
    rw [hanswer] at hdispatch
    exact ⟨Wire.length_le_of_readMessage hread, reply, _, _, notes, later, hdispatch, rfl, rfl, rfl,
      Wire.writeMessage_prefix .., fun htakes => (Wire.writeMessage_of_takes htakes ..).1⟩

end

/-- Two of the three bytes of a reply are written, and then the connection breaks; the volume is
    mounted all the same. -/
theorem exchange_contained_broken :
    let workers : Workers Unit :=
      { launch := fun number _ _ _ => (.started (1000 + number), ())
        poll := fun _ _ => (.ok none, ())
        stop := fun _ _ _ => (.ok (.code 0), ()) }
    let dispatcher : Dispatcher Unit := ⟨workers, .scripted [16], 2, 10⟩
    let bytes := Text.encode "Mount\nMountPoint|2|/a\nDevice|2|/x\n".toList
    let connection : Connection :=
      { timeouts := .error (.system 22), reads := [.failed (.system 4), .chunk bytes]
        writes := [.takes 2, .failed (.system 32)] }
    let outcome := Shared.exchange dispatcher ⟨Stage.initial (), false⟩ connection
    outcome.1 = .done ∧ outcome.2.1 <+: Text.encode Reply.ok.encode ∧ outcome.2.1.length = 2 ∧
      outcome.2.2.stage.registry.entries.map (·.id) = [⟨16⟩] := by
  intro workers dispatcher bytes connection outcome
  have hsteady : workers.Steady := nofun
  have hopen : (Shared.mk (Stage.initial ()) false).poisoned = false := rfl
  obtain ⟨-, -, hcomplete⟩ :=
    exchange_contained (show dispatcher.workers.Steady from hsteady) hopen connection
  obtain ⟨-, reply, after, effects, notes, later, hdispatch, -, hdone, hafter, hwritten, -⟩ :=
    hcomplete bytes (by decide +kernel) fun _ _ => ⟨0, by decide, by decide⟩
  have hmounted : (Stage.dispatch dispatcher (Stage.initial ()) (.received bytes)).1 = .ok .ok ∧
      (Stage.dispatch dispatcher (Stage.initial ()) (.received bytes)).2.registry.entries.map
        (·.id) = [⟨16⟩] := by
    decide +kernel
  rw [hdispatch] at hmounted
  obtain ⟨hok, hentries⟩ := hmounted
  cases hok
  exact ⟨hdone, hwritten, by decide +kernel, by rw [hafter]; exact hentries⟩

/-! ## Serving -/

/-- How the handling of a connection ends the listener. -/
def Handled.ending : Handled → Option LoopEnd
  | .done => none
  | .faulted fault => some (.fault fault)
  | .panicked panic => some (.fault (.ofPanic panic))
  | .stuck => some .stuck

/-- A turn of the listener: nobody is served, or one connection is. -/
inductive Turned (plan : Plan σ) (loop after : Loop Connection (Shared σ)) : Prop
  | idle : after.state = loop.state → after.ended = loop.ended ∨ after.ended = some .stopped →
      Turned plan loop after
  | served {connection outcome} : loop.ended = none →
      Exchanged plan.dispatcher loop.state connection outcome → after.state = outcome.2.2 →
      after.ended = outcome.1.ending → Turned plan loop after

section
variable {plan : Plan σ} {loop after : Loop Connection (Shared σ)} {place : σ}
  {running : Running σ}

theorem turn_turned (plan : Plan σ) (loop : Loop Connection (Shared σ)) (stop : Bool)
    (accepted : Accepted Connection) :
    Turned plan loop (loop.turn plan.endpoint plan.handle stop accepted) := by
  rw [Loop.turn]
  split
  next => exact .idle rfl (.inl rfl)
  next hgoing =>
    have hended : loop.ended = none := by simpa using hgoing
    split
    · exact .idle rfl (.inr rfl)
    · cases accepted with
      | nobody => exact .idle rfl (.inl rfl)
      | failed error => exact .idle rfl (.inl rfl)
      | connection connection =>
        have houtcome := exchange_exchanged plan.dispatcher loop.state connection
        simp only [Loop.serve, Loop.note, Plan.handle]
        generalize loop.state.exchange plan.dispatcher connection = outcome at houtcome
        obtain ⟨handled, written, shared⟩ := outcome
        cases handled with
        | done => exact .served hended houtcome rfl hended
        | faulted | panicked | stuck => exact .served hended houtcome rfl rfl

/-- As long as the listener goes on, the lock is open. -/
theorem Turned.unlocked (h : Turned plan loop after)
    (hopen : loop.ended = none → loop.state.poisoned = false) (hended : after.ended = none) :
    after.state.poisoned = false := by
  cases h with
  | idle hstate hsame =>
    rw [hstate]
    rcases hsame with hsame | hstopped
    · exact hopen (hsame.symm.trans hended)
    · rw [hended] at hstopped
      cases hstopped
  | served hgoing houtcome hstate hending =>
    rw [hended] at hending
    rw [hstate]
    cases houtcome with
    | unread => exact hopen hgoing
    | answered => rfl
    | refused => cases hending
    | @halted _ halt => cases halt <;> cases hending

/-- Only a launcher that breaks down ends the listener by a fault. -/
theorem Turned.faultless (h : Turned plan loop after)
    (hopen : loop.ended = none → loop.state.poisoned = false)
    (hsteady : plan.dispatcher.workers.Steady) (hbefore : ∀ fault, loop.ended ≠ some (.fault fault))
    (fault : Fault) : after.ended ≠ some (.fault fault) := by
  intro hfault
  cases h with
  | idle _ hsame =>
    rcases hsame with hsame | hstopped
    · exact hbefore fault (hsame.symm.trans hfault)
    · rw [hfault] at hstopped
      cases hstopped
  | served hgoing houtcome _ hending =>
    rw [hfault] at hending
    cases houtcome with
    | unread => cases hending
    | answered => cases hending
    | refused hpoisoned =>
      rw [hopen hgoing] at hpoisoned
      cases hpoisoned
    | @halted _ halt _ _ _ hanswer =>
      cases halt with
      | stuck => cases hending
      | panicked text => exact answer_ne_panicked hsteady _ _ _ hanswer

/-- The main thread leaves the lock and the end of the loop alone. -/
theorem advance_lock (plan : Plan σ) (running : Running σ) :
    (running.advance plan).loop.ended = running.loop.ended ∧
      (running.advance plan).loop.state.poisoned = running.loop.state.poisoned := by
  rw [Running.advance]
  split
  case h_2 | h_5 => split <;> exact ⟨rfl, rfl⟩
  all_goals exact ⟨rfl, rfl⟩

/-- **While the service takes connections, the lock is open.** -/
theorem unlocked_reaches (h : (Running.start plan place).Reaches plan running) :
    running.loop.ended = none → running.loop.state.poisoned = false := by
  induction h with
  | refl => exact fun _ => rfl
  | @tail before after _ hstep ih =>
    cases hstep with
    | listener stop accepted _ => exact (turn_turned plan before.loop stop accepted).unlocked ih
    | wake => exact ih
    | main =>
      obtain ⟨hended, hpoisoned⟩ := advance_lock plan before
      rwa [hended, hpoisoned]

/-- **No fault ever ends the listener** while the launcher does not break down: the service goes on,
    however its clients behave, until it is told to stop. -/
theorem serving_goes_on (hsteady : plan.dispatcher.workers.Steady)
    (h : (Running.start plan place).Reaches plan running) (fault : Fault) :
    running.loop.ended ≠ some (.fault fault) := by
  induction h generalizing fault with
  | refl => exact nofun
  | @tail before after hreaches hstep ih =>
    cases hstep with
    | listener stop accepted _ =>
      exact (turn_turned plan before.loop stop accepted).faultless (unlocked_reaches hreaches)
        hsteady ih fault
    | wake => exact ih fault
    | main =>
      rw [(advance_lock plan before).1]
      exact ih fault

end

end MountControl.Service
