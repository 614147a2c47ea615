/-
  MountControl — everything that a request can come to.

  * `Refused` lists the causes for which a request is turned down before
    anything is done about it;
  * `Routed` lists all outcomes of a request with the stage that each leaves
    and the effects that it adds to the trace;
  * `route_routed`: there are no others; `dispatch_eq` puts reaping in front.
-/
import MountControl.Proofs.Service.Reaping
import MountControl.Proofs.Service.Registry
import MountControl.Service.Dispatch

namespace MountControl.Service

open Host (IoError)
open Volume (InstanceId Options RawOptions Uuid)
open Wire (Reply Request)

variable {σ : Type}

/-! ## Outcomes -/

/-- The causes for which a request is turned down before anything is done about it. -/
inductive Refused (registry : Registry) : Request → Rejection → Prop
  | invalidOptions {raw error} : raw.validate = .error error →
      Refused registry (.mount raw) (.invalidOptions error)
  | mountPointInUse {raw options existing} : raw.validate = .ok options →
      registry.atMountPoint? options.mountPoint = some existing →
      Refused registry (.mount raw) (.mountPointInUse options.mountPoint existing.id)
  | questionWithoutId : Refused registry (.mountData none) (.missingField "InstanceID")
  | questionUnknown {id} : registry.get? id = none →
      Refused registry (.mountData (some id)) (.unknownInstance id)
  | reportWithoutId {fsUuid label} :
      Refused registry (.mounted none fsUuid label) (.missingField "InstanceID")
  | reportWithoutUuid {id label} :
      Refused registry (.mounted (some id) none label) (.missingField "FSUUID")
  | reportUnknown {id fsUuid label} : registry.get? id = none →
      Refused registry (.mounted (some id) (some fsUuid) label) (.unknownInstance id)
  | unmountNothing :
      Refused registry (.unmount none none) (.missingField "InstanceID or MountPoint")
  | unmountNowhere {mountPoint} : registry.atMountPoint? mountPoint = none →
      Refused registry (.unmount none (some mountPoint)) (.unknownMountPoint mountPoint)
  | unmountUnknown {id mountPoint} : registry.get? id = none →
      Refused registry (.unmount (some id) mountPoint) (.unknownInstance id)
  | unknownKind {kind} : Refused registry (.unknown kind) .unknownCommand

/-- The launcher is called for a request to mount, and comes to a result. -/
structure Launching (dispatcher : Dispatcher σ) (stage : Stage σ) (raw : RawOptions)
    (options : Options) (id : InstanceId) (registry : Registry) (result : Launch) (place : σ) :
    Prop where
  valid : raw.validate = .ok options
  free : stage.registry.atMountPoint? options.mountPoint = none
  allocated : stage.registry.allocate dispatcher.ids dispatcher.patience = some (id, registry)
  launch : dispatcher.workers.launch stage.launches id options stage.place = (result, place)

/-- The volume that a request to unmount names is taken out of the registry. -/
structure Removing (stage : Stage σ) (id : Option InstanceId) (mountPoint : Option String)
    (target : InstanceId) (entry : Entry) (registry : Registry) : Prop where
  named : stage.registry.unmountTarget id mountPoint = .ok target
  removed : stage.registry.remove? target = some (entry, registry)

/-- All outcomes of a request: how it ends, and the stage that it leaves. -/
inductive Routed (dispatcher : Dispatcher σ) (stage : Stage σ) :
    Request → Except Halt (Except Rejection Reply) → Stage σ → Prop
  | refused {request rejection} : Refused stage.registry request rejection →
      Routed dispatcher stage request (.ok (.error rejection)) stage
  | stuck {raw options} : raw.validate = .ok options →
      stage.registry.atMountPoint? options.mountPoint = none →
      stage.registry.allocate dispatcher.ids dispatcher.patience = none →
      Routed dispatcher stage (.mount raw) (.error .stuck) stage
  | panicked {raw options id registry message place} :
      Launching dispatcher stage raw options id registry (.panicked message) place →
      Routed dispatcher stage (.mount raw) (.error (.panicked message))
        { stage with
          registry, place
          trace := stage.trace ++ [.launched id options (.panicked message)] }
  | failed {raw options id registry error place} :
      Launching dispatcher stage raw options id registry (.failed error) place →
      Routed dispatcher stage (.mount raw) (.ok (.error (.spawn error)))
        { stage with
          registry, place
          trace := stage.trace ++
            [.launched id options (.failed error), .reported (.workerFailed error)] }
  | started {raw options id registry pid place} :
      Launching dispatcher stage raw options id registry (.started pid) place →
      Routed dispatcher stage (.mount raw) (.ok (.ok .ok))
        { registry := registry.add (.starting id options ⟨stage.launches, pid⟩)
          launches := stage.launches + 1
          place
          trace := stage.trace ++
            [.launched id options (.started pid), .reported (.workerStarted id pid)] }
  | listed : Routed dispatcher stage .list (.ok (.ok (.listing stage.registry.records))) stage
  | described {id entry} : stage.registry.get? id = some entry →
      Routed dispatcher stage (.mountData (some id)) (.ok (.ok (.detail entry.record))) stage
  | reported {id fsUuid label registry event} :
      stage.registry.markMounted? id fsUuid label = some registry →
      Routed dispatcher stage (.mounted (some id) (some fsUuid) label) (.ok (.ok .ok))
        { stage with registry, trace := stage.trace ++ [.logged event] }
  | stopped {id mountPoint target entry registry exit place event} :
      Removing stage id mountPoint target entry registry →
      dispatcher.workers.stop entry.worker dispatcher.stopTimeout stage.place = (.ok exit, place) →
      Routed dispatcher stage (.unmount id mountPoint) (.ok (.ok .ok))
        { stage with
          registry, place
          trace := stage.trace ++ [.logged event,
            .stopped entry.id entry.worker dispatcher.stopTimeout (.ok exit),
            .reported (.workerExited entry.id exit)] }
  | abandoned {id mountPoint target entry registry error place event failure} :
      Removing stage id mountPoint target entry registry →
      dispatcher.workers.stop entry.worker dispatcher.stopTimeout stage.place =
        (.error error, place) →
      Routed dispatcher stage (.unmount id mountPoint) (.ok (.ok .ok))
        { stage with
          registry, place
          trace := stage.trace ++ [.logged event,
            .stopped entry.id entry.worker dispatcher.stopTimeout (.error error),
            .logged failure] }

section
variable (dispatcher : Dispatcher σ) (stage : Stage σ)

theorem mount_routed (raw : RawOptions) :
    Routed dispatcher stage (.mount raw) (stage.mount dispatcher raw).1
      (stage.mount dispatcher raw).2 := by
  unfold Stage.mount
  split
  next error hvalid => exact .refused (.invalidOptions hvalid)
  next options hvalid =>
    split
    next existing hat => exact .refused (.mountPointInUse hvalid hat)
    next hfree =>
      unfold Stage.register
      rcases hid : stage.registry.allocate dispatcher.ids dispatcher.patience with
        _ | ⟨id, registry⟩
      · exact .stuck hvalid hfree hid
      · -- the entry is added by a launch that starts a worker, and by no other
        rcases hl : dispatcher.workers.launch stage.launches id options stage.place with
          ⟨pid | error | message, place⟩
        · have h := Routed.started ⟨hvalid, hfree, hid, hl⟩
          -- the process is looked up again, and is that of the new entry
          obtain ⟨hnone, hentries⟩ := allocate_eq_some hid
          have hfresh : registry.get? (Entry.starting id options ⟨stage.launches, pid⟩).id =
              none := by
            rw [Registry.get?, hentries]
            exact hnone
          have hpid := pid_add hfresh
          simp only [Entry.starting] at h hpid
          simpa [hl, Stage.note, Stage.report, Entry.starting, hpid] using h
        · have h := Routed.failed ⟨hvalid, hfree, hid, hl⟩
          simpa [hl, Stage.note, Stage.report] using h
        · have h := Routed.panicked ⟨hvalid, hfree, hid, hl⟩
          simpa [hl, Stage.note] using h

theorem describe_routed (id : Option InstanceId) :
    Routed dispatcher stage (.mountData id) (.ok (stage.registry.describe id)) stage := by
  cases id with
  | none => exact .refused .questionWithoutId
  | some id =>
    rw [Registry.describe]
    split
    next entry h => exact .described h
    next h => exact .refused (.questionUnknown h)

theorem mounted_routed (id : Option InstanceId) (fsUuid : Option Uuid) (label : Option String) :
    Routed dispatcher stage (.mounted id fsUuid label) (.ok (stage.mounted id fsUuid label).1)
      (stage.mounted id fsUuid label).2 := by
  cases id with
  | none => exact .refused .reportWithoutId
  | some id =>
    cases fsUuid with
    | none => exact .refused .reportWithoutUuid
    | some fsUuid =>
      rw [Stage.mounted]
      split
      next h => exact .refused (.reportUnknown (markMounted?_eq_none.1 h))
      next registry h => exact .reported h

theorem unmountTarget_refused {registry : Registry} {id : Option InstanceId}
    {mountPoint : Option String} {rejection : Rejection}
    (h : registry.unmountTarget id mountPoint = .error rejection) :
    Refused registry (.unmount id mountPoint) rejection := by
  cases id with
  | some id => cases h
  | none =>
    cases mountPoint with
    | none => cases h; exact .unmountNothing
    | some mountPoint =>
      rw [Registry.unmountTarget] at h
      split at h
      next => cases h
      next hat => cases h; exact .unmountNowhere hat

/-- Only a request by identifier can name a volume that is not there. -/
theorem unmountTarget_unknown {registry : Registry} {id : Option InstanceId}
    {mountPoint : Option String} {target : InstanceId}
    (h : registry.unmountTarget id mountPoint = .ok target) (hget : registry.get? target = none) :
    Refused registry (.unmount id mountPoint) (.unknownInstance target) := by
  cases id with
  | some id => cases h; exact .unmountUnknown hget
  | none =>
    cases mountPoint with
    | none => cases h
    | some mountPoint =>
      rw [Registry.unmountTarget] at h
      split at h
      next entry hat =>
        cases h
        have hsome := get?_of_atMountPoint? hat
        rw [hget] at hsome
        cases hsome
      next => cases h

theorem retire_ok {dispatcher : Dispatcher σ} (stage : Stage σ) {entry : Entry} {exit : Exit}
    {place : σ} (h : dispatcher.workers.stop entry.worker dispatcher.stopTimeout stage.place =
      (.ok exit, place)) :
    ∃ event, stage.retire dispatcher entry = { stage with
      place
      trace := stage.trace ++ [.logged event,
        .stopped entry.id entry.worker dispatcher.stopTimeout (.ok exit),
        .reported (.workerExited entry.id exit)] } := by
  rw [Stage.retire]
  exact ⟨_, by simp [Stage.stop, h, Stage.log, Stage.note, Stage.report]; rfl⟩

theorem retire_error {dispatcher : Dispatcher σ} (stage : Stage σ) {entry : Entry}
    {error : IoError} {place : σ}
    (h : dispatcher.workers.stop entry.worker dispatcher.stopTimeout stage.place =
      (.error error, place)) :
    ∃ event failure, stage.retire dispatcher entry = { stage with
      place
      trace := stage.trace ++ [.logged event,
        .stopped entry.id entry.worker dispatcher.stopTimeout (.error error),
        .logged failure] } := by
  rw [Stage.retire]
  exact ⟨_, _, by simp [Stage.stop, h, Stage.log, Stage.note]; exact ⟨rfl, rfl⟩⟩

theorem unmount_routed (id : Option InstanceId) (mountPoint : Option String) :
    Routed dispatcher stage (.unmount id mountPoint)
      (.ok (stage.unmount dispatcher id mountPoint).1)
      (stage.unmount dispatcher id mountPoint).2 := by
  unfold Stage.unmount
  split
  next rejection h => exact .refused (unmountTarget_refused h)
  next target h =>
    split
    -- a mount point names an entry that is there, so only an identifier can fail now
    next hr => exact .refused (unmountTarget_unknown h (remove?_eq_none.1 hr))
    next entry registry hr =>
      rcases hs : dispatcher.workers.stop entry.worker dispatcher.stopTimeout stage.place with
        ⟨error | exit, place⟩
      · obtain ⟨event, failure, he⟩ := retire_error { stage with registry } hs
        simp only [he]
        exact .abandoned ⟨h, hr⟩ hs
      · obtain ⟨event, he⟩ := retire_ok { stage with registry } hs
        simp only [he]
        exact .stopped ⟨h, hr⟩ hs

/-- **Every request comes to one of the outcomes.** -/
theorem route_routed (request : Request) :
    Routed dispatcher stage request (stage.route dispatcher request).1
      (stage.route dispatcher request).2 := by
  cases request with
  | mount raw => exact mount_routed dispatcher stage raw
  | list => exact .listed
  | mountData id => exact describe_routed dispatcher stage id
  | mounted id fsUuid label => exact mounted_routed dispatcher stage id fsUuid label
  | unmount id mountPoint => exact unmount_routed dispatcher stage id mountPoint
  | unknown kind => exact .refused .unknownKind

end

/-! ## Reaping first -/

/-- What reaping adds to the trace: the polls, and then a report of every exit. -/
def sweepEffects (polls : List Poll) : List Effect :=
  polls.flatMap Poll.effects ++
    (polls.filterMap Poll.reaped?).map fun volume => .reported (.workerExited volume.id volume.exit)

/-- The stage on which a request is routed: ended volumes are gone, their exits are reported, and
    the request is noted in the log. -/
def Stage.swept (workers : Workers σ) (stage : Stage σ) (event : Log.Event) : Stage σ :=
  { stage with
    registry.entries := survivors (workers.survey stage.registry.entries stage.place).1
    place := (workers.survey stage.registry.entries stage.place).2
    trace := stage.trace ++
      (sweepEffects (workers.survey stage.registry.entries stage.place).1 ++ [.logged event]) }

/-- The answer that an outcome makes. -/
def answerOf : Except Halt (Except Rejection Reply) → Except Halt Reply
  | .error halt => .error halt
  | .ok (.ok reply) => .ok reply
  | .ok (.error rejection) => .ok (.error rejection.message)

/-- What an outcome adds to the trace: a note in the log about a rejection. -/
def closing (note : Log.Event) : Except Halt (Except Rejection Reply) → List Effect
  | .ok (.error _) => [.logged note]
  | _ => []

theorem answerOf_eq_ok {result : Except Halt (Except Rejection Reply)} {reply : Reply}
    (h : ∀ description, reply ≠ .error description) :
    answerOf result = .ok reply ↔ result = .ok (.ok reply) := by
  rcases result with halt | rejection | reply'
  · simp [answerOf]
  · simpa [answerOf] using (h rejection.message).symm
  · simp [answerOf]

theorem reportReaped_eq (stage : Stage σ) (reaped : List Reaped) :
    stage.reportReaped reaped = { stage with
      trace := stage.trace ++
        reaped.map fun volume => .reported (.workerExited volume.id volume.exit) } := by
  rw [Stage.reportReaped]
  induction reaped generalizing stage with
  | nil => simp
  | cons volume reaped ih => rw [List.foldl_cons, ih]; simp [Stage.report, Stage.note]

/-- **A request is dispatched by reaping, and then routing it.** -/
theorem dispatch_route (dispatcher : Dispatcher σ) (stage : Stage σ) (request : Request) :
    ∃ event note, stage.dispatch dispatcher request =
      (answerOf ((stage.swept dispatcher.workers event).route dispatcher request).1,
        { ((stage.swept dispatcher.workers event).route dispatcher request).2 with
          trace := ((stage.swept dispatcher.workers event).route dispatcher request).2.trace ++
            closing note ((stage.swept dispatcher.workers event).route dispatcher request).1 }) := by
  rw [Stage.dispatch]
  simp only [reap_eq, reportReaped_eq]
  -- of the log event it only matters that there is one
  generalize hs : Stage.log _ _ _ _ _ = swept
  obtain ⟨event, rfl⟩ : ∃ event, swept = stage.swept dispatcher.workers event := by
    rw [← hs]
    simp only [Stage.log, Stage.note, Stage.swept, sweepEffects, List.append_assoc]
    exact ⟨_, rfl⟩
  rcases hr : (stage.swept dispatcher.workers event).route dispatcher request with
    ⟨halt | rejection | reply, after⟩
  · exact ⟨event, event, by simp [hr, answerOf, closing]⟩
  · exact ⟨event, _, by rw [hr]; rfl⟩
  · exact ⟨event, event, by simp [hr, answerOf, closing]⟩

/-- **Every request is dispatched to one of the outcomes, after reaping.** -/
theorem dispatch_eq (dispatcher : Dispatcher σ) (stage : Stage σ) (request : Request) :
    ∃ event note result after,
      Routed dispatcher (stage.swept dispatcher.workers event) request result after ∧
      stage.dispatch dispatcher request =
        (answerOf result, { after with trace := after.trace ++ closing note result }) := by
  obtain ⟨event, note, hd⟩ := dispatch_route dispatcher stage request
  exact ⟨event, note, _, _, route_routed dispatcher _ request, hd⟩

/-! ## Behind the lock -/

/-- How a request ends that is let in. -/
def admitted : Except Halt Reply → Answer
  | .ok reply => .reply reply
  | .error halt => .halted halt

/-- A request that is let in is dispatched; a breakdown poisons the lock. -/
theorem dispatch_open {dispatcher : Dispatcher σ} {shared : Shared σ} {request : Request}
    (hopen : shared.poisoned = false) {answer : Except Halt Reply} {after : Stage σ}
    (hd : shared.stage.dispatch dispatcher request = (answer, after)) :
    shared.dispatch dispatcher request = (admitted answer, ⟨after, !answer.isOk⟩) := by
  rw [Shared.dispatch, hopen, hd]
  cases answer <;> rfl

/-- Once the lock is poisoned, no request is let in. -/
theorem dispatch_poisoned (dispatcher : Dispatcher σ) {shared : Shared σ} (h : shared.poisoned)
    (request : Request) : shared.dispatch dispatcher request = (.refused lockPoisoned, shared) :=
  if_pos h

end MountControl.Service
