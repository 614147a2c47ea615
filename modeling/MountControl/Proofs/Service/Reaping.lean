/-
  MountControl — what reaping does, poll by poll.

  `Workers.survey` polls the workers of some entries one after the other and
  does nothing else.  `sift_eq`: sifting keeps the entries whose poll brought
  no exit, returns an account of the others, and leaves the trace of all polls
  behind; `reap_eq` says the same of the registry, and `reaping_exact` adds
  that reaping again changes nothing until another worker has ended.
-/
import MountControl.Service.Rehearsal
import MountControl.Service.Stage

namespace MountControl.Service

open Host (IoError)
open Volume (InstanceId Options)

variable {σ : Type}

/-- An entry, and what the poll of its worker came to. -/
structure Poll where
  entry : Entry
  result : Except IoError (Option Exit)

/-- The exit that a poll brought. -/
def Poll.exit? (poll : Poll) : Option Exit :=
  match poll.result with
  | .ok exit? => exit?
  | .error _ => none

/-- The account of a volume whose poll brought an exit. -/
def Poll.reaped? (poll : Poll) : Option Reaped :=
  poll.exit?.map fun exit => ⟨poll.entry.id, poll.entry.options.mountPoint, exit⟩

/-- What a poll adds to the trace: the poll itself, and a note in the log unless the worker was
    found running. -/
def Poll.effects (poll : Poll) : List Effect :=
  .polled poll.entry.id poll.entry.worker poll.result ::
    match poll.result with
    | .ok (some exit) => [.logged ⟨.info, "btrmountd::registry", "worker exited; removing volume",
        [("instance", .shown poll.entry.id.display), ("exit", .shown exit.display)]⟩]
    | .ok none => []
    | .error error => [.logged ⟨.warn, "btrmountd::registry", "failed to poll worker",
        [("instance", .shown poll.entry.id.display), ("error", .shown error.message)]⟩]

/-- The entries that outlive some polls. -/
def survivors (polls : List Poll) : List Entry :=
  (polls.filter (·.exit?.isNone)).map (·.entry)

/-- Polls the workers of some entries, one after the other; also the place after the last poll. -/
def Workers.survey (workers : Workers σ) : List Entry → σ → List Poll × σ
  | [], place => ([], place)
  | entry :: entries, place =>
    let (result, place) := workers.poll entry.worker place
    let (polls, place) := survey workers entries place
    (⟨entry, result⟩ :: polls, place)

/-- Every entry is polled once, in order. -/
theorem survey_entries (workers : Workers σ) (entries : List Entry) (place : σ) :
    (workers.survey entries place).1.map (·.entry) = entries := by
  induction entries generalizing place with
  | nil => rfl
  | cons entry entries ih => simp only [Workers.survey, List.map_cons, ih]

/-- **Sifting is a survey, sorted by whether the poll brought an exit.** -/
theorem sift_eq (workers : Workers σ) (entries : List Entry) (stage : Stage σ) :
    stage.sift workers entries =
      (survivors (workers.survey entries stage.place).1,
        (workers.survey entries stage.place).1.filterMap Poll.reaped?,
        { stage with
          place := (workers.survey entries stage.place).2
          trace := stage.trace ++ (workers.survey entries stage.place).1.flatMap Poll.effects }) := by
  induction entries generalizing stage with
  | nil => simp [Stage.sift, Workers.survey, survivors]
  | cons entry entries ih =>
    rw [Stage.sift, Workers.survey, Stage.poll]
    -- an error leaves the entry in place, just as a worker that still runs does
    rcases workers.poll entry.worker stage.place with ⟨error | _ | exit, place⟩ <;>
      simp [ih, Stage.log, Stage.note, survivors, Poll.exit?, Poll.reaped?, Poll.effects,
        List.filterMap_cons]

theorem reap_eq (workers : Workers σ) (stage : Stage σ) :
    stage.reap workers =
      ((workers.survey stage.registry.entries stage.place).1.filterMap Poll.reaped?,
        { stage with
          registry.entries := survivors (workers.survey stage.registry.entries stage.place).1
          place := (workers.survey stage.registry.entries stage.place).2
          trace := stage.trace ++
            (workers.survey stage.registry.entries stage.place).1.flatMap Poll.effects }) := by
  simp only [Stage.reap, sift_eq]

/-- The entries that survive were there before, in the same order. -/
theorem survivors_sublist (workers : Workers σ) (entries : List Entry) (place : σ) :
    (survivors (workers.survey entries place).1).Sublist entries := by
  have h := (List.filter_sublist (p := fun poll : Poll => poll.exit?.isNone)
    (l := (workers.survey entries place).1)).map (·.entry)
  rwa [survey_entries] at h

/-! ## Polls that bring no exit -/

section
variable {workers : Workers σ} {stage : Stage σ}

/-- An entry is left out for an exit only. -/
theorem survivors_of_no_exit {polls : List Poll} (h : ∀ poll ∈ polls, poll.exit? = none) :
    survivors polls = polls.map (·.entry) := by
  rw [survivors, List.filter_eq_self.2 fun poll hpoll => by rw [h poll hpoll]; rfl]

/-- Nor is there an account of what has not ended. -/
theorem filterMap_reaped?_of_no_exit {polls : List Poll}
    (h : ∀ poll ∈ polls, poll.exit? = none) : polls.filterMap Poll.reaped? = [] :=
  List.filterMap_eq_nil_iff.2 fun poll hpoll => by rw [Poll.reaped?, h poll hpoll]; rfl

/-- **Where no worker has ended, reaping only asks.** -/
theorem reap_of_no_exit
    (h : ∀ poll ∈ (workers.survey stage.registry.entries stage.place).1, poll.exit? = none) :
    stage.reap workers = ([],
      { stage with
        place := (workers.survey stage.registry.entries stage.place).2
        trace := stage.trace ++
          (workers.survey stage.registry.entries stage.place).1.flatMap Poll.effects }) := by
  rw [reap_eq, filterMap_reaped?_of_no_exit h, survivors_of_no_exit h, survey_entries]

end

/-- **Reaping is exact.**  Every worker is polled once, in order; the entries whose poll brought an
    exit leave the registry, and there is one account of each, in order; the others stay as they
    are, in order.  Reaping again, whenever that is, changes nothing unless a poll brings another
    exit. -/
theorem reaping_exact (workers : Workers σ) (stage : Stage σ) :
    let polls := (workers.survey stage.registry.entries stage.place).1
    let reaped := (stage.reap workers).1
    let after := (stage.reap workers).2
    polls.map (·.entry) = stage.registry.entries ∧
    after.trace = stage.trace ++ polls.flatMap Poll.effects ∧
    reaped = polls.filterMap Poll.reaped? ∧
    after.registry =
      { stage.registry with entries := (polls.filter (·.exit?.isNone)).map (·.entry) } ∧
    after.launches = stage.launches ∧
    ∀ (later : Workers σ) (place : σ),
      (∀ poll ∈ (later.survey after.registry.entries place).1, poll.exit? = none) →
      let again := { after with place }.reap later
      again.1 = [] ∧ again.2.registry = after.registry ∧ again.2.launches = after.launches := by
  intro polls reaped after
  refine ⟨survey_entries .., ?_, ?_, ?_, ?_, fun later place hnone => ?_⟩
  · simp only [after, reap_eq, polls]
  · simp only [reaped, reap_eq, polls]
  · simp only [after, reap_eq, polls, survivors]
  · simp only [after, reap_eq]
  · have hagain : Stage.reap later { after with place } = _ := reap_of_no_exit hnone
    rw [hagain]
    exact ⟨rfl, rfl, rfl⟩

/-- Of seven workers the first two, the fifth and the last have ended, and the fourth cannot be
    polled. -/
theorem reaping_exact_scattered :
    let entry (number : Nat) (mountPoint : String) : Entry :=
      .starting ⟨UInt64.ofNat number⟩ ⟨mountPoint, ["/dev/sdb"], .default, none, false⟩
        ⟨number, 1000 + number⟩
    let stage : Stage Rehearsal.Cast :=
      { registry.entries := [entry 0 "/a", entry 1 "/b", entry 2 "/c", entry 3 "/d", entry 4 "/e",
          entry 5 "/f", entry 6 "/g"]
        launches := 7
        place.actors := [{ exit := some (.code 0) }, { exit := some (.signal 9) }, {},
          { pollError := some (.system 10) }, { exit := some .unknown }, {},
          { exit := some (.code 1) }] }
    let reaped := stage.reap Rehearsal.rehearsal
    let again := reaped.2.reap Rehearsal.rehearsal
    reaped.1 = [⟨⟨0⟩, "/a", .code 0⟩, ⟨⟨1⟩, "/b", .signal 9⟩, ⟨⟨4⟩, "/e", .unknown⟩,
        ⟨⟨6⟩, "/g", .code 1⟩] ∧
      reaped.2.registry.entries = [entry 2 "/c", entry 3 "/d", entry 5 "/f"] ∧
      again.1 = [] ∧ again.2.registry = reaped.2.registry := by
  intro entry stage reaped again
  obtain ⟨-, -, -, -, -, hagain⟩ := reaping_exact Rehearsal.rehearsal stage
  obtain ⟨hnone, hsame, -⟩ := hagain Rehearsal.rehearsal reaped.2.place (by decide)
  exact ⟨by decide, by decide, hnone, hsame⟩

end MountControl.Service
