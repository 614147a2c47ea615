/-
  MountControl — workers without processes.

  `rehearsal` is a place for workers that do what they are told: launches
  succeed or fail on demand, a worker runs until it is told that it has
  ended, and polls and stops fail on demand.  It serves to try out the
  service without starting a process.
-/
import MountControl.Service.Worker

namespace MountControl.Service.Rehearsal

open Host (IoError)

/-- A worker that does what it is told. -/
structure Actor where
  /-- How it has ended. -/
  exit : Option Exit := none
  /-- Why polling it fails. -/
  pollError : Option IoError := none
  /-- Why stopping it fails. -/
  stopError : Option IoError := none
  deriving DecidableEq, Repr

/-- What the next launches come to. -/
inductive Cue
  /-- They succeed. -/
  | succeed
  /-- They fail with the error. -/
  | fail (error : IoError)
  /-- The launcher breaks down. -/
  | panic
  deriving DecidableEq, Repr

/-- The workers by their numbers, and what the next launches come to. -/
structure Cast where
  /-- What the next launches come to. -/
  cue : Cue := .succeed
  /-- The workers. -/
  actors : List Actor := []
  deriving DecidableEq, Repr

/-- The program that is named where a launch fails. -/
def executable : String := "btrmount-worker"

/-- The worker of a number. -/
def Cast.actor (cast : Cast) (number : Nat) : Actor := cast.actors.getD number {}

/-- Changes the worker of a number. -/
def Cast.direct (cast : Cast) (number : Nat) (change : Actor → Actor) : Cast :=
  { cast with actors := cast.actors.modify number change }

/-- The process identifier of the first worker; the others follow. -/
def firstPid : Nat := 1000

/-- The place where such workers run. -/
def rehearsal : Workers Cast where
  launch number _ _ cast :=
    match cast.cue with
    | .succeed => (.started (firstPid + number), { cast with actors := cast.actors ++ [{}] })
    | .fail error => (.failed ⟨executable, error⟩, cast)
    | .panic => (.panicked "launcher panicked", cast)
  poll worker cast :=
    match (cast.actor worker.number).pollError with
    | some error => (.error error, cast)
    | none => (.ok (cast.actor worker.number).exit, cast)
  stop worker _ cast :=
    match (cast.actor worker.number).stopError with
    | some error => (.error error, cast)
    | none =>
      let exit := (cast.actor worker.number).exit.getD (.signal 15)
      (.ok exit, cast.direct worker.number ({ · with exit := some exit }))

end MountControl.Service.Rehearsal
