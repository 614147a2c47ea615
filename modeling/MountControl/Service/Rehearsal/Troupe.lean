/-
  MountControl — a service whose workers run scripts.

  A `Troupe` is the place where such workers run: the program that is
  launched for each volume, and the processes that were started.  Workers
  are launched, polled and stopped as processes are.
-/
import MountControl.Service.Rehearsal
import MountControl.Service.Rehearsal.Process

namespace MountControl.Service.Rehearsal

open Host (FileTree IoError)
open Volume (InstanceId)

/-- The processes that were started, and how others are. -/
structure Troupe where
  /-- The files among which the program is found. -/
  files : FileTree
  /-- The directory from which relative paths start. -/
  cwd : Host.Place
  /-- The program. -/
  executable : String
  /-- Where workers report. -/
  socket : Config.Endpoint
  /-- The number of the process that launches. -/
  parent : Nat
  /-- The processes and the volumes that they serve, the earliest first. -/
  processes : List (InstanceId × Process) := []

/-- Starts the program for a volume. -/
def Troupe.launch (troupe : Troupe) (number : Nat) (id : InstanceId) :
    Except SpawnError Process :=
  match findProgram troupe.files troupe.cwd troupe.executable with
  | .error error => .error ⟨troupe.executable, error⟩
  | .ok script =>
    .ok (.start script
      ⟨troupe.executable, workerArguments id troupe.socket troupe.parent, firstPid + number,
        Host.Path.absolute troupe.cwd⟩)

/-- Puts a process in the state after a call on it. -/
def Troupe.put (troupe : Troupe) (number : Nat) (process : Process) : Troupe :=
  { troupe with processes := troupe.processes.modify number fun (id, _) => (id, process) }

/-- Lets some milliseconds pass for all processes. -/
def Troupe.rest (troupe : Troupe) (duration : Nat) : Troupe :=
  { troupe with processes := troupe.processes.map fun (id, p) => (id, process.rest duration p) }

/-- The place where workers are processes. -/
def troupe : Workers Troupe where
  launch number id _ troupe :=
    match troupe.launch number id with
    | .error error => (.failed error, troupe)
    | .ok process =>
      (.started (firstPid + number),
        { troupe with processes := troupe.processes ++ [(id, process)] })
  poll worker troupe :=
    match troupe.processes[worker.number]? with
    | none => (.error unknownProcess, troupe)
    | some (_, p) =>
      let (result, p) := process.poll p
      (result, troupe.put worker.number p)
  stop worker grace troupe :=
    match troupe.processes[worker.number]? with
    | none => (.error unknownProcess, troupe)
    | some (id, p) =>
      let (result, p) := p.stop id grace
      (result, troupe.put worker.number p)

end MountControl.Service.Rehearsal
