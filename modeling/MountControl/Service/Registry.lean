/-
  MountControl — the registry of live volumes.

  An entry is in the registry as long as its worker is known to run.  New
  entries get an identifier that no live entry has: candidates are drawn
  from an `IdSource` until one is free.
-/
import MountControl.Service.Worker
import MountControl.Volume.Record

namespace MountControl.Service

open Volume (InstanceId Options Record State Uuid)

/-! ## Candidates for identifiers -/

/-- A source of candidates: the number that is drawn first, second, and so on. -/
structure IdSource where
  /-- The candidate after so many others. -/
  candidate : Nat → UInt64

/-- A list of candidates, and after it the numbers that follow the last one, wrapping around. -/
def IdSource.scripted (script : List UInt64) : IdSource where
  candidate n :=
    script.getD n (script.getLastD 0 + UInt64.ofNat (n - script.length) + 1)

/-- Candidates spread over the whole range: each place is scrambled by steps that can all be
    undone, so different places have different candidates. -/
def IdSource.scattered (seed : UInt64) : IdSource where
  candidate n :=
    let a := seed + UInt64.ofNat n * 0x9E3779B97F4A7C15
    let b := (a ^^^ (a >>> 30)) * 0xBF58476D1CE4E5B9
    let c := (b ^^^ (b >>> 27)) * 0x94D049BB133111EB
    c ^^^ (c >>> 31)

/-! ## Entries -/

/-- A live volume. -/
structure Entry where
  /-- Its identifier. -/
  id : InstanceId
  /-- The options it was mounted with. -/
  options : Options
  /-- How far it has come. -/
  state : State
  /-- The filesystem, once reported. -/
  fsUuid : Option Uuid
  /-- The filesystem's label. -/
  label : Option String
  /-- The worker that serves it. -/
  worker : Worker
  deriving DecidableEq, Repr

/-- A volume whose worker was just launched. -/
def Entry.starting (id : InstanceId) (options : Options) (worker : Worker) : Entry :=
  ⟨id, options, .starting, none, none, worker⟩

/-- Notes the filesystem that the worker has reported. -/
def Entry.attach (entry : Entry) (fsUuid : Uuid) (label : Option String) : Entry :=
  { entry with state := .mounted, fsUuid := some fsUuid, label }

/-- The description of an entry. -/
def Entry.record (entry : Entry) : Record where
  id := some entry.id
  state := some entry.state
  fsUuid := entry.fsUuid
  label := entry.label
  options := entry.options.raw

/-! ## The registry -/

/-- The live volumes, in the order in which they were registered. -/
structure Registry where
  /-- The entries. -/
  entries : List Entry := []
  /-- How many candidates were drawn so far. -/
  drawn : Nat := 0
  deriving DecidableEq, Repr

/-- The entry of an identifier. -/
def Registry.get? (registry : Registry) (id : InstanceId) : Option Entry :=
  registry.entries.find? (·.id = id)

/-- The process of a volume's worker; 0 where no entry has the identifier. -/
def Registry.pid (registry : Registry) (id : InstanceId) : Nat :=
  ((registry.get? id).map (·.worker.pid)).getD 0

/-- The entry at a mount point. -/
def Registry.atMountPoint? (registry : Registry) (mountPoint : String) : Option Entry :=
  registry.entries.find? (·.options.mountPoint = mountPoint)

/-- Draws candidates until one is free; gives up after `patience` of them. -/
def Registry.allocate (ids : IdSource) (registry : Registry) :
    (patience : Nat) → Option (InstanceId × Registry)
  | 0 => none
  | patience + 1 =>
    let id : InstanceId := ⟨ids.candidate registry.drawn⟩
    let after := { registry with drawn := registry.drawn + 1 }
    if (registry.get? id).isNone then some (id, after) else allocate ids after patience

/-- Adds an entry at the end. -/
def Registry.add (registry : Registry) (entry : Entry) : Registry :=
  { registry with entries := registry.entries ++ [entry] }

/-- Applies a change to the first entry that it fits. -/
def updateFirst (p : Entry → Bool) (change : Entry → Entry) : List Entry → List Entry
  | [] => []
  | entry :: entries =>
    if p entry then change entry :: entries else entry :: updateFirst p change entries

/-- Notes a reported filesystem; none where no entry has the identifier. -/
def Registry.markMounted? (registry : Registry) (id : InstanceId) (fsUuid : Uuid)
    (label : Option String) : Option Registry :=
  if (registry.get? id).isSome then
    some { registry with
      entries := updateFirst (·.id = id) (·.attach fsUuid label) registry.entries }
  else none

/-- Takes the entry of an identifier out of the registry. -/
def Registry.remove? (registry : Registry) (id : InstanceId) : Option (Entry × Registry) :=
  (registry.get? id).map fun entry =>
    (entry, { registry with entries := registry.entries.eraseP (·.id = id) })

/-- The descriptions of all entries. -/
def Registry.records (registry : Registry) : List Record :=
  registry.entries.map Entry.record

end MountControl.Service
