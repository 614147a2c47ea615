/-
  MountControl — what a message holds.

  Most fields of a message have one place, which the first record of the
  field fills; each later one is refused.  Devices all count, and none is
  ever refused.  The flag for a test run has a place of its own sort: each
  record of it replaces the last.

  * `Slot` are the places that hold one value, `Field.slot?` is a field's;
  * `Holdings` is what a message holds, whatever its kind, and `Holdings.of`
    what it should hold after some fields;
  * `Holdings.objection` is what is wrong with one field more, and
    `Holdings.of_filter_concat` says what the field changes;
  * mount options, descriptions of volumes and requests take each field as
    their holdings do (`RawOptions.accept_holdings`, `Record.accept_holdings`
    and `Request.accept_holdings`).
-/
import MountControl.Proofs.Wire.Body
import MountControl.Wire.Reply

namespace MountControl.Wire

/-! ## Places -/

/-- The places in messages that hold one value. -/
inductive Slot
  | subvol
  | subvolId
  | dump
  | mountPoint
  | instanceId
  | state
  | fsUuid
  | label
  deriving DecidableEq, Repr

/-- The place of a field. -/
def Field.slot? : Field → Option Slot
  | .subvol _ => some .subvol
  | .subvolId _ => some .subvolId
  | .dump _ => some .dump
  | .mountPoint _ => some .mountPoint
  | .instanceId _ => some .instanceId
  | .state _ => some .state
  | .fsUuid _ => some .fsUuid
  | .label _ => some .label
  | _ => none

/-- The device that a field names. -/
def Field.device? : Field → Option String
  | .device path => some path
  | _ => none

/-- What a field says of a test run. -/
def Field.testRun? : Field → Option Bool
  | .testRun flag => some flag
  | _ => none

theorem Field.device?_of_slot? {field : Field} {slot : Slot} (h : field.slot? = some slot) :
    field.device? = none := by
  cases field <;> first | rfl | cases h

theorem Field.testRun?_of_slot? {field : Field} {slot : Slot} (h : field.slot? = some slot) :
    field.testRun? = none := by
  cases field <;> first | rfl | cases h

/-- What a message holds. -/
@[ext]
structure Holdings where
  /-- The value in each place, as the field that brought it. -/
  first : Slot → Option Field := fun _ => none
  /-- The devices in their order. -/
  devices : List String := []
  /-- Is the filesystem only checked? -/
  testRun : Bool := false

namespace Holdings

/-- **What a message should hold after some fields**: in each place the first value for it, and
    all devices.  Of flags the last one counts. -/
def of (fields : List Field) : Holdings where
  first slot := fields.find? (·.slot? = some slot)
  devices := fields.filterMap Field.device?
  testRun := (fields.filterMap Field.testRun?).getLast?.getD false

/-- What is wrong with one more field, in a message that has a place for some: it has none, or
    another value is in it. -/
def objection (held : Holdings) (takes : Field → Bool) (field : Field) : Option IssueKind :=
  if !takes field then some .unexpectedField
  else if field.slot?.any fun slot => (held.first slot).isSome then some .duplicateField
  else none

/-- One field more; a value that is there stays. -/
def add (held : Holdings) (field : Field) : Holdings where
  first slot := (held.first slot).or (if field.slot? = some slot then some field else none)
  devices := held.devices ++ field.device?.toList
  testRun := field.testRun?.getD held.testRun

/-- A value put in its place. -/
def fill (held : Holdings) (slot : Slot) (field : Field) : Holdings :=
  { held with first := Function.update held.first slot (some field) }

/-- Takes a field, unless there is an objection to it. -/
def accept (held : Holdings) (takes : Field → Bool) (field : Field) :
    Except IssueKind Holdings :=
  match held.objection takes field with
  | some kind => .error kind
  | none => .ok (held.add field)

theorem of_concat (fields : List Field) (field : Field) :
    of (fields ++ [field]) = (of fields).add field := by
  ext : 1
  · funext slot
    simp only [of, add, List.find?_append, List.find?_singleton, decide_eq_true_eq]
  · cases field <;> simp [of, add, Field.device?]
  · cases field <;> simp [of, add, Field.testRun?]

/-- A value for a place that is free fills it. -/
theorem add_of_free {held : Holdings} {field : Field} {slot : Slot} (h : field.slot? = some slot)
    (hfree : held.first slot = none) : held.add field = held.fill slot field := by
  ext : 1
  · funext other
    by_cases hother : other = slot
    · subst hother
      simp [add, fill, h, hfree]
    · simp [add, fill, h, hother, Ne.symm hother]
  · simp [add, fill, Field.device?_of_slot? h]
  · simp [add, fill, Field.testRun?_of_slot? h]

/-- A value for a place that is taken changes nothing. -/
theorem add_of_taken {held : Holdings} {field : Field}
    (h : field.slot?.any fun slot => (held.first slot).isSome) : held.add field = held := by
  obtain ⟨slot, hslot, hheld⟩ := (Option.any_eq_true ..).1 h
  obtain ⟨value, hvalue⟩ := Option.isSome_iff_exists.1 hheld
  ext : 1
  · funext other
    by_cases hother : slot = other
    · subst hother
      simp [add, hvalue]
    · simp [add, hslot, hother]
  · simp [add, Field.device?_of_slot? hslot]
  · simp [add, Field.testRun?_of_slot? hslot]

theorem add_device (held : Holdings) (path : String) :
    held.add (.device path) = { held with devices := held.devices ++ [path] } := by
  simp [add, Field.slot?, Field.device?, Field.testRun?]

theorem add_testRun (held : Holdings) (flag : Bool) :
    held.add (.testRun flag) = { held with testRun := flag } := by
  simp [add, Field.slot?, Field.device?, Field.testRun?]

/-- What a message should hold grows by the fields to which there is no objection. -/
theorem of_filter_concat (takes : Field → Bool) (before : List Field) (field : Field) :
    of ((before ++ [field]).filter takes) =
      match (of (before.filter takes)).objection takes field with
      | some _ => of (before.filter takes)
      | none => (of (before.filter takes)).add field := by
  rw [List.filter_append, objection]
  cases htakes : takes field with
  | false => simp [htakes]
  | true =>
    simp only [List.filter_cons, List.filter_nil, htakes, if_true, of_concat, Bool.not_true,
      Bool.false_eq_true, if_false]
    split
    next kind heq =>
      split at heq
      next htaken => exact add_of_taken htaken
      next => cases heq
    next => rfl

end Holdings

/-! ## Kinds of messages -/

section
variable {α β γ : Type}

theorem map_map (result : Except IssueKind α) (f : α → β) (g : β → γ) :
    (result.map f).map g = result.map (g ∘ f) :=
  Functor.map_map f g result

/-- A part of a message that may be given once is taken as `Holdings` takes its field. -/
theorem accept_setOnce {takes : Field → Bool} {holdings : α → Holdings} {held : Holdings}
    {make : β → Field} {slot : Slot} {part : Option β} {value : β} {put : Option β → α}
    (hslot : (make value).slot? = some slot) (htakes : takes (make value))
    (hpart : held.first slot = part.map make)
    (hfirst : ∀ other, (holdings (put (some value))).first other =
      (held.fill slot (make value)).first other)
    (hdevices : (holdings (put (some value))).devices = held.devices)
    (htestRun : (holdings (put (some value))).testRun = held.testRun) :
    ((setOnce part value).map put).map holdings = held.accept takes (make value) := by
  have hput : holdings (put (some value)) = held.fill slot (make value) :=
    Holdings.ext (funext hfirst) hdevices htestRun
  have hobjection : held.objection takes (make value) =
      if part.isSome then some .duplicateField else none := by
    simp [Holdings.objection, htakes, hslot, hpart]
  cases part with
  | none =>
    have hadd := Holdings.add_of_free hslot hpart
    simp only [Holdings.accept, hobjection, Option.isSome_none, Bool.false_eq_true, if_false,
      hadd, ← hput]
    rfl
  | some old =>
    simp only [Holdings.accept, hobjection, Option.isSome_some, if_true]
    rfl

end

/-- Has a field a place among mount options? -/
def Field.inOptions : Field → Bool
  | .subvol _ | .subvolId _ | .dump _ | .testRun _ | .mountPoint _ | .device _ => true
  | _ => false

/-- Has a field a place in a volume's description? -/
def Field.inRecord : Field → Bool
  | .instanceId _ | .state _ | .fsUuid _ | .label _ => true
  | field => field.inOptions

/-- Has a field a place in requests of this kind? -/
def Request.takes : Request → Field → Bool
  | .mount _ => Field.inOptions
  | .list | .unknown _ => fun _ => false
  | .mountData _ => fun
    | .instanceId _ => true
    | _ => false
  | .mounted .. => fun
    | .instanceId _ | .fsUuid _ | .label _ => true
    | _ => false
  | .unmount .. => fun
    | .instanceId _ | .mountPoint _ => true
    | _ => false

end MountControl.Wire

namespace MountControl.Volume

open Wire (Field Holdings accept_setOnce map_map)

/-- What mount options hold. -/
def RawOptions.holdings (options : RawOptions) : Holdings where
  first
    | .subvol => options.subvolName.map .subvol
    | .subvolId => options.subvolId.map .subvolId
    | .dump => options.dumpTarget.map .dump
    | .mountPoint => options.mountPoint.map .mountPoint
    | _ => none
  devices := options.devices
  testRun := options.testRun

/-- What a volume's description holds. -/
def Record.holdings (record : Record) : Holdings where
  first
    | .instanceId => record.id.map .instanceId
    | .state => record.state.map .state
    | .fsUuid => record.fsUuid.map .fsUuid
    | .label => record.label.map .label
    | slot => record.options.holdings.first slot
  devices := record.options.devices
  testRun := record.options.testRun

theorem RawOptions.accept_holdings (options : RawOptions) (field : Field) :
    (options.accept field).map holdings = options.holdings.accept Field.inOptions field := by
  cases field with
  | subvol | subvolId | dump | mountPoint =>
    exact accept_setOnce rfl rfl rfl (fun slot => by cases slot <;> rfl) rfl rfl
  | device path => exact congrArg Except.ok (options.holdings.add_device path).symm
  | testRun flag => exact congrArg Except.ok (options.holdings.add_testRun flag).symm
  | _ => rfl

theorem Record.accept_holdings (record : Record) (field : Field) :
    (record.accept field).map holdings = record.holdings.accept Field.inRecord field := by
  cases field with
  | instanceId | state | fsUuid | label =>
    exact accept_setOnce rfl rfl rfl (fun slot => by cases slot <;> rfl) rfl rfl
  | subvol | subvolId | dump | mountPoint =>
    refine (congrArg _ (map_map ..)).trans ?_
    exact accept_setOnce rfl rfl rfl (fun slot => by cases slot <;> rfl) rfl rfl
  | device path => exact congrArg Except.ok (record.holdings.add_device path).symm
  | testRun flag => exact congrArg Except.ok (record.holdings.add_testRun flag).symm
  | _ => rfl

end MountControl.Volume

namespace MountControl.Wire

/-- What a request holds. -/
def Request.holdings : Request → Holdings
  | .mount options => options.holdings
  | .list | .unknown _ => {}
  | .mountData id =>
    { first := fun
        | .instanceId => id.map .instanceId
        | _ => none }
  | .mounted id fsUuid label =>
    { first := fun
        | .instanceId => id.map .instanceId
        | .fsUuid => fsUuid.map .fsUuid
        | .label => label.map .label
        | _ => none }
  | .unmount id mountPoint =>
    { first := fun
        | .instanceId => id.map .instanceId
        | .mountPoint => mountPoint.map .mountPoint
        | _ => none }

theorem Request.accept_holdings (request : Request) (field : Field) :
    (request.accept field).map holdings = request.holdings.accept request.takes field := by
  cases request with
  | mount options =>
    refine (map_map ..).trans ?_
    exact options.accept_holdings field
  | list => cases field <;> rfl
  | unknown kind => cases field <;> rfl
  | mountData id =>
    cases field with
    | instanceId =>
      exact accept_setOnce rfl rfl rfl (fun slot => by cases slot <;> rfl) rfl rfl
    | _ => rfl
  | mounted id fsUuid label =>
    cases field with
    | instanceId | fsUuid | label =>
      exact accept_setOnce rfl rfl rfl (fun slot => by cases slot <;> rfl) rfl rfl
    | _ => rfl
  | unmount id mountPoint =>
    cases field with
    | instanceId | mountPoint =>
      exact accept_setOnce rfl rfl rfl (fun slot => by cases slot <;> rfl) rfl rfl
    | _ => rfl

/-- A request stays of its kind. -/
theorem Request.takes_of_accept {request next : Request} {field : Field}
    (h : request.accept field = .ok next) : next.takes = request.takes := by
  rw [Request.accept.eq_def] at h
  split at h
  next options =>
    obtain ⟨part, -, rfl⟩ := map_eq_ok.1 h
    rfl
  -- no other field has a place
  case h_8 => cases h
  all_goals
    obtain ⟨-, rfl⟩ := setOnce_map_eq_ok.1 h
    rfl

end MountControl.Wire
