/-
  MountControl — validation is a gate that loses nothing.

  * `Options.Valid` states the rules that mount options obey;
    `validate_eq_ok_iff`: exactly the fields of valid options pass, and they
    come out as those options;
  * `OptionsError.Broken` states what breaks each rule;
    `validate_eq_error_iff`: the first rule that is broken is reported;
  * `validation_exact` puts both together.
-/
import MountControl.Volume.Options

namespace MountControl.Volume

/-- The rules that mount options obey. -/
structure Options.Valid (options : Options) : Prop where
  mountPoint : options.mountPoint ≠ ""
  devices : options.devices ≠ []
  device : "" ∉ options.devices
  subvolume : ∀ id, options.subvolume = .byId id →
    ¬ (1 ≤ id.toNat ∧ id.toNat ≤ 255) ∧
      ¬ (UInt64.size - 255 ≤ id.toNat ∧ id.toNat ≤ UInt64.size - 2)

theorem isInternalTree_eq_false {id : UInt64} :
    isInternalTree id = false ↔
      ¬ (1 ≤ id.toNat ∧ id.toNat ≤ 255) ∧
        ¬ (UInt64.size - 255 ≤ id.toNat ∧ id.toNat ≤ UInt64.size - 2) := by
  rw [isInternalTree, Bool.or_eq_false_iff]
  simp only [UInt64.le_iff_toNat_le, ← Bool.not_eq_true, Bool.and_eq_true, decide_eq_true_eq]
  rfl

/-! ## The two directions of a selector -/

/-- The name in a selector. -/
def Subvolume.name? : Subvolume → Option String
  | .byName name => some name
  | _ => none

/-- The number in a selector. -/
def Subvolume.id? : Subvolume → Option UInt64
  | .byId id => some id
  | _ => none

theorem select_eq_ok_iff {name : Option String} {id : Option UInt64} {subvolume : Subvolume} :
    Subvolume.select name id = .ok subvolume ↔
      name = subvolume.name? ∧ id = subvolume.id? ∧
        ∀ number, subvolume = .byId number → isInternalTree number = false := by
  constructor
  · intro h
    rcases name with _ | name <;> rcases id with _ | id
    · cases h; exact ⟨rfl, rfl, nofun⟩
    · rw [Subvolume.select] at h
      cases ht : isInternalTree id
      · rw [if_neg (by simp [ht])] at h
        cases h
        exact ⟨rfl, rfl, fun _ he => by cases he; exact ht⟩
      · rw [if_pos ht] at h; cases h
    · cases h; exact ⟨rfl, rfl, nofun⟩
    · cases h
  · rintro ⟨rfl, rfl, h⟩
    cases subvolume with
    | default => rfl
    | byName name => rfl
    | byId id => simp [Subvolume.name?, Subvolume.id?, Subvolume.select, h id rfl]

theorem select_eq_error {name : Option String} {id : Option UInt64} {error : OptionsError}
    (h : Subvolume.select name id = .error error) :
    (error = .conflictingSubvolume ∧ name ≠ none ∧ id ≠ none) ∨
      ∃ number, error = .impossibleSubvolumeId number ∧ name = none ∧ id = some number ∧
        (1 ≤ number.toNat ∧ number.toNat ≤ 255 ∨
          UInt64.size - 255 ≤ number.toNat ∧ number.toNat ≤ UInt64.size - 2) := by
  rcases name with _ | name <;> rcases id with _ | id
  · cases h
  · rw [Subvolume.select] at h
    split at h
    next hinternal =>
      cases h
      refine .inr ⟨id, rfl, rfl, rfl, ?_⟩
      have hrange := mt isInternalTree_eq_false.2 (Bool.not_eq_false _ ▸ hinternal)
      omega
    next => cases h
  · cases h
  · cases h
    exact .inl ⟨rfl, nofun, nofun⟩

theorem raw_eq (options : Options) : options.raw =
    ⟨some options.mountPoint, options.devices, options.subvolume.name?, options.subvolume.id?,
      options.dumpTarget, options.testRun⟩ := by
  rcases options with ⟨_, _, _ | _ | _, _, _⟩ <;> rfl

theorem Options.raw_injective {options other : Options} (h : options.raw = other.raw) :
    options = other := by
  rw [raw_eq, raw_eq] at h
  rcases options with ⟨_, _, _ | _ | _, _, _⟩ <;> rcases other with ⟨_, _, _ | _ | _, _, _⟩ <;>
    simp_all [Subvolume.name?, Subvolume.id?]

/-- Options that differ in their devices only. -/
theorem named_of_devices {options accepted : Options} {devices : List String}
    (h : { options.raw with devices } = accepted.raw) : accepted = { options with devices } :=
  Options.raw_injective h.symm

/-! ## The gate -/

/-- **Validation accepts exactly the fields of valid options.** -/
theorem validate_eq_ok_iff {raw : RawOptions} {options : Options} :
    raw.validate = .ok options ↔ raw = options.raw ∧ options.Valid := by
  rw [raw_eq]
  rcases raw with ⟨mountPoint, devices, name, id, dump, test⟩
  constructor
  · intro h
    rw [RawOptions.validate] at h
    split at h
    · cases h
    next mountPoint hm =>
      cases hm
      split at h
      · cases h
      next hmp =>
        split at h
        · cases h
        next hd =>
          split at h
          · cases h
          next hempty =>
            split at h
            · cases h
            next subvolume hs =>
              cases h
              obtain ⟨rfl, rfl, ht⟩ := select_eq_ok_iff.1 hs
              refine ⟨rfl, hmp, hd, ?_, fun id hid => isInternalTree_eq_false.1 (ht id hid)⟩
              simpa using hempty
  · rintro ⟨h, hv⟩
    cases h
    have hs : Subvolume.select options.subvolume.name? options.subvolume.id? =
        .ok options.subvolume :=
      select_eq_ok_iff.2 ⟨rfl, rfl, fun id hid => isInternalTree_eq_false.2 (hv.subvolume id hid)⟩
    have hd : ¬ (options.devices.any (· = "")) = true := by simpa using hv.device
    simp only [RawOptions.validate, if_neg hv.mountPoint, if_neg hv.devices, if_neg hd, hs]

/-- Nothing is mounted that is not named, nor anywhere where no place is named. -/
theorem named_of_validate {raw : RawOptions} {options : Options}
    (h : raw.validate = .ok options) : raw.mountPoint ≠ none ∧ raw.devices ≠ [] := by
  obtain ⟨rfl, hvalid⟩ := validate_eq_ok_iff.1 h
  exact ⟨nofun, hvalid.devices⟩

/-! ## Broken rules -/

/-- The rule of a rejection is broken. -/
def OptionsError.Broken (raw : RawOptions) : OptionsError → Prop
  | .missingMountPoint => raw.mountPoint = none ∨ raw.mountPoint = some ""
  | .noDevices => raw.devices = []
  | .emptyDevice => "" ∈ raw.devices
  | .conflictingSubvolume => raw.subvolName ≠ none ∧ raw.subvolId ≠ none
  | .impossibleSubvolumeId id => raw.subvolName = none ∧ raw.subvolId = some id ∧
      (1 ≤ id.toNat ∧ id.toNat ≤ 255 ∨
        UInt64.size - 255 ≤ id.toNat ∧ id.toNat ≤ UInt64.size - 2)

instance (raw : RawOptions) : (error : OptionsError) → Decidable (error.Broken raw)
  | .missingMountPoint => inferInstanceAs (Decidable (_ ∨ _))
  | .noDevices => inferInstanceAs (Decidable (_ = _))
  | .emptyDevice => inferInstanceAs (Decidable (_ ∈ _))
  | .conflictingSubvolume => inferInstanceAs (Decidable (_ ∧ _))
  | .impossibleSubvolumeId _ => inferInstanceAs (Decidable (_ ∧ _))

/-- The place of a rule in the order of the rules. -/
def OptionsError.rank : OptionsError → Nat
  | .missingMountPoint => 0
  | .noDevices => 1
  | .emptyDevice => 2
  | .conflictingSubvolume => 3
  | .impossibleSubvolumeId _ => 4

/-- The rule is broken, and none before it. -/
structure OptionsError.FirstBroken (raw : RawOptions) (error : OptionsError) : Prop where
  broken : error.Broken raw
  first : ∀ earlier : OptionsError, earlier.rank < error.rank → ¬ earlier.Broken raw

section
variable {raw : RawOptions} {error other : OptionsError} {options : Options}

theorem OptionsError.FirstBroken.unique (h : error.FirstBroken raw) (ho : other.FirstBroken raw) :
    error = other := by
  have hrank : error.rank = other.rank := Nat.le_antisymm
    (Nat.le_of_not_lt fun hlt => h.first other hlt ho.broken)
    (Nat.le_of_not_lt fun hlt => ho.first error hlt h.broken)
  -- only the last rule is that of several rejections, which name the number
  cases error <;> cases other <;> first | rfl | cases hrank
  obtain ⟨-, hid, -⟩ := h.broken
  obtain ⟨-, hother, -⟩ := ho.broken
  rw [hid] at hother
  cases hother
  rfl

theorem not_broken_of_validate (h : raw.validate = .ok options) : ¬ error.Broken raw := by
  obtain ⟨rfl, hvalid⟩ := validate_eq_ok_iff.1 h
  rw [raw_eq]
  intro hbroken
  cases error with
  | missingMountPoint => simp [OptionsError.Broken, hvalid.mountPoint] at hbroken
  | noDevices => exact hvalid.devices hbroken
  | emptyDevice => exact hvalid.device hbroken
  | conflictingSubvolume =>
    obtain ⟨hname, hid⟩ := hbroken
    cases hs : options.subvolume <;> simp [hs, Subvolume.name?, Subvolume.id?] at hname hid
  | impossibleSubvolumeId id =>
    obtain ⟨-, hid, hinternal⟩ := hbroken
    have hs : options.subvolume = .byId id := by
      cases hs : options.subvolume <;> simp_all [Subvolume.id?]
    exact hinternal.elim (hvalid.subvolume id hs).1 (hvalid.subvolume id hs).2

/-- Rule after rule is kept. -/
theorem kept_succ {n : Nat} (h : ∀ error : OptionsError, error.rank < n → ¬ error.Broken raw)
    (hn : ∀ error : OptionsError, error.rank = n → ¬ error.Broken raw) :
    ∀ error : OptionsError, error.rank < n + 1 → ¬ error.Broken raw :=
  fun error hlt => (Nat.lt_succ_iff_lt_or_eq.1 hlt).elim (h error) (hn error)

theorem firstBroken_of_validate (h : raw.validate = .error error) : error.FirstBroken raw := by
  have hnone : ∀ error : OptionsError, error.rank < 0 → ¬ error.Broken raw := nofun
  rw [RawOptions.validate] at h
  split at h
  next habsent =>
    cases h
    exact ⟨.inl habsent, hnone⟩
  next mountPoint hpresent =>
    split at h
    next hempty =>
      cases h
      exact ⟨.inr (hempty ▸ hpresent), hnone⟩
    next hmountPoint =>
      have hmounted := kept_succ hnone fun
        | .missingMountPoint, _ => by simp [OptionsError.Broken, hpresent, hmountPoint]
      split at h
      next hempty =>
        cases h
        exact ⟨hempty, hmounted⟩
      next hdevices =>
        have hsome := kept_succ hmounted fun | .noDevices, _ => hdevices
        split at h
        next hempty =>
          cases h
          exact ⟨by simpa [OptionsError.Broken] using hempty, hsome⟩
        next hdevice =>
          have hnamed := kept_succ hsome fun
            | .emptyDevice, _ => by simpa [OptionsError.Broken] using hdevice
          split at h
          next error' hselect =>
            cases h
            rcases select_eq_error hselect with ⟨rfl, hboth⟩ | ⟨number, rfl, hname, hid, hinternal⟩
            · exact ⟨hboth, hnamed⟩
            · have hselected := kept_succ hnamed fun
                | .conflictingSubvolume, _ => fun hboth => hboth.1 hname
              exact ⟨⟨hname, hid, hinternal⟩, hselected⟩
          next => cases h

/-- **The first rule that is broken is reported.** -/
theorem validate_eq_error_iff : raw.validate = .error error ↔ error.FirstBroken raw := by
  refine ⟨firstBroken_of_validate, fun hfirst => ?_⟩
  cases hresult : raw.validate with
  | ok options => exact absurd hfirst.broken (not_broken_of_validate hresult)
  | error other => rw [(firstBroken_of_validate hresult).unique hfirst]

end

/-- **Validation is an exact gate that loses nothing.**  Options pass if and only if no rule is
    broken, and else the first one that is is reported; what has passed has the same fields as
    before, and passes again. -/
theorem validation_exact (raw : RawOptions) :
    ((∃ options, raw.validate = .ok options) ↔ ∀ error : OptionsError, ¬ error.Broken raw) ∧
    (∀ options, raw.validate = .ok options →
      options.raw = raw ∧ options.raw.validate = .ok options) ∧
    ∀ error, raw.validate = .error error ↔ error.FirstBroken raw := by
  refine ⟨⟨fun ⟨options, h⟩ error => not_broken_of_validate h, fun h => ?_⟩, fun options h => ?_,
    fun error => validate_eq_error_iff⟩
  · cases hresult : raw.validate with
    | ok options => exact ⟨options, rfl⟩
    | error error => exact absurd (validate_eq_error_iff.1 hresult).broken (h error)
  · obtain ⟨rfl, -⟩ := validate_eq_ok_iff.1 h
    exact ⟨rfl, h⟩

/-- An empty name and an empty dump target are kept.  Of two rules that are broken, the one about
    devices comes first. -/
theorem validation_exact_empty :
    let raw : RawOptions :=
      { mountPoint := some "/mnt", devices := ["/dev/sdb"], subvolName := some "",
        dumpTarget := some "" }
    let wrong : RawOptions :=
      { raw with devices := ["/dev/sdb", ""], subvolId := some 0xFFFFFFFFFFFFFFFE }
    (∃ options, raw.validate = .ok options ∧ options.raw = raw ∧
        options.raw.validate = .ok options) ∧
      wrong.validate = .error .emptyDevice := by
  intro raw wrong
  obtain ⟨-, hkept, -⟩ := validation_exact raw
  obtain ⟨-, -, hrejected⟩ := validation_exact wrong
  exact ⟨⟨_, rfl, hkept _ rfl⟩, (hrejected _).2 ⟨by decide, fun
    | .missingMountPoint, _ | .noDevices, _ => by decide⟩⟩

end MountControl.Volume
