/-
  MountControl — mount options, field by field.

  * `RawOptions.fields_cut`: what stands in front of a field in the fields of
    mount options;
  * `RawOptions.accept_keeps`: no field says what is mounted and where, both;
  * `RawOptions.foldlM_kept`: fields that were accepted stay.
-/
import MountControl.Proofs.Wire.RequestRoundTrip

namespace MountControl.Wire

/-- Does the field say what is mounted, or where? -/
def Field.Names (field : Field) : Prop :=
  (∃ path, field = .mountPoint path) ∨ ∃ path, field = .device path

end MountControl.Wire

namespace MountControl.Volume

open Wire (Field foldlM_cons_eq_ok map_eq_ok setOnce_map_eq_ok)

theorem RawOptions.exists_flags (options : RawOptions) :
    ∃ flags : List Field, (∀ field ∈ flags, ¬ field.Names) ∧
      ∀ devices, { options with devices }.fields =
        flags ++ options.mountPoint.toList.map .mountPoint ++ devices.map .device := by
  refine ⟨options.subvolName.toList.map .subvol ++ options.subvolId.toList.map .subvolId
    ++ options.dumpTarget.toList.map .dump ++ (if options.testRun then [.testRun true] else []),
    ?_, fun devices => rfl⟩
  rintro field hfield (⟨path, rfl⟩ | ⟨path, rfl⟩)
  · simp at hfield
  · simp at hfield

/-- **Mount options are cut among their devices**, or before anything says what is mounted and
    where. -/
theorem RawOptions.fields_cut {options : RawOptions} {before after : List Field} {field : Field}
    (h : options.fields = before ++ field :: after) :
    (∃ device devices, field = .device device ∧ devices ++ [device] <+: options.devices ∧
      before = { options with devices }.fields) ∨
    ∀ other ∈ before, ¬ other.Names := by
  obtain ⟨flags, hflags, hfields⟩ := options.exists_flags
  have hdevice : ∀ front, before = flags ++ options.mountPoint.toList.map .mountPoint ++ front →
      options.devices.map .device = front ++ field :: after →
        ∃ device devices, field = .device device ∧ devices ++ [device] <+: options.devices ∧
          before = { options with devices }.fields := by
    intro front hbefore hdevices
    obtain ⟨devices, rest, hrest, rfl, hlast⟩ := List.map_eq_append_iff.1 hdevices
    obtain ⟨device, more, rfl, rfl, -⟩ := List.map_eq_cons_iff.1 hlast
    refine ⟨device, devices, rfl, ⟨more, ?_⟩, by rw [hbefore, hfields]⟩
    rw [hrest, List.append_assoc]
    rfl
  have hall := hfields options.devices
  rw [h] at hall
  rcases List.append_eq_append_iff.1 hall with ⟨later, hhead, hlater⟩ | ⟨front, hhead, hdevices⟩
  · rcases later with _ | ⟨first, later⟩
    · exact .inl (hdevice [] (by rw [hhead, List.append_nil, List.append_nil]) hlater.symm)
    · -- there is one mount point at most, so that all before it are flags
      have hbefore : before <+: flags := by
        rcases List.append_eq_append_iff.1 hhead.symm with ⟨more, hmore, -⟩ | ⟨more, rfl, hmore⟩
        · exact ⟨more, hmore.symm⟩
        · have hlength := congrArg List.length hmore
          have hle : options.mountPoint.toList.length ≤ 1 := by cases options.mountPoint <;> simp
          simp only [List.length_map, List.length_append, List.length_cons] at hlength
          obtain rfl : more = [] := List.eq_nil_of_length_eq_zero (by omega)
          exact ⟨[], by simp⟩
      exact .inr fun other hother => hflags other (hbefore.subset hother)
  · exact .inl (hdevice front hhead hdevices)

theorem RawOptions.accept_keeps {options after : RawOptions} {field : Field}
    (h : options.accept field = .ok after) :
    (after.mountPoint = options.mountPoint ∨ after.devices = options.devices) ∧
      (¬ field.Names →
        after.mountPoint = options.mountPoint ∧ after.devices = options.devices) := by
  cases field with
  | subvol | subvolId | dump =>
    obtain ⟨-, rfl⟩ := setOnce_map_eq_ok.1 h
    exact ⟨.inl rfl, fun _ => ⟨rfl, rfl⟩⟩
  | testRun =>
    cases h
    exact ⟨.inl rfl, fun _ => ⟨rfl, rfl⟩⟩
  | mountPoint path =>
    obtain ⟨-, rfl⟩ := setOnce_map_eq_ok.1 h
    exact ⟨.inr rfl, fun hnames => absurd (.inl ⟨path, rfl⟩) hnames⟩
  | device path =>
    cases h
    exact ⟨.inl rfl, fun hnames => absurd (.inr ⟨path, rfl⟩) hnames⟩
  | _ => cases h

theorem RawOptions.foldlM_keeps {fields : List Field} {options after : RawOptions}
    (h : fields.foldlM RawOptions.accept options = .ok after)
    (hnames : ∀ field ∈ fields, ¬ field.Names) :
    after.mountPoint = options.mountPoint ∧ after.devices = options.devices := by
  induction fields generalizing options with
  | nil => cases h; exact ⟨rfl, rfl⟩
  | cons field fields ih =>
    rw [List.forall_mem_cons] at hnames
    obtain ⟨next, haccept, hlater⟩ := foldlM_cons_eq_ok.1 h
    obtain ⟨hpoint, hdevices⟩ := (accept_keeps haccept).2 hnames.1
    rw [← hpoint, ← hdevices]
    exact ih hlater hnames.2

/-- What was accepted stays; only the test flag may be given again. -/
theorem RawOptions.kept_of_accept {options after : RawOptions} {field : Field}
    (h : options.accept field = .ok after) {kept : Field}
    (hkept : kept ∈ options.fields ∨ kept = field) :
    kept ∈ after.fields ∨ ∃ flag, kept = .testRun flag := by
  cases field with
  | subvol | subvolId | dump | mountPoint =>
    obtain ⟨hnone, rfl⟩ := setOnce_map_eq_ok.1 h
    simp only [RawOptions.fields, hnone, Option.toList_none, Option.toList_some, List.map_nil,
      List.map_cons, List.nil_append, List.mem_append, List.mem_singleton] at hkept ⊢
    grind
  | testRun | device =>
    cases h
    simp only [RawOptions.fields, List.map_append, List.mem_append] at hkept ⊢
    grind
  | _ => cases h

theorem RawOptions.foldlM_kept {fields : List Field} {options after : RawOptions}
    (h : fields.foldlM RawOptions.accept options = .ok after) {kept : Field}
    (hkept : kept ∈ options.fields ∨ kept ∈ fields) :
    kept ∈ after.fields ∨ ∃ flag, kept = .testRun flag := by
  induction fields generalizing options with
  | nil => cases h; exact .inl (by simpa using hkept)
  | cons field fields ih =>
    obtain ⟨next, haccept, hlater⟩ := foldlM_cons_eq_ok.1 h
    have hnext : kept ∈ options.fields ∨ kept = field →
        kept ∈ after.fields ∨ ∃ flag, kept = .testRun flag := fun hkept =>
      (kept_of_accept haccept hkept).elim (fun hkept => ih hlater (.inl hkept)) .inr
    rcases hkept with hkept | hkept
    · exact hnext (.inl hkept)
    · rcases List.mem_cons.1 hkept with rfl | hkept
      · exact hnext (.inr rfl)
      · exact ih hlater (.inr hkept)

end MountControl.Volume
