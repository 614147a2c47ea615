/-
  MountControl — where the command begins.

  Flags for settings stand before the command.  What is one is a matter of
  bytes: a flag's name alone, or the name, an equals sign and any bytes at
  all.

  * `IsNamed` and `IsInline` are the two forms, and `Flags` is a row of flags
    that each have their value;
  * `roleOf_eq_needsValue_iff` and `roleOf_eq_complete_iff`: reading arguments
    as texts finds just these;
  * `splitTail_eq_iff`: a command line is divided where its flags end;
  * `arguments_divided`: hence nothing is lost, and no other division will do.
-/
import MountControl.Client.Arguments
import MountControl.Proofs.Text.Ascii
import MountControl.Proofs.Text.Cutting

namespace MountControl.Client

open Config (Argument Flag)

/-! ## Flags -/

/-- The argument is the name of a flag, which has its value in the next argument. -/
def IsNamed (argument : Argument) : Prop :=
  ∃ flag ∈ Flag.all, argument = .ofText flag.name

/-- The argument is the name of a flag with its value, which may be any bytes. -/
def IsInline (argument : Argument) : Prop :=
  ∃ flag ∈ Flag.all, ∃ value, argument = .ofText flag.name ++ Config.equals :: value

/-- A row of flags before a command, each with its value.  The value of the last one may be missing,
    if the command is as well. -/
inductive Flags (command : List Argument) : List Argument → Prop
  | none : Flags command []
  | inline {argument : Argument} {rest : List Argument} :
      IsInline argument → Flags command rest → Flags command (argument :: rest)
  | named {argument value : Argument} {rest : List Argument} :
      IsNamed argument → Flags command rest → Flags command (argument :: value :: rest)
  | last {argument : Argument} : IsNamed argument → command = [] → Flags command [argument]

/-- The arguments after the program's name are flags and then a command, which begins with no
    flag. -/
structure Divided (arguments settings command : List Argument) : Prop where
  whole : arguments = settings ++ command
  flags : Flags command settings
  begins : ∀ first ∈ command.head?, ¬ IsNamed first ∧ ¬ IsInline first

/-! ## Roles -/

theorem plain_name {flag : Flag} (h : flag ∈ Flag.all) :
    ∀ c ∈ flag.name.toList, c.toNat < 0x80 := by
  have hall : (Flag.all.all fun flag => flag.name.toList.all (·.toNat < 0x80)) = true := by decide
  simp only [List.all_eq_true, decide_eq_true_eq] at hall
  exact hall flag h

theorem equals_not_mem_name {flag : Flag} (h : flag ∈ Flag.all) : '=' ∉ flag.name.toList := by
  revert flag
  decide

theorem mem_settingFlags {name : List Char} :
    settingFlags.contains name = true ↔ ∃ flag ∈ Flag.all, flag.name.toList = name := by
  rw [List.contains_iff_mem, settingFlags, List.mem_map]

theorem decodeLossy_eq_name_iff {flag : Flag} (h : flag ∈ Flag.all) {argument : Argument} :
    Text.decodeLossy argument = flag.name.toList ↔ argument = .ofText flag.name := by
  have hread : Text.decodeLossy argument = flag.name.toList ++ [] ↔ _ :=
    Text.decodeLossy_eq_plain_append (plain_name h)
  rw [List.append_nil] at hread
  rw [hread]
  constructor
  · rintro ⟨rest, rfl, hrest⟩
    rw [Text.decodeLossy_eq_nil_iff] at hrest
    rw [hrest, List.append_nil]
    rfl
  · rintro rfl
    exact ⟨[], (List.append_nil _).symm, Text.decodeLossy_eq_nil_iff.2 rfl⟩

theorem decodeLossy_eq_inline_iff {flag : Flag} (h : flag ∈ Flag.all) {argument : Argument} :
    (∃ value, Text.decodeLossy argument = flag.name.toList ++ '=' :: value) ↔
      ∃ value, argument = .ofText flag.name ++ Config.equals :: value := by
  have hplain : ∀ c ∈ flag.name.toList ++ ['='], c.toNat < 0x80 := by
    rw [List.forall_mem_append]
    exact ⟨plain_name h, List.forall_mem_singleton.2 (by decide)⟩
  have hencode : Text.encode (flag.name.toList ++ ['=']) =
      Argument.ofText flag.name ++ [Config.equals] := by
    rw [Text.encode, List.flatMap_append]
    rfl
  constructor
  · rintro ⟨value, htext⟩
    rw [List.append_cons, Text.decodeLossy_eq_plain_append hplain, hencode] at htext
    obtain ⟨rest, rfl, -⟩ := htext
    exact ⟨rest, by rw [List.append_assoc]; rfl⟩
  · rintro ⟨value, rfl⟩
    refine ⟨Text.decodeLossy value, ?_⟩
    rw [List.append_cons _ '=', Text.decodeLossy_eq_plain_append hplain, hencode]
    exact ⟨value, List.append_cons .., rfl⟩

/-- **An argument asks for a value exactly if it is a flag's name**, byte by byte. -/
theorem roleOf_eq_needsValue_iff {argument : Argument} :
    roleOf argument = .needsValue ↔ IsNamed argument := by
  constructor
  · intro h
    rw [roleOf] at h
    split at h
    next => split at h <;> cases h
    next =>
      split at h
      next hname =>
        obtain ⟨flag, hflag, hname⟩ := mem_settingFlags.1 hname
        exact ⟨flag, hflag, (decodeLossy_eq_name_iff hflag).1 hname.symm⟩
      next => cases h
  · rintro ⟨flag, hflag, rfl⟩
    have hread := (decodeLossy_eq_name_iff hflag).2 rfl
    have hmem := mem_settingFlags.2 ⟨flag, hflag, rfl⟩
    simp only [roleOf, hread, Text.cut_eq_none (equals_not_mem_name hflag), hmem, if_true]

/-- **An argument is complete exactly if it is a flag's name with a value.** -/
theorem roleOf_eq_complete_iff {argument : Argument} :
    roleOf argument = .complete ↔ IsInline argument := by
  constructor
  · intro h
    rw [roleOf] at h
    split at h
    next name value hcut =>
      split at h
      next hname =>
        obtain ⟨flag, hflag, rfl⟩ := mem_settingFlags.1 hname
        have hread := (Text.of_cut_eq_some hcut).1
        exact ⟨flag, hflag, (decodeLossy_eq_inline_iff hflag).1 ⟨value, hread⟩⟩
      next => cases h
    next => split at h <;> cases h
  · rintro ⟨flag, hflag, hvalue⟩
    obtain ⟨value, hread⟩ := (decodeLossy_eq_inline_iff hflag).2 hvalue
    have hmem := mem_settingFlags.2 ⟨flag, hflag, rfl⟩
    simp only [roleOf, hread, Text.cut_append (equals_not_mem_name hflag), hmem, if_true]

theorem roleOf_eq_command_iff {argument : Argument} :
    roleOf argument = .command ↔ ¬ IsNamed argument ∧ ¬ IsInline argument := by
  rw [← roleOf_eq_needsValue_iff, ← roleOf_eq_complete_iff]
  cases roleOf argument <;> simp

/-! ## Dividing -/

theorem divided_splitTail (arguments : List Argument) :
    Divided arguments (splitTail arguments).1 (splitTail arguments).2 := by
  fun_induction splitTail arguments with
  | case1 => exact ⟨rfl, .none, nofun⟩
  | case2 argument rest hrole =>
    refine ⟨rfl, .none, ?_⟩
    rintro first ⟨⟩
    exact roleOf_eq_command_iff.1 hrole
  | case3 argument rest hrole front back hsplit ih =>
    rw [hsplit] at ih
    have hinline := roleOf_eq_complete_iff.1 hrole
    exact ⟨congrArg (argument :: ·) ih.whole, .inline hinline ih.flags, ih.begins⟩
  | case4 argument hrole =>
    exact ⟨rfl, .last (roleOf_eq_needsValue_iff.1 hrole) rfl, nofun⟩
  | case5 argument hrole value rest front back hsplit ih =>
    rw [hsplit] at ih
    have hnamed := roleOf_eq_needsValue_iff.1 hrole
    exact ⟨congrArg (argument :: value :: ·) ih.whole, .named hnamed ih.flags, ih.begins⟩

/-- Where flags are followed by a command, the flags are taken off, and nothing else. -/
theorem splitTail_append {settings command : List Argument} (h : Flags command settings)
    (hbegins : ∀ first ∈ command.head?, ¬ IsNamed first ∧ ¬ IsInline first) :
    splitTail (settings ++ command) = (settings, command) := by
  induction h with
  | none =>
    cases command with
    | nil => rfl
    | cons first rest =>
      have hrole := roleOf_eq_command_iff.2 (hbegins first rfl)
      rw [List.nil_append, splitTail.eq_def]
      simp only [hrole]
  | inline hinline _ ih =>
    rw [List.cons_append, splitTail.eq_def]
    simp only [roleOf_eq_complete_iff.2 hinline, ih]
  | named hnamed _ ih =>
    rw [List.cons_append, List.cons_append, splitTail.eq_def]
    simp only [roleOf_eq_needsValue_iff.2 hnamed, ih]
  | last hnamed hnone =>
    rw [hnone, List.append_nil, splitTail.eq_def]
    simp only [roleOf_eq_needsValue_iff.2 hnamed]

/-- **A command line is divided where its flags end**, which is in one place. -/
theorem splitTail_eq_iff {arguments settings command : List Argument} :
    splitTail arguments = (settings, command) ↔ Divided arguments settings command := by
  constructor
  · intro h
    have hdivided := divided_splitTail arguments
    rwa [h] at hdivided
  · rintro ⟨rfl, hflags, hbegins⟩
    exact splitTail_append hflags hbegins

theorem split_eq (program : Argument) {arguments settings command : List Argument}
    (h : Divided arguments settings command) :
    Arguments.split (program :: arguments) = ⟨program :: settings, program :: command⟩ := by
  rw [Arguments.split, splitTail_eq_iff.2 h]

/-- What is left of a command line has no flags in front. -/
theorem Divided.command {arguments settings command : List Argument}
    (h : Divided arguments settings command) : Divided command [] command :=
  ⟨rfl, .none, h.begins⟩

/-- **The two parts of a command line are all of it.**  Both start with the program's name; behind it
    stand the flags for settings, each with its value, and the command, which begins with no such
    flag.  There is no other division of this kind, and the command's part is not divided again. -/
theorem arguments_divided (program : Argument) (arguments : List Argument) :
    ∃ settings command,
      Arguments.split (program :: arguments) = ⟨program :: settings, program :: command⟩ ∧
      Divided arguments settings command ∧
      (∀ front back, Divided arguments front back → front = settings ∧ back = command) ∧
      Arguments.split (program :: command) = ⟨[program], program :: command⟩ := by
  have hdivided := divided_splitTail arguments
  refine ⟨_, _, split_eq program hdivided, hdivided, fun front back hother => ?_,
    split_eq program hdivided.command⟩
  rw [splitTail_eq_iff.2 hother]
  exact ⟨rfl, rfl⟩

/-- The value of a flag may look like a flag and need be no text, and behind the command there are no
    more flags for settings. -/
theorem arguments_divided_odd :
    let settings := ["--log-filter", "--log-format"].map Argument.ofText ++
      [Argument.ofText "--config-path=" ++ [0xFF]]
    let command := ["list", "--log-format=json"].map Argument.ofText
    Divided (settings ++ command) settings command ∧
      Arguments.split (.ofText "btrmount" :: (settings ++ command)) =
        ⟨.ofText "btrmount" :: settings, .ofText "btrmount" :: command⟩ := by
  intro settings command
  have hnamed : IsNamed (.ofText "--log-filter") := roleOf_eq_needsValue_iff.1 (by decide +kernel)
  have hinline : IsInline (Argument.ofText "--config-path=" ++ [0xFF]) :=
    roleOf_eq_complete_iff.1 (by decide +kernel)
  have hdivided : Divided (settings ++ command) settings command := by
    refine ⟨rfl, .named hnamed (.inline hinline .none), ?_⟩
    rintro first ⟨⟩
    exact roleOf_eq_command_iff.1 (by decide +kernel)
  obtain ⟨front, back, hsplit, -, honly, -⟩ :=
    arguments_divided (.ofText "btrmount") (settings ++ command)
  obtain ⟨rfl, rfl⟩ := honly _ _ hdivided
  exact ⟨hdivided, hsplit⟩

end MountControl.Client
