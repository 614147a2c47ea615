/-
  MountControl — a request that is cut off.

  The end of the stream is the end of a message, so that a request of which
  only some bytes came is read as any other text.

  * `message_records`: records that came whole are taken up, and what follows
    them is read as a body of its own;
  * `message_cut`: a record that is cut is no more than one field, and
    `message_cut_counted` says which; or its first line is skipped, and what
    came of the other lines of its value is read as records;
  * `truncated_request_mounts_named`: apart from such lines, nothing is
    mounted that the whole request does not name, nor anywhere else.

  `truncated_request_mounts_unnamed` is a request with such lines.
-/
import Mathlib.Data.List.Infix
import MountControl.Proofs.Text.Truncation
import MountControl.Proofs.Volume.Validation
import MountControl.Proofs.Wire.MountFields
import MountControl.Proofs.Wire.Reencoding
import MountControl.Proofs.Wire.StrayLine

namespace MountControl.Wire

open Text (byteLength)
open Text.Numeral (decimal)
open Volume (Options RawOptions)

/-! ## The last record -/

/-- What stands on one line is read at once. -/
theorem rest_of_next {text : List Char} {line : Nat} {item : Item} {after : Reader}
    (hbreak : '\n' ∉ text) (h : Reader.next ⟨text, line, none⟩ = some (item, after)) :
    after.rest = [] := by
  simp only [Reader.next] at h
  split at h
  next => cases h
  next =>
    split at h
    next => cases h; exact Text.afterLine_of_not_mem hbreak
    next key afterKey hkey =>
      split at h
      next => cases h; exact Text.afterLine_of_not_mem hbreak
      next value tail hvalue =>
        cases h
        obtain ⟨name, -, rfl⟩ := exists_of_countedKey? hkey
        obtain ⟨length, bytes, -, -, rfl⟩ := exists_of_countedValue? hvalue
        exact Text.afterLine_of_not_mem fun hmem => hbreak (by simp [hmem])

section
variable {α : Type} {accept : α → Field → Except IssueKind α}

/-- On which line a body starts is of no account for its message. -/
theorem message_moved (start : α) (rest : List Char) (lines : Nat) :
    ((Reader.items ⟨rest, 1 + lines, none⟩).foldl (Decoded.offer accept) ⟨start, []⟩).message =
      (readBody accept start rest).message := by
  have hitems := items_moved lines ⟨rest, 1, none⟩
  have hmoved := @foldl_offer_moved α accept lines (Reader.items ⟨rest, 1, none⟩) start []
  rw [← hitems] at hmoved
  have hmessage := congrArg Decoded.message hmoved
  exact hmessage

/-- **Records are taken up, and what follows them is read as a body of its own.** -/
theorem message_records {fields : List Field} {start middle : α}
    (hs : ∀ field ∈ fields, field.Sized) (h : fields.foldlM accept start = .ok middle)
    (rest : List Char) :
    (readBody accept start (fields.flatMap Field.render ++ rest)).message =
      (readBody accept middle rest).message := by
  simp only [readBody, items_render hs, List.foldl_append,
    foldl_offer h (length_recordLines 1 fields)]
  exact message_moved middle rest _

theorem message_nil (start : α) : (readBody accept start []).message = start := by
  have hend : Reader.items ⟨[], 1, none⟩ = [] := items_of_end rfl
  simp only [readBody, hend]
  rfl

/-- A line that is skipped is as good as none. -/
theorem message_skipped {start : α} {text rest : List Char} {issue : Issue}
    (h : Reader.next ⟨text, 1, none⟩ = some (.issue issue, ⟨rest, 2, none⟩)) :
    (readBody accept start text).message = (readBody accept start rest).message := by
  simp only [readBody, items_of_next h, List.foldl_cons, Decoded.offer]
  rw [foldl_offer_issues]
  exact message_moved start rest 1

/-- Behind the last item, there is nothing to take up. -/
theorem message_last {start : α} {text : List Char} {item : Item} {after : Reader}
    (h : Reader.next ⟨text, 1, none⟩ = some (item, after)) (hend : after.rest = []) :
    (readBody accept start text).message = start ∨
      ∃ line read, item = .field line read ∧
        accept start read = .ok (readBody accept start text).message := by
  have hlater : ∀ decoded : Decoded α,
      (after.items.foldl (Decoded.offer accept) decoded).message = decoded.message := by
    intro decoded
    rcases after with ⟨rest, line, _ | issue⟩
    · cases hend
      rw [items_of_end rfl]
      rfl
    · -- bytes beyond the declared length are an issue, and no field
      cases hend
      rw [items_of_next rfl, items_of_end rfl]
      rfl
  have hmessage : (readBody accept start text).message =
      (Decoded.offer accept ⟨start, []⟩ item).message := by
    simp only [readBody, items_of_next h, List.foldl_cons]
    exact hlater _
  rw [hmessage]
  cases item with
  | issue issue => exact .inl rfl
  | field line read =>
    simp only [Decoded.offer]
    split
    next next haccept => exact .inr ⟨line, read, rfl, haccept⟩
    next => exact .inl rfl

/-- A line without its end is no more than one field. -/
theorem message_one_line {start : α} {text : List Char} (hbreak : '\n' ∉ text) :
    (readBody accept start text).message = start ∨
      ∃ read, accept start read = .ok (readBody accept start text).message := by
  rcases hnext : Reader.next ⟨text, 1, none⟩ with _ | ⟨item, after⟩
  · simp only [readBody, items_of_end hnext]
    exact .inl rfl
  · rcases message_last hnext (rest_of_next hbreak hnext) with h | ⟨-, read, -, haccept⟩
    · exact .inl h
    · exact .inr ⟨read, haccept⟩

end

/-! ## A record that is cut -/

/-- Where a text is cut, nothing comes up that was not in it, apart from a replacement. -/
theorem not_mem_cut {c : Char} {text front tail : List Char} (hc : c ≠ Text.replacement)
    (htext : c ∉ text) (hfront : front <+: text)
    (htail : tail = [] ∨ tail = [Text.replacement]) : c ∉ front ++ tail := by
  intro h
  rcases List.mem_append.1 h with h | h
  · exact htext (hfront.subset h)
  · rcases htail with rfl | rfl
    · cases h
    · exact hc (List.mem_singleton.1 h)

theorem noBreak_name (key : CountedKey) : '\n' ∉ key.name.toList := by
  cases key <;> decide

theorem countedKey?_name (key : CountedKey) (rest : List Char) :
    countedKey? (key.name.toList ++ '|' :: rest) = some (key, rest) := by
  cases key <;> rfl

theorem next_keyed (key : CountedKey) (rest : List Char) :
    Reader.next ⟨key.name.toList ++ '|' :: rest, 1, none⟩ =
      match countedValue? rest with
      | none => some (.issue (.about 1 .badLength (Text.line (key.name.toList ++ '|' :: rest))),
          ⟨Text.afterLine (key.name.toList ++ '|' :: rest), 2, none⟩)
      | some (value, tail) => some (.field 1 (key.field (String.ofList value)),
          Reader.afterValue ⟨key.name.toList ++ '|' :: rest, 1, none⟩ value tail) := by
  have hne : (key.name.toList ++ '|' :: rest).isEmpty = false := by simp
  simp only [Reader.next, hne, countedKey?_name]
  rfl

/-- What there is of a key alone is no field. -/
theorem cut_key (key : CountedKey) {front tail : List Char} (hfront : front <+: key.name.toList)
    (htail : tail = [] ∨ tail = [Text.replacement]) :
    countedKey? (front ++ tail) = none ∧ ∀ read, Field.ofLine (front ++ tail) ≠ .ok read := by
  have hall : ∀ front ∈ key.name.toList.inits, ∀ tail ∈ [[], [Text.replacement]],
      countedKey? (front ++ tail) = none ∧ (Field.ofLine (front ++ tail)).toOption = none := by
    cases key <;> decide +kernel
  obtain ⟨hkey, hline⟩ := hall front ((List.mem_inits _ _).2 hfront) tail (by simpa using htail)
  refine ⟨hkey, fun read hread => ?_⟩
  rw [hread] at hline
  cases hline

theorem ofLine_of_plainItem {number line : Nat} {text : List Char} {read : Field}
    (h : plainItem number text = .field line read) : Field.ofLine text = .ok read := by
  rw [plainItem] at h
  split at h
  next => cases h
  next =>
    split at h
    next field hread => cases h; exact hread
    next => cases h

/-- A length without the bar behind it is none. -/
theorem countedValue?_of_noBar {text : List Char} (h : '|' ∉ text) : countedValue? text = none := by
  simp only [countedValue?]
  split
  next body heq =>
    have hmem : '|' ∈ text := List.mem_of_mem_drop (heq ▸ List.mem_cons_self)
    exact absurd hmem h
  next => rfl

section
variable {α : Type} (accept : α → Field → Except IssueKind α) (start : α)

/-- A key that is cut is skipped. -/
theorem message_cut_key (key : CountedKey) {front tail : List Char}
    (hfront : front <+: key.name.toList) (htail : tail = [] ∨ tail = [Text.replacement]) :
    (readBody accept start (front ++ tail)).message = start := by
  obtain ⟨hkey, hline⟩ := cut_key key hfront htail
  have hbreak := not_mem_cut (by decide) (noBreak_name key) hfront htail
  rcases hnext : Reader.next ⟨front ++ tail, 1, none⟩ with _ | ⟨item, after⟩
  · simp only [readBody, items_of_end hnext]
    rfl
  · -- what is read on the line would be a plain field
    refine (message_last hnext (rest_of_next hbreak hnext)).resolve_right ?_
    rintro ⟨line, read, rfl, -⟩
    simp only [Reader.next, hkey, Text.line_of_not_mem hbreak] at hnext
    split at hnext
    next => cases hnext
    next => exact hline read (ofLine_of_plainItem (Prod.mk.inj (Option.some.inj hnext)).1)

/-- Where a counted value cannot be cut off, the line of its key is skipped. -/
theorem message_badLength (key : CountedKey) {rest : List Char} (h : countedValue? rest = none) :
    (readBody accept start (key.name.toList ++ '|' :: rest)).message =
      (readBody accept start (Text.afterLine (key.name.toList ++ '|' :: rest))).message := by
  have hnext := next_keyed key rest
  rw [h] at hnext
  exact message_skipped hnext

/-- A value that is cut is no field, or one with the same key; or the line of its key is
    skipped. -/
theorem message_cut_value (key : CountedKey) {value : String}
    (hs : value.utf8ByteSize < UInt64.size) {front tail : List Char}
    (hfront : front <+: value.toList) (htail : tail = [] ∨ tail = [Text.replacement]) :
    let text := key.name.toList ++ '|' :: (decimal value.utf8ByteSize ++ '|' :: (front ++ tail))
    let message := (readBody accept start text).message
    message = start ∨
      (∃ other, accept start (key.field other) = .ok message ∧ (tail = [] → other = value)) ∨
      front ≠ value.toList ∧ message = (readBody accept start (Text.afterLine text)).message := by
  intro text message
  have hnext := next_keyed key (decimal value.utf8ByteSize ++ '|' :: (front ++ tail))
  have hvalue := countedValue?_decimal hs (front ++ tail)
  have hbytes := Text.byteLength_toList value
  rcases hread : Text.splitBytes value.utf8ByteSize (front ++ tail) with _ | ⟨read, rest⟩
  · rw [hread] at hvalue
    refine .inr (.inr ⟨?_, message_badLength accept start key hvalue⟩)
    rintro rfl
    rw [← hbytes, Text.splitBytes_append] at hread
    cases hread
  · rw [hvalue, hread] at hnext
    rw [← hbytes] at hread
    obtain ⟨hrest, hsame⟩ := Text.splitBytes_cut hfront hread
    have hbreak : '\n' ∉ [] ++ tail :=
      not_mem_cut (by decide) List.not_mem_nil (List.prefix_refl _) htail
    have hend : Text.afterLine rest = [] :=
      Text.afterLine_of_not_mem fun h => hbreak (hrest.subset h)
    refine (message_last hnext hend).imp_right ?_
    rintro ⟨line, other, hother, haccept⟩
    cases hother
    exact .inl ⟨_, haccept, fun htail => by rw [hsame htail, String.ofList_toList]⟩

/-- **A counted record that is cut** is no field, or one with the same key; or its first line is
    skipped, and what there is of the others is read as records. -/
theorem message_cut_counted (key : CountedKey) {value : String}
    (hs : value.utf8ByteSize < UInt64.size) {part tail : List Char}
    (hpart : part <+: (key.field value).render) (hproper : part ≠ (key.field value).render)
    (htail : tail = [] ∨ tail = [Text.replacement]) :
    let message := (readBody accept start (part ++ tail)).message
    message = start ∨
      (∃ other, accept start (key.field other) = .ok message ∧ (tail = [] → other = value)) ∨
      '\n' ∈ part ∧ part ++ ['\n'] ≠ (key.field value).render ∧
        message = (readBody accept start (Text.afterLine (part ++ tail))).message := by
  intro message
  -- nothing follows a line without an end
  have hline : '\n' ∉ part → message =
      (readBody accept start (Text.afterLine (part ++ tail))).message → message = start := by
    intro hpart hmessage
    have hnone := not_mem_cut (by decide) hpart (List.prefix_refl _) htail
    rw [hmessage, Text.afterLine_of_not_mem hnone, message_nil]
  have hrender : (key.field value).render = key.name.toList ++
      '|' :: (decimal value.utf8ByteSize ++ '|' :: (value.toList ++ ['\n'])) := by
    simp [render_field, countedRecord]
  have hplain := Volume.plain_decimal value.utf8ByteSize
  rw [hrender] at hpart hproper ⊢
  rcases Text.cut_separated hpart with hname | ⟨later, rfl, hlater⟩
  · exact .inl (message_cut_key accept start key hname htail)
  have htext : key.name.toList ++ '|' :: later ++ tail =
      key.name.toList ++ '|' :: (later ++ tail) := by simp
  rcases Text.cut_separated hlater with hlength | ⟨front, rfl, hfront⟩
  · -- of the length alone, all stands on the key's line
    have hnone : countedValue? (later ++ tail) = none :=
      countedValue?_of_noBar (not_mem_cut (by decide) hplain.noBar hlength htail)
    have hmessage := message_badLength accept start key hnone
    rw [← htext] at hmessage
    have hlater : '\n' ∉ later := fun h => hplain.noBreak (hlength.subset h)
    exact .inl (hline (by simp [noBreak_name, hlater]) hmessage)
  · -- not even the line feed behind the value came with it
    have hvalue : front <+: value.toList := by
      refine (List.prefix_concat_iff.1 hfront).resolve_left ?_
      rintro rfl
      exact hproper rfl
    have hcut := message_cut_value accept start key hs hvalue htail
    have hfull : key.name.toList ++ '|' :: (decimal value.utf8ByteSize ++ '|' :: (front ++ tail)) =
        key.name.toList ++ '|' :: (decimal value.utf8ByteSize ++ '|' :: front) ++ tail := by simp
    simp only [hfull] at hcut
    rcases hcut with hnone | hread | ⟨hmissing, hmessage⟩
    · exact .inl hnone
    · exact .inr (.inl hread)
    · by_cases hmem : '\n' ∈ key.name.toList ++ '|' :: (decimal value.utf8ByteSize ++ '|' :: front)
      · exact .inr (.inr ⟨hmem, by simpa using hmissing, hmessage⟩)
      · exact .inl (hline hmem hmessage)

/-- **A record that is cut** is no more than one field; or its first line is skipped, and what
    there is of the others is read as records. -/
theorem message_cut {field : Field} (hs : field.Sized) {part tail : List Char}
    (hpart : part <+: field.render) (hproper : part ≠ field.render)
    (htail : tail = [] ∨ tail = [Text.replacement]) :
    let message := (readBody accept start (part ++ tail)).message
    message = start ∨ (∃ read, accept start read = .ok message) ∨
      '\n' ∈ part ∧ part ++ ['\n'] ≠ field.render ∧
        message = (readBody accept start (Text.afterLine (part ++ tail))).message := by
  intro message
  cases hc : field.counted? with
  | none =>
    obtain ⟨text, hrender, hline⟩ := render_plain hc
    rw [hrender] at hpart hproper
    have hfront := (List.prefix_concat_iff.1 hpart).resolve_left hproper
    have hbreak := not_mem_cut (by decide) hline.noBreak hfront htail
    exact (message_one_line hbreak).imp_right .inl
  | some value =>
    obtain ⟨key, rfl⟩ := exists_of_counted? hc
    rcases message_cut_counted accept start key (hs value hc) hpart hproper htail with
      h | ⟨other, haccept, -⟩ | hskipped
    · exact .inl h
    · exact .inr (.inl ⟨key.field other, haccept⟩)
    · exact .inr (.inr hskipped)

end

/-! ## Requests -/

/-- A mount request of which `before` came whole, and of the record of `field` only `part`; `tail`
    stands for what came of a character that was cut. -/
structure CutRequest (options : Options) (bytes : List UInt8) (before : List Field) (field : Field)
    (part tail : List Char) : Prop where
  fields : before ++ [field] <+: (Request.ofOptions options).fields
  front : part <+: field.render
  proper : part ≠ field.render
  read : Text.decodeLossy bytes =
    markerLine "Mount" ++ before.flatMap Field.render ++ part ++ tail
  ending : tail = [] ∧ bytes =
      Text.encode (markerLine "Mount" ++ before.flatMap Field.render ++ part) ∨
    tail = [Text.replacement] ∧ ∀ text, bytes ≠ Text.encode text

/-- Without its body, a request mounts nothing. -/
theorem message_header {text : List Char} (h : '\n' ∉ text) {raw : RawOptions}
    (hdecode : (Request.decode text).message = .mount raw) : raw = {} := by
  have hmessage : (Request.decode text).message = Request.ofKind (Text.line text) := by
    rw [Request.decode, Text.afterLine_of_not_mem h]
    split
    next kind hkind => exact hkind.symm
    next => exact message_nil _
  rw [hmessage, Request.ofKind] at hdecode
  split_ifs at hdecode
  cases hdecode
  rfl

theorem decode_cut {options : Options} {bytes : List UInt8}
    (hcut : bytes <+: Text.encode (Request.ofOptions options).encode)
    (hproper : bytes ≠ Text.encode (Request.ofOptions options).encode) {raw : RawOptions}
    (hdecode : (Request.decode (Text.decodeLossy bytes)).message = .mount raw) :
    raw = {} ∨ ∃ before field part tail, CutRequest options bytes before field part tail := by
  obtain ⟨front, tail, hfront, hne, hread, htail⟩ := Text.decodeLossy_cut hcut hproper
  have hencode : (Request.ofOptions options).encode =
      "Mount".toList ++ '\n' :: (Request.ofOptions options).fields.flatMap Field.render := by
    simp [Request.encode, Request.ofOptions, Request.kind, markerLine]
  rw [hencode] at hfront hne
  rcases Text.cut_separated hfront with hheader | ⟨body, rfl, hbody⟩
  · have hbreak := not_mem_cut (c := '\n') (by decide) (by decide) hheader
      (htail.imp And.left And.left)
    exact .inl (message_header (hread ▸ hbreak) hdecode)
  · obtain ⟨before, field, after, part, hfields, rfl, hpart, hshort⟩ :=
      Text.cut_flatMap hbody fun heq => hne (by rw [heq])
    have htext : "Mount".toList ++ '\n' :: (before.flatMap Field.render ++ part) =
        markerLine "Mount" ++ before.flatMap Field.render ++ part := by simp [markerLine]
    rw [htext] at hread htail
    exact .inr ⟨before, field, part, tail, ⟨after, by simp [hfields]⟩, hpart, hshort, hread, htail⟩

/-- What came whole is taken up, and the rest is read as a body of its own. -/
theorem message_whole {options : Options} (hsized : (Request.ofOptions options).Sized)
    {before later : List Field} (hfields : options.raw.fields = before ++ later) :
    ∃ raw, before.foldlM RawOptions.accept {} = .ok raw ∧
      ∀ rest, (Request.decode (markerLine "Mount" ++ before.flatMap Field.render ++ rest)).message =
        (readBody Request.accept (.mount raw) rest).message := by
  have hall := options.raw.foldlM_fields
  rw [hfields, List.foldlM_append] at hall
  rcases hraw : before.foldlM RawOptions.accept {} with kind | raw
  · rw [hraw] at hall
    cases hall
  · refine ⟨raw, rfl, fun rest => ?_⟩
    have hmount : before.foldlM Request.accept (.mount {}) = .ok (.mount raw) :=
      foldlM_part Request.mount (fun _ _ _ => rfl) hraw
    have hs : ∀ field ∈ before, field.Sized := fun field hfield =>
      hsized field (show field ∈ options.raw.fields by simp [hfields, hfield])
    rw [List.append_assoc, Request.decode_kind (by decide)]
    exact message_records hs hmount rest

/-- What was taken up stays, whatever is read after it; only the test flag may be given again. -/
theorem kept_of_readBody {whole raw : RawOptions} {rest : List Char}
    (h : (readBody Request.accept (.mount whole) rest).message = .mount raw) {kept : Field}
    (hkept : kept ∈ whole.fields ∨ ∃ flag, kept = .testRun flag) :
    kept ∈ raw.fields ∨ ∃ flag, kept = .testRun flag := by
  have hall : ∃ last, (readBody Request.accept (.mount whole) rest).message = .mount last ∧
      (kept ∈ last.fields ∨ ∃ flag, kept = .testRun flag) := by
    refine readBody_induction (fun request : Request => ∃ options, request = .mount options ∧
      (kept ∈ options.fields ∨ ∃ flag, kept = .testRun flag)) ⟨whole, rfl, hkept⟩ ?_ rest
    rintro _ next field ⟨options, rfl, hkept⟩ - haccept
    obtain ⟨after, hafter, rfl⟩ := map_eq_ok.1 haccept
    exact ⟨after, rfl, hkept.elim
      (fun hkept => RawOptions.kept_of_accept hafter (.inl hkept)) .inr⟩
  obtain ⟨last, hlast, hkept⟩ := hall
  cases h.symm.trans hlast
  exact hkept

section
variable {options accepted : Options} {raw whole : RawOptions} {field : Field}
  {part tail : List Char}

/-- What a cut among the devices comes to: all but the devices has come. -/
theorem named_of_cut_device {device : String} {devices : List String}
    (hs : (Field.device device).Sized) (hfirst : devices ++ [device] <+: options.devices)
    (hpart : part <+: (Field.device device).render) (hproper : part ≠ (Field.device device).render)
    (htail : tail = [] ∨ tail = [Text.replacement])
    (hmessage : (readBody Request.accept (.mount { options.raw with devices })
      (part ++ tail)).message = .mount accepted.raw) :
    (accepted = { options with devices := accepted.devices } ∧
        accepted.devices.dropLast <+: options.devices ∧
        (tail = [] → accepted.devices <+: options.devices)) ∨
      '\n' ∈ part ∧ part ++ ['\n'] ≠ (Field.device device).render ∧
        (readBody Request.accept (.mount { options.raw with devices })
          (Text.afterLine (part ++ tail))).message = .mount accepted.raw := by
  have hfront : devices <+: options.devices := (List.prefix_append _ _).trans hfirst
  have hcut := message_cut_counted Request.accept (.mount { options.raw with devices }) .device
    (hs device rfl) hpart hproper htail
  rw [hmessage] at hcut
  rcases hcut with hnone | ⟨other, hread, hsame⟩ | ⟨hbreak, hmissing, hskipped⟩
  · obtain rfl := Volume.named_of_devices (Request.mount.inj hnone).symm
    exact .inl ⟨rfl, (List.dropLast_prefix _).trans hfront, fun _ => hfront⟩
  · have haccepted : { options.raw with devices := devices ++ [other] } = accepted.raw :=
      Request.mount.inj (Except.ok.inj hread)
    obtain rfl := Volume.named_of_devices haccepted
    refine .inl ⟨rfl, ?_, fun htail => hsame htail ▸ hfirst⟩
    show (devices ++ [other]).dropLast <+: options.devices
    rw [List.dropLast_concat]
    exact hfront
  · exact .inr ⟨hbreak, hmissing, hskipped.symm⟩

/-- Where nothing is named yet, one field does not name both what is mounted and where. -/
theorem skipped_of_cut_before (hs : field.Sized) (hpart : part <+: field.render)
    (hproper : part ≠ field.render) (htail : tail = [] ∨ tail = [Text.replacement])
    (hwhole : whole.mountPoint = none ∧ whole.devices = [])
    (hraw : raw.mountPoint ≠ none ∧ raw.devices ≠ [])
    (hmessage : (readBody Request.accept (.mount whole) (part ++ tail)).message = .mount raw) :
    '\n' ∈ part ∧ part ++ ['\n'] ≠ field.render ∧
      (readBody Request.accept (.mount whole) (Text.afterLine (part ++ tail))).message =
        .mount raw := by
  have hcut := message_cut Request.accept (.mount whole) hs hpart hproper htail
  rw [hmessage] at hcut
  rcases hcut with hnone | ⟨read, hread⟩ | ⟨hbreak, hmissing, hskipped⟩
  · obtain rfl := Request.mount.inj hnone
    exact absurd hwhole.1 hraw.1
  · obtain ⟨next, hnext, heq⟩ := map_eq_ok.1 hread
    obtain rfl := Request.mount.inj heq
    rcases (RawOptions.accept_keeps hnext).1 with hsame | hsame
    · exact absurd (hsame.trans hwhole.1) hraw.1
    · exact absurd (hsame.trans hwhole.2) hraw.2
  · exact ⟨hbreak, hmissing, hskipped.symm⟩

end

/-- **A request that is cut off mounts what the whole one names.**  If mount options are accepted
    that were read off some of a request's bytes, then all records that came whole are among them,
    the test flag apart, which may be given again; and they are the options of the request with
    some first ones of its devices, of which only the last may be another, and that only where the
    cut falls inside a character.  Otherwise a value was cut behind a line feed: then the first
    line of its record is skipped, and the options are those that are read with what came of the
    other lines in the record's place. -/
theorem truncated_request_mounts_named {options : Options}
    (hsized : (Request.ofOptions options).Sized) {bytes : List UInt8}
    (hcut : bytes <+: Text.encode (Request.ofOptions options).encode)
    (hproper : bytes ≠ Text.encode (Request.ofOptions options).encode)
    {raw : RawOptions} {accepted : Options}
    (hdecode : (Request.decode (Text.decodeLossy bytes)).message = .mount raw)
    (haccept : raw.validate = .ok accepted) :
    ∃ before field part tail, CutRequest options bytes before field part tail ∧
      (∀ kept ∈ before, kept ∈ (Request.ofOptions accepted).fields ∨
        ∃ flag, kept = .testRun flag) ∧
      (accepted = { options with devices := accepted.devices } ∧
          accepted.devices.dropLast <+: options.devices ∧
          (tail = [] → accepted.devices <+: options.devices) ∨
        '\n' ∈ part ∧ part ++ ['\n'] ≠ field.render ∧
          (Request.decode (markerLine "Mount" ++ before.flatMap Field.render ++
            Text.afterLine (part ++ tail))).message = .mount raw) := by
  have hnamed := Volume.named_of_validate haccept
  obtain ⟨rfl, -⟩ := Volume.validate_eq_ok_iff.1 haccept
  rcases decode_cut hcut hproper hdecode with hnone | ⟨before, field, part, tail, hrequest⟩
  · exact absurd (congrArg RawOptions.mountPoint hnone) nofun
  refine ⟨before, field, part, tail, hrequest, ?_⟩
  have htail : tail = [] ∨ tail = [Text.replacement] := hrequest.ending.imp And.left And.left
  obtain ⟨after, hafter⟩ := hrequest.fields
  have hfields : options.raw.fields = before ++ field :: after := by
    rw [List.append_assoc] at hafter
    exact hafter.symm
  have hfield : field.Sized := hsized field (show field ∈ options.raw.fields by simp [hfields])
  obtain ⟨whole, hwhole, hmessage⟩ := message_whole hsized hfields
  rw [hrequest.read, List.append_assoc, hmessage] at hdecode
  simp only [hmessage]
  constructor
  · intro kept hkept
    exact kept_of_readBody hdecode (RawOptions.foldlM_kept hwhole (.inr hkept))
  · rcases RawOptions.fields_cut hfields with ⟨device, devices, rfl, hfirst, rfl⟩ | hnames
    · -- what came whole is all of the options but the devices that are missing
      obtain rfl : whole = { options.raw with devices } :=
        Except.ok.inj (hwhole.symm.trans (RawOptions.foldlM_fields _))
      exact named_of_cut_device hfield hfirst hrequest.front hrequest.proper htail hdecode
    · exact .inr (skipped_of_cut_before hfield hrequest.front hrequest.proper htail
        (RawOptions.foldlM_keeps hwhole hnames) hnamed hdecode)

/-- Of the last character of the second device, only one byte of two came: the first device is
    mounted alone. -/
theorem truncated_request_mounts_named_first_device :
    let options : Options := ⟨"/a", ["/d", "/é"], .byId 256, none, true⟩
    let accepted : Options := { options with devices := ["/d"] }
    let bytes := Text.encode
      "Mount\nOption|SubvolID|256\nOption|TestRun\nMountPoint|2|/a\nDevice|2|/d\nDevice|3|/".toList
        ++ [0xC3]
    (Request.decode (Text.decodeLossy bytes)).message = .mount accepted.raw ∧
      accepted.raw.validate = .ok accepted ∧
      ∃ before field part tail, CutRequest options bytes before field part tail ∧
        (∀ kept ∈ before, kept ∈ (Request.ofOptions accepted).fields ∨
          ∃ flag, kept = .testRun flag) ∧
        (accepted.devices.dropLast <+: options.devices ∧
            (tail = [] → accepted.devices <+: options.devices) ∨
          '\n' ∈ part ∧ part ++ ['\n'] ≠ field.render) := by
  intro options accepted bytes
  have hsized : (Request.ofOptions options).Sized := Request.sized_of_size (by decide +kernel)
  have hdecode : (Request.decode (Text.decodeLossy bytes)).message = .mount accepted.raw := by
    decide +kernel
  have haccept : accepted.raw.validate = .ok accepted := by decide +kernel
  obtain ⟨before, field, part, tail, hrequest, hkept, hends⟩ :=
    truncated_request_mounts_named hsized (by decide +kernel) (by decide +kernel) hdecode haccept
  exact ⟨hdecode, haccept, before, field, part, tail, hrequest, hkept,
    hends.imp And.right fun h => ⟨h.1, h.2.1⟩⟩

/-- **A value that is cut behind a line feed** is read as the records that its lines look like. -/
theorem truncated_request_mounts_unnamed :
    let options : Options := ⟨"/a\nMountPoint|2|/b\nDevice|2|/c\n", ["/d"], .default, none, false⟩
    let bytes := Text.encode "Mount\nMountPoint|31|/a\nMountPoint|2|/b\nDevice|2|/c".toList
    options.Valid ∧ bytes <+: Text.encode (Request.ofOptions options).encode ∧
      bytes ≠ Text.encode (Request.ofOptions options).encode ∧
      ∃ raw accepted, (Request.decode (Text.decodeLossy bytes)).message = .mount raw ∧
        raw.validate = .ok accepted ∧ accepted.mountPoint ≠ options.mountPoint := by
  intro options bytes
  refine ⟨⟨by decide, by decide, by decide, nofun⟩, by decide +kernel, by decide +kernel,
    ⟨some "/b", ["/c"], none, none, none, false⟩, ⟨"/b", ["/c"], .default, none, false⟩,
    by decide +kernel, by decide +kernel, by decide⟩

end MountControl.Wire
