/-
  MountControl — a message is hardly longer when it is written again.

  A field has several spellings, and the record that is written of it is the
  shortest of them, but for identifiers: of these, leading zeros or hyphens
  may be left out.  `Field.fewest` are the bytes that every spelling has.

  * `fewest_ofLine` and `size_of_counted`: a plain line and a counted record
    have as many bytes as the field needs that is read off them;
  * `fewest_readBody`: hence so has the body of a message;
  * `Request.size_decode`: a request is at most 20 bytes longer than the
    text that it is read from.
-/
import MountControl.Proofs.Wire.ReplyRoundTrip
import MountControl.Proofs.Wire.Size

namespace MountControl.Volume

open Text (byteLength byteLength_eq_length)
open Text.Numeral (IsDigit isDigit_of_mem_padded length_padded padded utf8Size_of_isDigit)

/-! ## Identifiers -/

theorem InstanceId.byteLength_chars (id : InstanceId) : byteLength id.chars = 16 := by
  rw [chars, byteLength_eq_length fun c hc =>
    utf8Size_of_isDigit (isDigit_of_mem_padded (by omega) (by omega) 16 _ c hc), length_padded]

theorem InstanceId.ne_nil_of_parse? {text : List Char} {id : InstanceId}
    (h : InstanceId.parse? text = some id) : text ≠ [] := by
  rintro rfl
  cases h

theorem Uuid.mem_hyphenate {sizes : List Nat} {digits : List Char} :
    ∀ c ∈ hyphenate sizes digits, c = '-' ∨ c ∈ digits := by
  fun_induction hyphenate sizes digits with
  | case1 =>
    intro c hc
    cases hc
  | case2 size digits => exact fun c hc => .inr (List.mem_of_mem_take hc)
  | case3 size sizes digits hsizes ih =>
    intro c hc
    rcases List.mem_append.1 hc with hc | hc
    · exact .inr (List.mem_of_mem_take hc)
    · rcases List.mem_cons.1 hc with rfl | hc
      · exact .inl rfl
      · exact (ih c hc).imp_right List.mem_of_mem_drop

theorem Uuid.byteLength_chars (id : Uuid) : byteLength id.chars = 36 := by
  have hlength := length_hyphenate (show groups ≠ [] by simp [groups])
    (length_padded 16 32 id.value.toNat)
  rw [byteLength_eq_length fun c hc => ?_]
  · simpa [groups, chars] using hlength
  · rcases mem_hyphenate c hc with rfl | hc
    · decide
    · exact utf8Size_of_isDigit (isDigit_of_mem_padded (by omega) (by omega) 32 _ c hc)

/-- The shortest form has the 32 digits only. -/
theorem Uuid.length_of_parse? {text : List Char} {id : Uuid} (h : Uuid.parse? text = some id) :
    32 ≤ text.length := by
  rw [parse?] at h
  split at h
  next heq => omega
  next heq => omega
  next heq => omega
  next heq => omega
  next => cases h

theorem State.eq_of_parse? {text : List Char} {state : State} (h : State.parse? text = some state) :
    text = state.name.toList := by
  rw [parse?] at h
  split at h
  next heq => cases h; exact heq
  next =>
    split at h
    next heq => cases h; exact heq
    next => cases h

end MountControl.Volume

namespace MountControl.Wire

open Text (byteLength byteLength_append byteLength_bar byteLength_nil byteLength_toList
  linesLength)
open Text.Numeral (decimal)
open Volume (InstanceId RawOptions State Uuid)

/-! ## Fields -/

/-- The bytes by which a spelling may be shorter than the record. -/
def Field.slack : Field → Nat
  | .instanceId _ => 15
  | .fsUuid _ => 4
  | _ => 0

/-- The bytes that every spelling of a field has. -/
def Field.fewest (field : Field) : Nat := field.size - field.slack

theorem Field.size_instanceId (id : InstanceId) : (Field.instanceId id).size = 28 := by
  rw [size, render, byteLength_plainRecord, id.byteLength_chars]
  decide

theorem Field.size_fsUuid (id : Uuid) : (Field.fsUuid id).size = 44 := by
  rw [size, render, byteLength_plainRecord, id.byteLength_chars]
  decide

/-- What is read of a value needs as many bytes as every reading of it. -/
theorem fewest_orIssue {α : Type} {kind : IssueKind} {value : Option α} {make : α → Field}
    {field : Field} {bound : Nat} (hmake : ∀ {a}, value = some a → (make a).fewest ≤ bound)
    (h : (orIssue kind value).map make = .ok field) : field.fewest ≤ bound := by
  obtain ⟨a, hread, rfl⟩ := of_orIssue h
  exact hmake hread

/-! ## Plain lines -/

theorem fewest_subvolId {value : List Char} {n : UInt64} (h : number? value = some n) :
    (Field.subvolId n).fewest ≤ keySubvolId.utf8ByteSize + byteLength value + 2 := by
  obtain ⟨m, hread, rfl⟩ := Option.map_eq_some_iff.1 h
  have hlt : m < UInt64.size := by simpa using (Option.filter_eq_some_iff.1 hread).2
  have hdigits : byteLength (decimal m) ≤ byteLength value := by
    rw [Text.Numeral.byteLength_decimal]
    exact (Text.Numeral.length_decimal_le hread).trans (Text.length_le_byteLength value)
  rw [Field.fewest, Field.size, Field.render, byteLength_plainRecord,
    UInt64.toNat_ofNat_of_lt' hlt]
  omega

theorem fewest_testRun {value : List Char} {flag : Bool} (h : flag? value = some flag) :
    (Field.testRun flag).fewest ≤ keyTestRun.utf8ByteSize + byteLength value + 2 := by
  rw [flag?] at h
  split_ifs at h with htrue hfalse
  · cases h; rw [htrue]; decide
  · cases h; rw [hfalse]; decide

theorem fewest_instanceId {value : List Char} {id : InstanceId}
    (h : InstanceId.parse? value = some id) :
    (Field.instanceId id).fewest ≤ keyInstanceId.utf8ByteSize + byteLength value + 2 := by
  have hpos := List.length_pos_iff.2 (InstanceId.ne_nil_of_parse? h)
  have hvalue := Text.length_le_byteLength value
  have hkey : keyInstanceId.utf8ByteSize = 10 := by decide
  rw [Field.fewest, Field.size_instanceId, Field.slack, hkey]
  omega

theorem fewest_state {value : List Char} {state : State} (h : State.parse? value = some state) :
    (Field.state state).fewest ≤ keyState.utf8ByteSize + byteLength value + 2 := by
  rw [Field.fewest, Field.size, Field.render, byteLength_plainRecord, State.eq_of_parse? h]
  exact Nat.sub_le _ _

theorem fewest_fsUuid {value : List Char} {id : Uuid} (h : Uuid.parse? value = some id) :
    (Field.fsUuid id).fewest ≤ keyFsUuid.utf8ByteSize + byteLength value + 2 := by
  have hdigits := Uuid.length_of_parse? h
  have hvalue := Text.length_le_byteLength value
  have hkey : keyFsUuid.utf8ByteSize = 6 := by decide
  rw [Field.fewest, Field.size_fsUuid, Field.slack, hkey]
  omega

/-- **A plain line has as many bytes as the field needs that it is read as.** -/
theorem fewest_ofLine {line : List Char} {field : Field} (h : Field.ofLine line = .ok field) :
    field.fewest ≤ byteLength line + 1 := by
  rw [Field.ofLine] at h
  split_ifs at h with hentry hnone htest
  · cases h; rw [hentry]; decide
  · cases h; rw [hnone]; decide
  · cases h; rw [htest]; decide
  · split at h
    next => cases h
    next key value hcut =>
      have hline := Text.byteLength_of_cutLast hcut
      have hkeyed : ∀ {name : String}, byteLength key = name.utf8ByteSize →
          name.utf8ByteSize + byteLength value + 2 ≤ byteLength line + 1 := by
        intro name hname
        omega
      -- one case for each key
      split_ifs at h with hsubvolId htestRun hinstanceId hstate hfsUuid
      · exact (fewest_orIssue fewest_subvolId h).trans (hkeyed (hsubvolId ▸ byteLength_toList _))
      · exact (fewest_orIssue fewest_testRun h).trans (hkeyed (htestRun ▸ byteLength_toList _))
      · exact (fewest_orIssue fewest_instanceId h).trans
          (hkeyed (hinstanceId ▸ byteLength_toList _))
      · exact (fewest_orIssue fewest_state h).trans (hkeyed (hstate ▸ byteLength_toList _))
      · have hname : byteLength key = keyFsUuid.utf8ByteSize := by
          rcases hfsUuid with rfl | rfl <;> decide
        exact (fewest_orIssue fewest_fsUuid h).trans (hkeyed hname)

/-! ## Counted records -/

/-- The spelling of a key that is written. -/
def CountedKey.name : CountedKey → String
  | .subvol => keySubvol
  | .dump => keyDump
  | .mountPoint => keyMountPoint
  | .device => keyDevice
  | .label => keyLabel

theorem render_field (key : CountedKey) (value : String) :
    (key.field value).render = countedRecord key.name value := by
  cases key <;> rfl

/-- No spelling of a key is shorter than the one that is written. -/
theorem of_countedKey? {text afterKey : List Char} {key : CountedKey}
    (h : countedKey? text = some (key, afterKey)) :
    key.name.utf8ByteSize + 1 + byteLength afterKey ≤ byteLength text := by
  obtain ⟨name, hmem, rfl⟩ := exists_of_countedKey? h
  have hnames : ∀ p ∈ countedKeys, p.2.name.utf8ByteSize ≤ p.1.utf8ByteSize := by decide
  have hname := hnames _ hmem
  rw [byteLength_append, byteLength_toList, byteLength_bar]
  simp only at hname
  omega

/-- A counted value stands behind its length and a bar. -/
theorem of_countedValue? {afterKey value tail : List Char}
    (h : countedValue? afterKey = some (value, tail)) :
    byteLength (decimal (byteLength value)) + 1 + byteLength value + byteLength tail ≤
      byteLength afterKey := by
  obtain ⟨length, bytes, hbytes, hvalue, rfl⟩ := exists_of_countedValue? h
  obtain ⟨m, hread, rfl⟩ := Option.map_eq_some_iff.1 hbytes
  have hlt : m < UInt64.size := by simpa using (Option.filter_eq_some_iff.1 hread).2
  have hdigits := (Text.Numeral.length_decimal_le hread).trans (Text.length_le_byteLength _)
  rw [UInt64.toNat_ofNat_of_lt' hlt] at hvalue
  rw [hvalue, byteLength_append, byteLength_bar, byteLength_append, hvalue,
    Text.Numeral.byteLength_decimal]
  omega

/-- **A counted record has as many bytes as that of the field that it is read as.** -/
theorem size_of_counted {text afterKey value tail : List Char} {key : CountedKey}
    (hkey : countedKey? text = some (key, afterKey))
    (hvalue : countedValue? afterKey = some (value, tail)) :
    (key.field (String.ofList value)).size + byteLength tail ≤ byteLength text + 1 := by
  have hk := of_countedKey? hkey
  have hv := of_countedValue? hvalue
  rw [Field.size, render_field, byteLength_countedRecord, Text.utf8ByteSize_ofList]
  omega

/-! ## Bodies -/

/-- The bytes that an item needs; an issue may come of none. -/
def Item.fewest : Item → Nat
  | .field _ read => read.fewest
  | .issue _ => 0

theorem Field.fewest_le_size (field : Field) : field.fewest ≤ field.size := Nat.sub_le _ _

theorem fewest_plainItem (number : Nat) (line : List Char) :
    (plainItem number line).fewest ≤ byteLength line + 1 := by
  rw [plainItem]
  split
  next => exact Nat.zero_le _
  next =>
    split
    next field h => exact fewest_ofLine h
    next => exact Nat.zero_le _

/-- **A step takes as many bytes as its item needs.** -/
theorem fewest_next {reader after : Reader} {item : Item}
    (h : reader.next = some (item, after)) :
    item.fewest + linesLength after.rest ≤ linesLength reader.rest := by
  rw [Reader.next] at h
  split at h
  next => cases h; simp [Item.fewest]
  next =>
    split at h
    next => cases h
    next hne =>
      have hrest : linesLength reader.rest = byteLength reader.rest + 1 :=
        if_neg (by simpa using hne)
      have hlines := Text.linesLength_afterLine reader.rest
      rw [hrest]
      split at h
      next =>
        cases h
        have hitem := fewest_plainItem reader.line (Text.line reader.rest)
        simp only [Reader.skipLine]
        omega
      next key afterKey hkey =>
        split at h
        next =>
          cases h
          simp only [Item.fewest, Reader.skipLine]
          omega
        next value tail hvalue =>
          cases h
          have hsize := size_of_counted hkey hvalue
          have hfewest := (key.field (String.ofList value)).fewest_le_size
          have htail := Text.linesLength_afterLine tail
          simp only [Item.fewest, Reader.afterValue]
          omega

theorem fewest_items (reader : Reader) :
    (reader.items.map Item.fewest).sum ≤ linesLength reader.rest := by
  induction hn : reader.remaining using Nat.strongRecOn generalizing reader with
  | _ n ih =>
    subst hn
    rcases hnext : reader.next with _ | ⟨item, after⟩
    · rw [items_of_end hnext]
      exact Nat.zero_le _
    · have hstep := fewest_next hnext
      have hrest := ih _ (Reader.remaining_next hnext) after rfl
      rw [items_of_next hnext, List.map_cons, List.sum_cons]
      omega

section
variable {α : Type} {accept : α → Field → Except IssueKind α} {measure : α → Nat}

theorem fewest_foldl_offer
    (hstep : ∀ {message next field}, accept message field = .ok next →
      measure next ≤ measure message + field.fewest)
    (items : List Item) (decoded : Decoded α) :
    measure (items.foldl (Decoded.offer accept) decoded).message ≤
      measure decoded.message + (items.map Item.fewest).sum := by
  induction items generalizing decoded with
  | nil => exact Nat.le_refl _
  | cons item items ih =>
    have hrest := ih (decoded.offer accept item)
    have hitem : measure (decoded.offer accept item).message ≤
        measure decoded.message + item.fewest := by
      cases item with
      | issue issue => exact Nat.le_add_right _ _
      | field line field =>
        rw [Decoded.offer]
        split
        next next haccept => exact hstep haccept
        next => exact Nat.le_add_right _ _
    rw [List.foldl_cons, List.map_cons, List.sum_cons]
    omega

/-- **A message needs no more bytes than the body has that it is read from**, if no accepted field
    adds more than it needs itself. -/
theorem fewest_readBody (measure : α → Nat)
    (hstep : ∀ {message next field}, accept message field = .ok next →
      measure next ≤ measure message + field.fewest)
    (start : α) (body : List Char) :
    measure (readBody accept start body).message ≤ measure start + linesLength body :=
  (fewest_foldl_offer hstep _ _).trans (Nat.add_le_add_left (fewest_items _) _)

end

/-! ## Requests -/

/-- The bytes that fields need. -/
def fewestBytes (fields : List Field) : Nat := (fields.map Field.fewest).sum

theorem sum_size_le (fields : List Field) :
    (fields.map Field.size).sum ≤ fewestBytes fields + (fields.map Field.slack).sum := by
  induction fields with
  | nil => exact Nat.le_refl _
  | cons field fields ih =>
    have hfield : field.size ≤ field.fewest + field.slack := by rw [Field.fewest]; omega
    rw [fewestBytes] at ih ⊢
    simp only [List.map_cons, List.sum_cons]
    omega

end MountControl.Wire

namespace MountControl.Volume

open Wire (Field fewestBytes map_eq_ok setOnce_map_eq_ok)

/-- An accepted field adds no more than it needs. -/
theorem RawOptions.fewestBytes_of_accept {options after : RawOptions} {field : Field}
    (h : options.accept field = .ok after) :
    fewestBytes after.fields ≤ fewestBytes options.fields + field.fewest := by
  cases field with
  | subvol | subvolId | dump | mountPoint =>
    obtain ⟨hnone, rfl⟩ := setOnce_map_eq_ok.1 h
    simp only [fewestBytes, RawOptions.fields, hnone, Option.toList_none, Option.toList_some,
      List.map_append, List.sum_append, List.map_cons, List.map_nil, List.sum_cons, List.sum_nil]
    omega
  | testRun flag =>
    cases h
    simp only [fewestBytes, RawOptions.fields, List.map_append, List.sum_append]
    cases flag <;> cases options.testRun <;> simp <;> omega
  | device path =>
    cases h
    simp only [fewestBytes, RawOptions.fields, List.map_append, List.sum_append, List.map_cons,
      List.map_nil, List.sum_cons, List.sum_nil]
    omega
  | _ => cases h

theorem RawOptions.slack_fields (options : RawOptions) :
    (options.fields.map Field.slack).sum = 0 := by
  refine List.sum_eq_zero fun n hn => ?_
  obtain ⟨field, hfield, rfl⟩ := List.mem_map.1 hn
  have hoption := isOption_of_mem_fields hfield
  cases field with
  | instanceId | fsUuid => cases hoption
  | _ => rfl

end MountControl.Volume

namespace MountControl.Wire

open Volume (RawOptions)

theorem Request.fewestBytes_of_accept {request after : Request} {field : Field}
    (h : request.accept field = .ok after) :
    fewestBytes after.fields ≤ fewestBytes request.fields + field.fewest ∧
      after.kind = request.kind := by
  rw [Request.accept.eq_def] at h
  split at h
  next options =>
    obtain ⟨part, ha, rfl⟩ := map_eq_ok.1 h
    exact ⟨RawOptions.fewestBytes_of_accept ha, rfl⟩
  -- no other field has a place
  case h_8 => cases h
  all_goals
    obtain ⟨rfl, rfl⟩ := setOnce_map_eq_ok.1 h
    refine ⟨?_, rfl⟩
    simp only [fewestBytes, Request.fields, Option.toList_none, Option.toList_some,
      List.map_append, List.sum_append, List.map_cons, List.map_nil, List.sum_cons, List.sum_nil]
    omega

/-- At most one identifier of each sort is in a request. -/
theorem Request.slack_fields (request : Request) :
    (request.fields.map Field.slack).sum ≤ 19 := by
  cases request with
  | mount options => exact options.slack_fields.trans_le (Nat.zero_le _)
  | list | unknown => exact Nat.zero_le _
  | mountData id => cases id <;> simp [fields, Field.slack]
  | mounted id fsUuid label =>
    cases id <;> cases fsUuid <;> cases label <;> simp [fields, Field.slack]
  | unmount id mountPoint => cases id <;> cases mountPoint <;> simp [fields, Field.slack]

theorem Request.kind_ofKind (kind : List Char) : (Request.ofKind kind).kind.toList = kind := by
  rw [ofKind]
  split_ifs with hmount hlist hdata hmounted hunmount
  · exact hmount.symm
  · exact hlist.symm
  · exact hdata.symm
  · exact hmounted.symm
  · exact hunmount.symm
  · exact String.toList_ofList

/-- What a request needs is in the text that it is read from. -/
theorem Request.fewestBytes_decode (text : List Char) :
    (Request.decode text).message.kind.toList = Text.line text ∧
      fewestBytes (Request.decode text).message.fields ≤
        Text.linesLength (Text.afterLine text) := by
  have hkind := kind_ofKind (Text.line text)
  by_cases h : ∃ kind, ofKind (Text.line text) = .unknown kind
  · obtain ⟨kind, h⟩ := h
    rw [h] at hkind
    rw [decode, h]
    exact ⟨hkind, Nat.zero_le _⟩
  · rw [decode_of_known fun kind hk => h ⟨kind, hk⟩]
    constructor
    · refine readBody_induction (fun request : Request => request.kind.toList = Text.line text)
        hkind (fun {message next field} hmessage _ haccept => ?_) _
      rw [(fewestBytes_of_accept haccept).2]
      exact hmessage
    · have hbody := fewest_readBody (fun request : Request => fewestBytes request.fields)
        (fun haccept => (fewestBytes_of_accept haccept).1) (ofKind (Text.line text))
        (Text.afterLine text)
      simpa [fields_ofKind, fewestBytes] using hbody

/-- **A request is at most 20 bytes longer than the text that it is read from.** -/
theorem Request.size_decode (text : List Char) :
    (Request.decode text).message.size ≤ Text.byteLength text + 20 := by
  obtain ⟨hkind, hfields⟩ := fewestBytes_decode text
  have hlines := Text.linesLength_afterLine text
  have hsum := sum_size_le (Request.decode text).message.fields
  have hslack := (Request.decode text).message.slack_fields
  rw [size_eq, ← Text.byteLength_toList, hkind]
  omega

end MountControl.Wire
