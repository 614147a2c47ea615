/-
  MountControl — a body is read back as the fields that it was written from.

  * `items_render`: records in front of any text are read as their fields,
    and the rest is read as it would be on its own;
  * `readBody_render`: hence a message takes up just those fields;
  * `readBody_induction`: a message that is read from any text keeps what
    every accepted field keeps.
-/
import MountControl.Proofs.Wire.Record

namespace MountControl.Wire

/-! ## Items -/

theorem items_loop (reader : Reader) (front : List Item) :
    Reader.items.loop reader front = front.reverse ++ reader.items := by
  -- on what is left to do: a late issue leaves the position where it is
  rw [Reader.items]
  induction hn : reader.remaining using Nat.strongRecOn generalizing reader front with
  | _ n ih =>
    subst hn
    rw [Reader.items.loop, Reader.items.loop]
    split
    next => simp
    next item after hnext =>
      have hlt := Reader.remaining_next hnext
      rw [ih _ hlt after (item :: front) rfl, ih _ hlt after [item] rfl]
      simp

theorem items_of_next {reader after : Reader} {item : Item}
    (h : reader.next = some (item, after)) : reader.items = item :: after.items := by
  rw [Reader.items, Reader.items.loop]
  split
  next hnone => rw [hnone] at h; cases h
  next item' after' hsome =>
    rw [hsome] at h
    cases h
    rw [items_loop]
    rfl

theorem items_of_end {reader : Reader} (h : reader.next = none) : reader.items = [] := by
  rw [Reader.items, Reader.items.loop]
  split
  next => rfl
  next hsome => rw [hsome] at h; cases h

/-- Whatever is read off a text, its values are short enough. -/
theorem sized_of_mem_items {reader : Reader} {line : Nat} {field : Field}
    (h : .field line field ∈ reader.items) : field.Sized := by
  induction hn : reader.remaining using Nat.strongRecOn generalizing reader with
  | _ n ih =>
    subst hn
    rcases hnext : reader.next with _ | ⟨item, after⟩
    · rw [items_of_end hnext] at h
      cases h
    · rw [items_of_next hnext] at h
      rcases List.mem_cons.1 h with rfl | h
      · exact sized_of_next hnext
      · exact ih _ (Reader.remaining_next hnext) h rfl

/-- The lines on which the records of some fields start. -/
def recordLines : (line : Nat) → List Field → List Nat
  | _, [] => []
  | line, field :: fields => line :: recordLines (line + field.render.count '\n') fields

theorem length_recordLines (line : Nat) (fields : List Field) :
    (recordLines line fields).length = fields.length := by
  induction fields generalizing line with
  | nil => rfl
  | cons field fields ih => rw [recordLines, List.length_cons, ih, List.length_cons]

/-- **Records in front of any text are read as their fields.** -/
theorem items_render {fields : List Field} (hs : ∀ field ∈ fields, field.Sized) (tail : List Char)
    (line : Nat) :
    Reader.items ⟨fields.flatMap Field.render ++ tail, line, none⟩ =
      List.zipWith Item.field (recordLines line fields) fields ++
        Reader.items ⟨tail, line + (fields.flatMap Field.render).count '\n', none⟩ := by
  induction fields generalizing line with
  | nil => rfl
  | cons field fields ih =>
    rw [List.forall_mem_cons] at hs
    have hnext := next_render hs.1 (fields.flatMap Field.render ++ tail) line
    rw [List.flatMap_cons, List.append_assoc, items_of_next hnext, ih hs.2, List.count_append,
      Nat.add_assoc]
    rfl

/-! ## Messages -/

section
variable {α : Type} {accept : α → Field → Except IssueKind α}

theorem map_eq_ok {β : Type} {result : Except IssueKind β} {put : β → α} {message : α} :
    result.map put = .ok message ↔ ∃ part, result = .ok part ∧ put part = message := by
  cases result with
  | error kind => exact ⟨nofun, nofun⟩
  | ok part => simp [Except.map]

/-- Fields are accepted one after the other. -/
theorem foldlM_cons_eq_ok {field : Field} {fields : List Field} {start message : α} :
    (field :: fields).foldlM accept start = .ok message ↔
      ∃ next, accept start field = .ok next ∧ fields.foldlM accept next = .ok message := by
  rw [List.foldlM_cons]
  cases accept start field with
  | error kind => exact ⟨nofun, nofun⟩
  | ok next =>
    constructor
    · intro h; exact ⟨next, rfl, h⟩
    · rintro ⟨_, heq, h⟩
      cases heq
      exact h

/-- Fields that are all accepted leave no issue. -/
theorem foldl_offer {fields : List Field} {start message : α} {numbers : List Nat}
    (h : fields.foldlM accept start = .ok message) (hlen : numbers.length = fields.length)
    (issues : List Issue) :
    (List.zipWith Item.field numbers fields).foldl (Decoded.offer accept) ⟨start, issues⟩ =
      ⟨message, issues⟩ := by
  induction fields generalizing start numbers with
  | nil => cases h; simp
  | cons field fields ih =>
    obtain ⟨number, numbers, rfl⟩ := List.exists_cons_of_length_eq_add_one hlen
    obtain ⟨next, haccept, hrest⟩ := foldlM_cons_eq_ok.1 h
    rw [List.zipWith_cons_cons, List.foldl_cons, Decoded.offer, haccept]
    exact ih hrest (Nat.succ.inj hlen)

theorem setOnce_map_eq_ok {β : Type} {slot : Option β} {value : β} {put : Option β → α}
    {after : α} : (setOnce slot value).map put = .ok after ↔
      slot = none ∧ after = put (some value) := by
  cases slot with
  | none =>
    constructor
    · intro h; cases h; exact ⟨rfl, rfl⟩
    · rintro ⟨-, rfl⟩; rfl
  | some old => exact ⟨nofun, nofun⟩

theorem foldlM_append {front rest : List Field} {start middle message : α}
    (hf : front.foldlM accept start = .ok middle) (hr : rest.foldlM accept middle = .ok message) :
    (front ++ rest).foldlM accept start = .ok message := by
  rw [List.foldlM_append, hf]
  exact hr

/-- A value that may be absent fills its place, if that is free. -/
theorem foldlM_slot {β : Type} {make : β → Field} (fill : Option β → α) (slot : Option β)
    (h : ∀ value, accept (fill none) (make value) = .ok (fill (some value))) :
    (slot.toList.map make).foldlM accept (fill none) = .ok (fill slot) := by
  cases slot with
  | none => rfl
  | some value => exact foldlM_cons_eq_ok.2 ⟨_, h value, rfl⟩

/-- Fields that a part of a message accepts are accepted by the message. -/
theorem foldlM_part {β : Type} {inner : β → Field → Except IssueKind β} (put : β → α)
    {fields : List Field} {start part : β}
    (h : ∀ part, ∀ field ∈ fields, accept (put part) field = (inner part field).map put)
    (hf : fields.foldlM inner start = .ok part) :
    fields.foldlM accept (put start) = .ok (put part) := by
  induction fields generalizing start with
  | nil => cases hf; rfl
  | cons field fields ih =>
    obtain ⟨next, hinner, htail⟩ := foldlM_cons_eq_ok.1 hf
    have hfirst := h start field List.mem_cons_self
    have hrest := fun part other ho => h part other (List.mem_cons_of_mem _ ho)
    refine foldlM_cons_eq_ok.2 ⟨put next, ?_, ih hrest htail⟩
    rw [hfirst, hinner]
    rfl

/-- **A body is read back as the message that its fields make.** -/
theorem readBody_render {fields : List Field} {start message : α}
    (hs : ∀ field ∈ fields, field.Sized) (h : fields.foldlM accept start = .ok message) :
    readBody accept start (fields.flatMap Field.render) = ⟨message, []⟩ := by
  have hitems := items_render hs [] 1
  have hend : ∀ line, Reader.items ⟨[], line, none⟩ = [] := fun _ => items_of_end rfl
  rw [List.append_nil, hend, List.append_nil] at hitems
  simp only [readBody, hitems, foldl_offer h (length_recordLines 1 fields), List.reverse_nil]

/-- **What accepted fields keep, a message keeps**, whatever it is read from. -/
theorem readBody_induction (P : α → Prop) {start : α} (hstart : P start)
    (hstep : ∀ {message next field}, P message → field.Sized → accept message field = .ok next →
      P next) (body : List Char) : P (readBody accept start body).message := by
  show P (List.foldl (Decoded.offer accept) ⟨start, []⟩ (Reader.items ⟨body, 1, none⟩)).message
  refine List.foldlRecOn (motive := fun decoded : Decoded α => P decoded.message) _ _ hstart ?_
  intro decoded hdecoded item hitem
  cases item with
  | issue issue => exact hdecoded
  | field line field =>
    rw [Decoded.offer]
    split
    next next haccept => exact hstep hdecoded (sized_of_mem_items hitem) haccept
    next => exact hdecoded

end

end MountControl.Wire
