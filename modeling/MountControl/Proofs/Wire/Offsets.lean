/-
  MountControl — the reader covers its whole input.

  The calls of a reader, each from one offset of the input to another.

  * `Reader.next_cursor`: a cursor has no mishap and does what the reader
    does; each step takes a piece off the front of what is left;
  * `Calls.taken`: so any calls take pieces which follow each other;
  * `input_covered`: after finitely many calls the pieces are the input.
-/
import MountControl.Proofs.Wire.Cursor

namespace MountControl.Wire

open Text (checkedSum? past? size slice?)

/-! ## Steps -/

/-- What the reader does once it has read a counted key. -/
def Reader.counted (reader : Reader) (key : CountedKey) (afterKey : List Char) : Item × Reader :=
  match countedValue? afterKey with
  | none => (.issue (.about reader.line .badLength (Text.line reader.rest)), reader.skipLine)
  | some (value, tail) =>
    (.field reader.line (key.field (String.ofList value)), reader.afterValue value tail)

/-- The cursor where a reader stands, given what is before it. -/
def Reader.cursor (reader : Reader) (before : List Char) : Cursor :=
  ⟨size before, reader.line, reader.pending⟩

section
variable {input before : List Char} {reader : Reader}

theorem skipLine_cursor {item : Item} (hinput : input = before ++ reader.rest)
    (hlong : Text.byteLength input + 1 < UInt64.size) (hpending : reader.pending = none) :
    (reader.cursor before).skipLine input (Text.line reader.rest) item =
      .ok (item, reader.skipLine.cursor (before ++ Text.wholeLine reader.rest)) := by
  simp only [Cursor.skipLine, Reader.cursor, pastLine_eq hinput hlong, ok_bind, hpending]
  rfl

theorem passValue_cursor {key : CountedKey} {front value tail : List Char} {bytes : UInt64}
    (hinput : input = front ++ (value ++ tail)) (hlong : Text.byteLength input + 1 < UInt64.size)
    (hbytes : Text.byteLength value = bytes.toNat) :
    (reader.cursor before).passValue input key (size front) bytes value =
      .ok (.field reader.line (key.field (String.ofList value)),
        (reader.afterValue value tail).cursor (front ++ value ++ Text.wholeLine tail)) := by
  rw [← List.append_assoc] at hinput
  have hsum : Text.byteLength input = Text.byteLength (front ++ value) + Text.byteLength tail := by
    rw [hinput, Text.byteLength_append]
  have hsize : bytes = size value := by
    apply UInt64.toNat_inj.1
    rw [← hbytes, Text.toNat_size (hbytes ▸ bytes.toNat_lt)]
  have hend := Text.checkedSum?_size front value (by omega)
  have htail : past? input (size (front ++ value)) = some tail := by
    rw [hinput]
    exact Text.past?_append (by omega)
  simp only [Cursor.passValue, hsize, hend, htail, orMishap_some, ok_bind,
    pastLine_eq hinput hlong]
  rfl

/-- **A counted record, by offsets.**  The key, the length and the value are cut off the input as
    they are cut off the text that is left. -/
theorem readCounted_cursor (key : CountedKey) {name afterKey : List Char}
    (hinput : input = before ++ reader.rest) (hlong : Text.byteLength input + 1 < UInt64.size)
    (hpending : reader.pending = none) (hrest : reader.rest = name ++ '|' :: afterKey)
    (hname : '\n' ∉ name) :
    ∃ piece, piece ≠ [] ∧ reader.rest = piece ++ (reader.counted key afterKey).2.rest ∧
      (reader.cursor before).readCounted input key (size (name ++ ['|'])) (Text.line reader.rest) =
        .ok ((reader.counted key afterKey).1,
          (reader.counted key afterKey).2.cursor (before ++ piece)) := by
  have hne : reader.rest ≠ [] := by simp [hrest]
  have hheader : past? (Text.line reader.rest) (size (name ++ ['|'])) =
      some (Text.line afterKey) := by
    have hline : Text.line reader.rest = (name ++ ['|']) ++ Text.line afterKey := by
      rw [hrest, Text.line, List.takeWhile_append_of_pos (Text.ne_of_not_mem hname),
        List.takeWhile_cons_of_pos (by decide), Text.line]
      simp
    have hsum := congrArg Text.byteLength hinput
    rw [hrest] at hsum
    simp only [Text.byteLength_append, Text.byteLength_bar] at hsum
    rw [hline]
    apply Text.past?_append
    simp only [Text.byteLength_append, Text.byteLength_bar, Text.byteLength_nil]
    omega
  -- wherever there is no value, the line is passed with an issue
  have hbad (hnone : countedValue? afterKey = none) : ∃ piece, piece ≠ [] ∧
      reader.rest = piece ++ (reader.counted key afterKey).2.rest ∧
      (reader.cursor before).skipLine input (Text.line reader.rest)
          (.issue (.about reader.line .badLength (Text.line reader.rest))) =
        .ok ((reader.counted key afterKey).1,
          (reader.counted key afterKey).2.cursor (before ++ piece)) := by
    simp only [Reader.counted, hnone]
    exact ⟨_, Text.wholeLine_ne_nil hne, (Text.wholeLine_append_afterLine _).symm,
      skipLine_cursor hinput hlong hpending⟩
  simp only [Cursor.readCounted, hheader, orMishap_some, ok_bind]
  cases hdeclared : declared? (Text.line afterKey) with
  | none => exact hbad (countedValue?_eq_none_of_declared? hdeclared)
  | some declared =>
    obtain ⟨length, bytes⟩ := declared
    obtain ⟨body, rfl, hvalue⟩ := countedValue?_of_declared? hdeclared
    have hinput' : input = before ++ (name ++ ['|']) ++ length ++ ['|'] ++ body := by
      rw [hinput, hrest]
      simp
    have hsum := congrArg Text.byteLength hinput'
    rw [Text.byteLength_append, Text.byteLength_append, Text.byteLength_append _ length] at hsum
    have hkeyEnd := Text.checkedSum?_size before (name ++ ['|']) (by omega)
    have hlengthEnd := Text.checkedSum?_size (before ++ (name ++ ['|'])) length
      (by rw [Text.byteLength_append _ length]; omega)
    have hvalueStart := Text.checkedSum?_bar (before ++ (name ++ ['|']) ++ length)
      (by rw [Text.byteLength_append _ length]; omega)
    have hslice := Text.slice?_checkedSum? (hinput' ▸ Nat.lt_of_succ_lt hlong) bytes
    rw [← hinput'] at hslice
    have hoffset : (reader.cursor before).offset = size before := rfl
    simp only [hoffset, hkeyEnd, hlengthEnd, hvalueStart, hslice, orMishap_some, ok_bind]
    cases hsplit : Text.splitBytes bytes.toNat body with
    | none => exact hbad (hvalue.trans hsplit)
    | some cuts =>
      obtain ⟨value, tail⟩ := cuts
      rw [Text.splitBytes_eq hsplit] at hinput'
      simp only [Reader.counted, hvalue.trans hsplit, Option.map_some,
        passValue_cursor hinput' hlong (Text.byteLength_of_splitBytes hsplit)]
      refine ⟨name ++ ['|'] ++ length ++ ['|'] ++ value ++ Text.wholeLine tail, ?_, ?_, ?_⟩
      · simp
      · rw [hrest, Text.splitBytes_eq hsplit]
        simp [Reader.afterValue, Text.wholeLine_append_afterLine]
      · simp only [List.append_assoc]

theorem next_of_keyed {key : CountedKey} {afterKey : List Char} (hpending : reader.pending = none)
    (hne : reader.rest ≠ []) (hkey : countedKey? reader.rest = some (key, afterKey)) :
    reader.next = some (reader.counted key afterKey) := by
  simp only [Reader.next, hpending, hkey, Reader.counted, List.isEmpty_iff, hne, if_false]
  cases countedValue? afterKey <;> rfl

/-- **Each step of the reader, by offsets.**  There is no mishap; what is left of the input loses a
    piece at its front, which is empty only where an issue is handed out late. -/
theorem Reader.next_cursor (hinput : input = before ++ reader.rest)
    (hlong : Text.byteLength input + 1 < UInt64.size) :
    (reader.next = none ∧ reader.rest = [] ∧ (reader.cursor before).next input = .ok none) ∨
      ∃ item after piece, reader.next = some (item, after) ∧ reader.rest = piece ++ after.rest ∧
        (reader.pending = none → piece ≠ []) ∧
        (∀ issue, reader.pending = some issue → item = .issue issue ∧ piece = []) ∧
        (reader.cursor before).next input = .ok (some (item, after.cursor (before ++ piece))) := by
  cases hpending : reader.pending with
  | some issue =>
    refine .inr ⟨.issue issue, { reader with pending := none }, [], ?_, rfl, ?_, ?_, ?_⟩
    · simp only [next, hpending]
    · rintro ⟨⟩
    · rintro _ ⟨⟩
      exact ⟨rfl, rfl⟩
    · simp only [Cursor.next, cursor, hpending, List.append_nil]
  | none =>
    have hsum := congrArg Text.byteLength hinput
    rw [Text.byteLength_append] at hsum
    have hrest : past? input (reader.cursor before).offset = some reader.rest := by
      rw [hinput]
      exact Text.past?_append (by omega)
    have hcursor : (reader.cursor before).pending = none := hpending
    simp only [Cursor.next, hcursor, hrest, orMishap_some, ok_bind]
    by_cases hne : reader.rest = []
    · refine .inl ⟨?_, hne, ?_⟩
      · simp only [next, hpending, hne, List.isEmpty_nil, if_true]
      · simp only [hne, List.isEmpty_nil, if_true]
        rfl
    simp only [List.isEmpty_iff, hne, if_false]
    cases hkey : countedKey? reader.rest with
    | none =>
      refine .inr ⟨plainItem reader.line (Text.line reader.rest), reader.skipLine,
        Text.wholeLine reader.rest, ?_, (Text.wholeLine_append_afterLine _).symm,
        fun _ => Text.wholeLine_ne_nil hne, ?_, ?_⟩
      · simp only [next, hpending, hkey, List.isEmpty_iff, hne, if_false]
      · rintro _ ⟨⟩
      · simp only [keyed?_line_eq_none hkey, skipLine_cursor hinput hlong hpending, ok_bind]
        rfl
    | some found =>
      obtain ⟨key, afterKey⟩ := found
      obtain ⟨name, hname, hbreak, hkeyed⟩ := keyed?_line_eq_some hkey
      obtain ⟨piece, hpiece, hafter, hread⟩ :=
        readCounted_cursor key hinput hlong hpending hname hbreak
      refine .inr ⟨_, _, piece, next_of_keyed hpending hne hkey, hafter, fun _ => hpiece, ?_, ?_⟩
      · rintro _ ⟨⟩
      · simp only [hkeyed, hread, ok_bind]
        rfl

end

/-! ## Calls -/

section
variable (input : List Char)

/-- One call: the cursor before it, what it hands out, and the cursor after it. -/
structure Call where
  start : Cursor
  item : Item
  stop : Cursor

/-- Calls one after the other, from one cursor to another. -/
inductive Calls : Cursor → List Call → Cursor → Prop
  | none {cursor : Cursor} : Calls cursor [] cursor
  | next {cursor middle last : Cursor} {item : Item} {calls : List Call} :
      cursor.next input = .ok (some (item, middle)) → Calls middle calls last →
      Calls cursor (⟨cursor, item, middle⟩ :: calls) last

/-- A call takes a piece of the input: its offsets are on boundaries, with the piece between them,
    and they differ unless the call hands out an issue of the call before it. -/
structure Call.Takes (call : Call) (piece : List Char) : Prop where
  slice : slice? input call.start.offset call.stop.offset = some piece
  moves : call.start.pending = none → call.start.offset < call.stop.offset
  late : ∀ issue, call.start.pending = some issue →
    call.item = .issue issue ∧ call.stop.offset = call.start.offset

end

section
variable {input before : List Char}

/-- What a step takes lies between its offsets. -/
theorem Reader.takes_cursor {reader after : Reader} {item : Item} {piece : List Char}
    (hinput : input = before ++ (piece ++ after.rest))
    (hlong : Text.byteLength input + 1 < UInt64.size)
    (hpiece : reader.pending = none → piece ≠ [])
    (hlate : ∀ issue, reader.pending = some issue → item = .issue issue ∧ piece = []) :
    Call.Takes input ⟨reader.cursor before, item, after.cursor (before ++ piece)⟩ piece := by
  have hsum := congrArg Text.byteLength hinput
  rw [← List.append_assoc, Text.byteLength_append] at hsum
  have hfront := Text.byteLength_append before piece
  refine ⟨?_, ?_, ?_⟩
  · rw [hinput]
    exact Text.slice?_append (by omega)
  · intro hpending
    obtain ⟨c, rest, rfl⟩ := List.exists_cons_of_ne_nil (hpiece hpending)
    have hpos := c.utf8Size_pos
    rw [Text.byteLength_cons] at hfront
    show size before < size (before ++ c :: rest)
    rw [UInt64.lt_iff_toNat_lt, Text.toNat_size (by omega), Text.toNat_size (by omega)]
    omega
  · intro issue hpending
    obtain ⟨rfl, rfl⟩ := hlate issue hpending
    exact ⟨rfl, by rw [List.append_nil]; rfl⟩

/-- **What any number of calls have taken.**  Their pieces follow each other, and what is left is
    what the reader has left; each call makes what is left to do smaller. -/
theorem Calls.taken (hlong : Text.byteLength input + 1 < UInt64.size) {start last : Cursor}
    {calls : List Call} (h : Calls input start calls last) {reader : Reader}
    (hinput : input = before ++ reader.rest) (hstart : start = reader.cursor before) :
    ∃ pieces after, List.Forall₂ (Call.Takes input) calls pieces ∧
      input = before ++ pieces.flatten ++ after.rest ∧
      last = Reader.cursor after (before ++ pieces.flatten) ∧
      reader.items = calls.map Call.item ++ after.items ∧
      calls.length + after.remaining ≤ reader.remaining := by
  induction h generalizing before reader with
  | none => exact ⟨[], reader, .nil, by simpa using hinput, by simpa using hstart, rfl, by simp⟩
  | @next cursor middle last item calls hnext _ ih =>
    subst hstart
    rcases reader.next_cursor hinput hlong with ⟨-, -, hend⟩ |
      ⟨item', after, piece, hread, hrest, hpiece, hlate, hmove⟩
    · rw [hend] at hnext
      cases hnext
    rw [hmove] at hnext
    cases hnext
    rw [hrest] at hinput
    have hmoved : input = before ++ piece ++ after.rest := by rw [hinput, List.append_assoc]
    obtain ⟨pieces, final, htakes, hfinal, hlast, hitems, hremaining⟩ := ih hmoved rfl
    refine ⟨piece :: pieces, final, .cons (Reader.takes_cursor hinput hlong hpiece hlate) htakes,
      ?_, ?_, ?_, ?_⟩
    · simpa using hfinal
    · simpa using hlast
    · rw [items_of_next hread, hitems]
      rfl
    · have hless := Reader.remaining_next hread
      rw [List.length_cons]
      omega

/-- Calling on and on comes to the end. -/
theorem exists_calls (hlong : Text.byteLength input + 1 < UInt64.size) {reader : Reader}
    (hinput : input = before ++ reader.rest) :
    ∃ calls last, Calls input (reader.cursor before) calls last ∧ last.next input = .ok none := by
  induction hn : reader.remaining using Nat.strongRecOn generalizing before reader with
  | _ n ih =>
    subst hn
    rcases reader.next_cursor hinput hlong with ⟨-, -, hend⟩ |
      ⟨item, after, piece, hread, hrest, -, -, hmove⟩
    · exact ⟨[], _, .none, hend⟩
    · rw [hrest, ← List.append_assoc] at hinput
      obtain ⟨calls, last, hcalls, hend⟩ := ih _ (Reader.remaining_next hread) hinput rfl
      exact ⟨_, last, .next hmove hcalls, hend⟩

/-- **The reader covers its whole input.**  However often it is called, no sum overflows and no cut
    misses a boundary (there would be a mishap); every call starts where the one before it stopped,
    takes the piece between its offsets, and moves on unless it only hands out a late issue; the
    pieces make up the input as far as it is read, and at the end they are all of it.  The end
    comes, after no more than two calls for each character, and what was handed out till then is
    what the reader reads.  One more than the bytes of the input has to be a word, which it is for
    every text that a host can hold. -/
theorem input_covered (input : List Char) (line : Nat)
    (hlong : Text.byteLength input + 1 < UInt64.size) :
    (∀ calls last, Calls input ⟨0, line, none⟩ calls last →
      calls.length ≤ 2 * input.length ∧
      ∃ pieces rest, List.Forall₂ (Call.Takes input) calls pieces ∧
        pieces.flatten ++ rest = input ∧ last.offset.toNat = Text.byteLength pieces.flatten ∧
        (last.next input = .ok none ∧ rest = [] ∧
            calls.map Call.item = Reader.items ⟨input, line, none⟩ ∨
          ∃ item after, last.next input = .ok (some (item, after)))) ∧
      ∃ calls last, Calls input ⟨0, line, none⟩ calls last ∧ last.next input = .ok none := by
  have hall : input = [] ++ (⟨input, line, none⟩ : Reader).rest := rfl
  have hstart : (⟨0, line, none⟩ : Cursor) = Reader.cursor ⟨input, line, none⟩ [] := rfl
  refine ⟨?_, ?_⟩
  · intro calls last hcalls
    obtain ⟨pieces, after, htakes, hinput, rfl, hitems, hremaining⟩ :=
      hcalls.taken hlong hall hstart
    rw [List.nil_append] at hinput ⊢
    have hsum := congrArg Text.byteLength hinput
    rw [Text.byteLength_append] at hsum
    have hstarting : Reader.remaining ⟨input, line, none⟩ = 2 * input.length := rfl
    refine ⟨by omega, pieces, after.rest, htakes, hinput.symm, Text.toNat_size (by omega), ?_⟩
    rcases after.next_cursor hinput hlong with
      ⟨hnone, hrest, hend⟩ | ⟨item, _, _, -, -, -, -, hmove⟩
    · refine .inl ⟨hend, hrest, ?_⟩
      rw [hitems, items_of_end hnone, List.append_nil]
    · exact .inr ⟨_, _, hmove⟩
  · rw [hstart]
    exact exists_calls hlong hall

/-- A value over two lines with something behind it, the largest length there is, and a last line
    without a line feed. -/
theorem input_covered_hostile :
    let input := "label|+4|é\nbc\nLabel|18446744073709551615|x\nEntry".toList
    ∃ calls last, Calls input ⟨0, 1, none⟩ calls last ∧ last.next input = .ok none ∧
      last.offset.toNat = Text.byteLength input ∧ calls.map Call.item =
        [.field 1 (.label "é\nb"), .issue ⟨2, .trailingBytes, "c"⟩,
          .issue ⟨3, .badLength, "Label|18446744073709551615|x"⟩, .field 4 .entry] := by
  intro input
  obtain ⟨htaken, calls, last, hcalls, hend⟩ := input_covered input 1 (by decide)
  obtain ⟨-, pieces, rest, -, hinput, hoffset, hlast⟩ := htaken calls last hcalls
  rcases hlast with ⟨-, rfl, hitems⟩ | ⟨item, after, hmore⟩
  · rw [List.append_nil] at hinput
    rw [hinput] at hoffset
    have hvalue : Reader.next ⟨input, 1, none⟩ = some (.field 1 (.label "é\nb"),
        ⟨"Label|18446744073709551615|x\nEntry".toList, 3, some ⟨2, .trailingBytes, "c"⟩⟩) := by
      decide
    have hlength : Reader.next ⟨"Label|18446744073709551615|x\nEntry".toList, 3, none⟩ =
        some (.issue ⟨3, .badLength, "Label|18446744073709551615|x"⟩,
          ⟨"Entry".toList, 4, none⟩) := by decide
    have hmarker : Reader.next ⟨"Entry".toList, 4, none⟩ =
        some (.field 4 .entry, ⟨[], 5, none⟩) := by decide
    rw [items_of_next hvalue, items_of_next rfl, items_of_next hlength, items_of_next hmarker,
      items_of_end rfl] at hitems
    exact ⟨calls, last, hcalls, hend, hoffset, hitems⟩
  · rw [hend] at hmore
    cases hmore

end

end MountControl.Wire
