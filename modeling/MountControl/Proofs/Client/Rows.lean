/-
  MountControl — how many volumes a listing shows.

  The client shows a line for each volume of the reply, and what a volume is
  the reply's fields say: each entry mark makes one, and so do fields in
  front of the first mark.  A reply of which nothing can be read should make
  none; it makes one of which nothing is known.

  * `Rows` is how many lines of volumes a text has, and `Rows.count` reads
    that off it;
  * `length_volumesOf`: the volumes that fields make are as many as they
    should be, and one more if there is no field;
  * `rows_counted`: so many rows are shown, for every reply with data;
  * `unreadable_reply_shows_row` is the row of no volume.
-/
import MountControl.Proofs.Client.ExitStatus
import MountControl.Proofs.Wire.Groups

namespace MountControl.Client

open Config (Argument Settings)
open Volume (Record)
open Wire (Arrives Field Reader Reply Request decodeData groups kindData listed maxMessageBytes
  map_volumes readable splitOn_eq_cons volumes)

/-! ## Rows -/

/-- The text of a listing with so many rows: that of the empty one, or a table. -/
inductive Rows : Nat → List Char → Prop
  | none : Rows 0 Table.empty
  | table {records : List Record} {header : List Char} {rows : List (List Char)}
      {text : List Char} : records ≠ [] → Table.Tabulated records header rows text →
      Rows rows.length text

theorem count_flatMap_lines {lines : List (List Char)} (h : ∀ line ∈ lines, '\n' ∉ line) :
    (lines.flatMap (· ++ ['\n'])).count '\n' = lines.length := by
  induction lines with
  | nil => rfl
  | cons line lines ih =>
    rw [List.forall_mem_cons] at h
    rw [List.flatMap_cons, List.count_append, List.count_append, ih h.2,
      List.count_eq_zero.2 h.1, List.count_singleton_self, List.length_cons]
    omega

/-- The rows are the lines of the text, but for one. -/
theorem Rows.count {rows : Nat} {text : List Char} (h : Rows rows text) :
    text.count '\n' = rows + 1 := by
  cases h with
  | none => rfl
  | table _ htable =>
    rw [htable.lines, count_flatMap_lines htable.single, List.length_cons]

theorem rows_render (records : List Record) : Rows records.length (Table.render records) := by
  cases records with
  | nil => exact .none
  | cons record records =>
    obtain ⟨header, rows, htable⟩ := Table.render_tabulated (List.cons_ne_nil record records)
    rw [htable.shown.length_eq]
    exact .table (List.cons_ne_nil record records) htable

/-! ## Volumes -/

/-- The rows that the fields of a data body should make: one for each entry mark, and one for what
    stands in front of the first, if a field of a volume does. -/
def rowsFor (fields : List Field) : Nat :=
  fields.count .entry + if (fields.takeWhile (· != .entry)).any Field.inRecord then 1 else 0

theorem length_listed (fields : List Field) : (listed (groups fields)).length = rowsFor fields := by
  obtain ⟨marked, hsplit, hlength⟩ := splitOn_eq_cons .entry fields
  rw [← map_volumes, List.length_map, hsplit, volumes, rowsFor, ← hlength]
  split <;> rfl

/-- **The volumes are as many as there should be**, and one more where there is no field. -/
theorem length_volumesOf (fields : List Field) :
    (volumesOf (.ofData fields)).length = rowsFor fields + if fields = [] then 1 else 0 := by
  rw [Reply.ofData]
  split
  next hlisting =>
    have hne : fields ≠ [] := by
      rintro rfl
      simp at hlisting
    rw [volumesOf, List.length_map, length_listed, if_neg hne, Nat.add_zero]
  next hdetail =>
    rw [not_or] at hdetail
    obtain ⟨hentry, hmarker⟩ := hdetail
    cases fields with
    | nil => rfl
    | cons first rest =>
      have hfirst : first.inRecord := by
        cases first with
        | entry => exact absurd List.mem_cons_self hentry
        | noEntries => exact absurd List.mem_cons_self hmarker
        | _ => rfl
      have hfront : (first :: rest).takeWhile (· != .entry) = first :: rest :=
        List.takeWhile_eq_self_iff.2 fun field hfield => by
          simpa using ne_of_mem_of_not_mem hfield hentry
      rw [rowsFor, hfront, List.count_eq_zero.2 hentry, List.any_cons, hfirst]
      rfl

/-! ## Whole runs -/

section
variable {around : Surroundings} {service : List UInt8 → Line} {arguments : List Argument}
  {command : Command} {request : Request} {settings : Settings} {bytes : List UInt8}

/-- Data are shown as a listing of the volumes that their fields make. -/
theorem run_data (h : Receiving around service arguments .list request settings bytes)
    (hsize : bytes.length ≤ maxMessageBytes)
    (hkind : Text.line (Text.decodeLossy bytes) = kindData.toList)
    (hbody : Text.afterLine (Text.decodeLossy bytes) ≠ []) :
    let fields := readable (Reader.items ⟨Text.afterLine (Text.decodeLossy bytes), 1, none⟩)
    let done := run around {} service arguments
    done.status = 0 ∧
      done.shown.out = String.ofList (Table.render (volumesOf (.ofData fields))) := by
  intro fields done
  have hdone : done = _ := run_received h hsize
  rw [hdone, settled, Reply.decode_data_line hkind hbody]
  simp only [present_data, if_true]
  rw [Wire.decodeData_message]
  exact ⟨rfl, String.empty_append⟩

/-- A reply beyond the limit is not shown. -/
theorem run_oversized (h : Receiving around service arguments command request settings bytes)
    (hlong : maxMessageBytes < bytes.length) :
    let done := run around {} service arguments
    done.status = 5 ∧ done.shown.out = "" := by
  intro done
  have hexchange : (service (Text.encode request.encode)).exchange (Text.encode request.encode)
      settings.replyTimeout.toNat = .error .oversized := by
    simp only [Line.exchange, h.sent, h.closed, Wire.readReply_arrives_oversized h.arrives hlong]
    rfl
  have hdone : done = Outlets.finish {} (.error .oversized) {}
      (some (Text.encode request.encode)) := by
    simp only [done, run, h.asked, h.loaded, execute, h.requested, h.reached, hexchange]
  rw [hdone]
  exact ⟨rfl, rfl⟩

/-- **Listings have a row for each volume, and one too many if nothing can be read.**  Of each reply
    with data, of whatever bytes, the client shows a row for each entry mark, and one for the fields
    in front of the first; if there is no field, it shows a row of which nothing is known.  The
    status is 0.  A reply beyond the limit is not shown at all. -/
theorem rows_counted (h : Receiving around service arguments .list request settings bytes)
    (hkind : Text.line (Text.decodeLossy bytes) = kindData.toList)
    (hbody : Text.afterLine (Text.decodeLossy bytes) ≠ []) :
    let fields := readable (Reader.items ⟨Text.afterLine (Text.decodeLossy bytes), 1, none⟩)
    let done := run around {} service arguments
    (bytes.length ≤ maxMessageBytes → done.status = 0 ∧
      Rows (rowsFor fields + if fields = [] then 1 else 0) done.shown.out.toList) ∧
      (maxMessageBytes < bytes.length → done.status = 5 ∧ done.shown.out = "") := by
  intro fields done
  refine ⟨fun hsize => ?_, run_oversized h⟩
  obtain ⟨hstatus, hout⟩ := run_data h hsize hkind hbody
  refine ⟨hstatus, ?_⟩
  rw [hout, String.toList_ofList, ← length_volumesOf]
  exact rows_render _

end

/-! ## A client and a service on one machine -/

/-- A service that answers every request with these bytes, at once. -/
def answering (bytes : List UInt8) (_request : List UInt8) : Line where
  reads := [(5, .chunk bytes)]

theorem receiving_at_once {bytes : List UInt8} (hne : bytes ≠ []) :
    Receiving oneMachine (answering bytes) [.ofText "btrmount", .ofText "list"] .list .list
      { socket := .unix "/r/btrmount/btrmountd.sock" } bytes := by
  have hsplit : Arguments.split [.ofText "btrmount", .ofText "list"] =
      ⟨[.ofText "btrmount"], [.ofText "btrmount", .ofText "list"]⟩ := by decide +kernel
  have harrives : Arrives 1000 [(5, .chunk bytes)] (bytes ++ []) :=
    .chunk (by decide) hne .ended
  rw [List.append_nil] at harrives
  exact
    { asked := by rw [hsplit]; decide +kernel
      loaded := hsplit ▸ load_oneMachine
      requested := rfl
      reached := connect_oneMachine 1000
      sent := rfl
      closed := rfl
      arrives := harrives }

/-- Two entries, of which the first has nothing that can be read, behind a label. -/
theorem rows_counted_three :
    let text := "Data\nLabel|1|a\nNo Entries\nEntry\nColour|blue\nEntry\nInstanceID|7\n".toList
    let arguments := [.ofText "btrmount", .ofText "list"]
    let done := run oneMachine {} (answering (Text.encode text)) arguments
    Text.line (Text.decodeLossy (Text.encode text)) = kindData.toList ∧
      Text.afterLine (Text.decodeLossy (Text.encode text)) ≠ [] ∧
      done.status = 0 ∧ Rows 3 done.shown.out.toList := by
  intro text arguments done
  have htext : Text.decodeLossy (Text.encode text) = text := Text.decodeLossy_encode text
  have hkind : Text.line (Text.decodeLossy (Text.encode text)) = kindData.toList := by
    rw [htext]; decide
  have hbody : Text.afterLine (Text.decodeLossy (Text.encode text)) ≠ [] := by
    rw [htext]; decide
  obtain ⟨hshown, -⟩ := rows_counted (receiving_at_once (by decide)) hkind hbody
  obtain ⟨hstatus, hrows⟩ := hshown (by decide +kernel)
  rw [htext] at hrows
  have hthree : rowsFor (readable (Reader.items ⟨Text.afterLine text, 1, none⟩)) +
      (if readable (Reader.items ⟨Text.afterLine text, 1, none⟩) = [] then 1 else 0) = 3 := by
    decide +kernel
  rw [hthree] at hrows
  exact ⟨hkind, hbody, hstatus, hrows⟩

/-- **A reply of which nothing can be read shows a row**, and the status is 0. -/
theorem unreadable_reply_shows_row :
    let text := "Data\nColour|blue\n".toList
    let arguments := [.ofText "btrmount", .ofText "list"]
    let done := run oneMachine {} (answering (Text.encode text)) arguments
    readable (Reader.items ⟨Text.afterLine text, 1, none⟩) = [] ∧ done.status = 0 ∧
      done.shown.out = "INSTANCE  STATE  MOUNT POINT  LABEL  DEVICES\n" ++
        "-         -      -            -      -\n" ∧
      ∀ rows, Rows rows done.shown.out.toList ↔ rows = 1 := by
  intro text arguments done
  have htext : Text.decodeLossy (Text.encode text) = text := Text.decodeLossy_encode text
  have hnone : readable (Reader.items ⟨Text.afterLine text, 1, none⟩) = [] := by decide +kernel
  have hne : Text.encode text ≠ [] := by decide
  have hsize : (Text.encode text).length ≤ maxMessageBytes := by decide +kernel
  obtain ⟨hstatus, hout⟩ := run_data (receiving_at_once hne) hsize (by rw [htext]; decide)
    (by rw [htext]; decide)
  rw [htext, hnone] at hout
  have hrows : Rows 1 done.shown.out.toList := by
    rw [hout, String.toList_ofList]
    exact rows_render (volumesOf (.ofData []))
  refine ⟨hnone, hstatus, hout.trans (by decide +kernel), fun rows => ⟨fun h => ?_, ?_⟩⟩
  · have hcount := h.count.symm.trans hrows.count
    omega
  · rintro rfl
    exact hrows

end MountControl.Client
