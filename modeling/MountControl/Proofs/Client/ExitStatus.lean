/-
  MountControl — the exit status tells the reply.

  Once a request is sent, all that the client does hangs on the text that it
  receives: `settled` is what it makes of that text.

  * `statusFor` is the exit status for a text, by its first line and by
    whether anything follows that line;
  * `settled_cases`: the client settles every text with that status, after
    the warnings about the lines of it that are skipped;
  * `not_mem_warning`: a warning is one line, whatever was skipped;
  * `status_classifies`: hence the status tells the reply, for every reply
    within the limit.
-/
import MountControl.Proofs.Client.Surroundings
import MountControl.Proofs.Client.Table
import MountControl.Proofs.Text.Truncation
import MountControl.Proofs.Wire.Framing

namespace MountControl.Wire

/-- All that a text can be read as. -/
inductive Reads (text : List Char) : Except ReplyError (Decoded Reply) → Prop
  | empty : text = [] → Reads text (.error .empty)
  | ok : text ≠ [] → Text.line text = "OK".toList → Reads text (.ok ⟨.ok, []⟩)
  | error {description} : text ≠ [] → Text.line text = "Error".toList →
      Reads text (.ok ⟨.error description, []⟩)
  | emptyData : text ≠ [] → Text.line text = "Data".toList → Text.afterLine text = [] →
      Reads text (.error .emptyData)
  | data : text ≠ [] → Text.line text = "Data".toList → Text.afterLine text ≠ [] →
      Reads text (.ok (decodeData (Text.afterLine text)))
  | unknown {kind} : text ≠ [] → Text.line text ∉ ["OK", "Error", "Data"].map String.toList →
      Reads text (.error (.unknownKind kind))

theorem Reply.decode_reads (text : List Char) : Reads text (Reply.decode text) := by
  rw [Reply.decode]
  split
  next h => exact .empty (List.isEmpty_iff.1 h)
  next h =>
    have hne : text ≠ [] := mt List.isEmpty_iff.2 h
    dsimp only
    split
    next hok => exact .ok hne hok
    next hok =>
      split
      next herror => exact .error hne herror
      next herror =>
        split
        next hdata =>
          split
          next hbody => exact .emptyData hne hdata (List.isEmpty_iff.1 hbody)
          next hbody => exact .data hne hdata (mt List.isEmpty_iff.2 hbody)
        next hdata => exact .unknown hne (by simpa using ⟨hok, herror, hdata⟩)

end MountControl.Wire

namespace MountControl.Client

open Config (Argument Settings)
open Text.Numeral (IsDigit isDigit_of_mem_digits not_mem_of_isDigit)
open Volume (Record)
open Wire (Arrives Issue Reply Request decodeData maxMessageBytes writeMessage)

/-! ## Warnings -/

theorem not_mem_byCodePoint (c : Char) : '\n' ∉ Text.Quoted.byCodePoint c := by
  have hdigits : ∀ digit ∈ Text.Numeral.digits 16 c.toNat, IsDigit digit :=
    isDigit_of_mem_digits (by decide) (by decide)
  simp [Text.Quoted.byCodePoint, (not_mem_of_isDigit hdigits).2.1]

/-- Inside quotes no line ends. -/
theorem not_mem_escape (c : Char) : '\n' ∉ Text.Quoted.escape c := by
  by_cases hc : c = '\n'
  · subst hc
    decide
  · unfold Text.Quoted.escape
    split
    case h_7 =>
      split
      · simpa using Ne.symm hc
      · exact not_mem_byCodePoint c
    all_goals decide

theorem not_mem_quote (text : List Char) : '\n' ∉ Text.Quoted.quote text := by
  simp [Text.Quoted.quote, not_mem_escape]

/-- **A warning is one line**, whatever was skipped. -/
theorem not_mem_warning (issue : Issue) :
    ∃ line, (warning issue).toList = line ++ ['\n'] ∧ '\n' ∉ line := by
  have hnumber : '\n' ∉ Text.Numeral.decimal issue.line :=
    (not_mem_of_isDigit (isDigit_of_mem_digits (by decide) (by decide))).2.1
  have hkind : '\n' ∉ issue.kind.message.toList := by cases issue.kind <;> decide
  have hquote := not_mem_quote issue.excerpt.toList
  have htext : (warning issue).toList = "warning: skipped unintelligible reply ".toList ++
      ("line ".toList ++ Text.Numeral.decimal issue.line ++ ": ".toList ++
        issue.kind.message.toList ++ " (".toList ++ Text.Quoted.quote issue.excerpt.toList ++
        ")".toList) ++ ['\n'] := by
    have hdecimal : (Text.Numeral.decimalString issue.line).toList =
      Text.Numeral.decimal issue.line := String.toList_ofList
    have hquoted : (Text.Quoted.quoteString issue.excerpt).toList =
      Text.Quoted.quote issue.excerpt.toList := String.toList_ofList
    have hend : "\n".toList = ['\n'] := rfl
    unfold warning Issue.display
    simp only [String.toList_append]
    rw [hdecimal, hquoted, hend]
  refine ⟨_, htext, ?_⟩
  simp only [List.mem_append, not_or, hnumber, hkind, hquote, not_false_eq_true]
  decide +kernel

/-! ## What the client makes of a text -/

/-- The exit status for a reply of this text. -/
def statusFor (command : Command) (text : List Char) : Nat :=
  if text = [] then 3
  else if Text.line text = "OK".toList then if command = .list then 5 else 0
  else if Text.line text = "Error".toList then 7
  else if Text.line text = "Data".toList then
    if Text.afterLine text = [] then 6 else if command = .list then 0 else 5
  else 5

/-- The lines of a reply that are skipped. -/
def issuesIn (text : List Char) : List Issue :=
  match Reply.decode text with
  | .ok decoded => decoded.issues
  | .error _ => []

/-- The volumes that a reply tells of. -/
def volumesOf : Reply → List Record
  | .listing records => records
  | .detail record => [record]
  | _ => []

/-- The volumes that the text of a reply tells of. -/
def volumesIn (text : List Char) : List Record :=
  match Reply.decode text with
  | .ok decoded => volumesOf decoded.message
  | .error _ => []

/-- What the client makes of the text of a reply, and what it has shown before it ends. -/
def settled (command : Command) (text : List Char) : Except Failure Unit × Shown :=
  match Reply.decode text with
  | .error source => (.error (.ofDecoding source), {})
  | .ok decoded =>
    Outlets.present {} command decoded.message { err := String.join (decoded.issues.map warning) }

/-- A text is settled with a status: in success a listing is shown, and in failure nothing but the
    warnings. -/
inductive Settled (command : Command) (text : List Char) : Except Failure Unit × Shown → Prop
  | done : statusFor command text = 0 → Settled command text (.ok (),
      { out := if command = .list then String.ofList (Table.render (volumesIn text)) else ""
        err := String.join ((issuesIn text).map warning) })
  | failed {failure : Failure} : failure.status = statusFor command text →
      Settled command text (.error failure,
        { err := String.join ((issuesIn text).map warning) })

theorem warn_eq (issues : List Issue) :
    Outlets.warn {} issues {} = (.ok (), { err := String.join (issues.map warning) }) := by
  cases issues with
  | nil => rfl
  | cons issue issues => simp only [Outlets.warn, String.empty_append]

/-- Data are shown as a listing, if one was asked for, and are unexpected otherwise. -/
theorem present_data (command : Command) (body : List Char) (shown : Shown) :
    Outlets.present {} command (decodeData body).message shown =
      if command = .list then
        (.ok (), { shown with
          out := shown.out ++ String.ofList (Table.render (volumesOf (decodeData body).message)) })
      else (.error (.unexpected command.name "Data"), shown) := by
  obtain ⟨records, hmessage⟩ | ⟨record, hmessage⟩ :
      (∃ records, (decodeData body).message = .listing records) ∨
        ∃ record, (decodeData body).message = .detail record := by
    rw [decodeData, Wire.DataBody.reply]
    split
    · split
      · exact .inl ⟨_, rfl⟩
      · exact .inl ⟨_, rfl⟩
    · exact .inr ⟨_, rfl⟩
  · rw [hmessage]
    cases command <;> rfl
  · rw [hmessage]
    cases command <;> rfl

/-- **Every text is settled with its status.** -/
theorem settled_cases (command : Command) (text : List Char) :
    Settled command text (settled command text) := by
  have hreads := Reply.decode_reads text
  have hissues : issuesIn text = match Reply.decode text with
    | .ok decoded => decoded.issues
    | .error _ => [] := rfl
  have hvolumes : volumesIn text = match Reply.decode text with
    | .ok decoded => volumesOf decoded.message
    | .error _ => [] := rfl
  have hfailed := fun failure => @Settled.failed command text failure
  have hdone := @Settled.done command text
  rw [settled]
  generalize Reply.decode text = result at hreads hissues hvolumes
  rw [hissues] at hfailed hdone
  rw [hvolumes] at hdone
  cases hreads with
  | empty htext => exact hfailed .emptyReply (by simp [statusFor, htext, Failure.status])
  | error hne hline => exact hfailed (.service _) (by simp [statusFor, hne, hline, Failure.status])
  | emptyData hne hline hbody =>
    exact hfailed .emptyData (by simp [statusFor, hne, hline, hbody, Failure.status])
  | unknown hne hline =>
    exact hfailed (.unintelligible _) (by simp_all [statusFor, Failure.status])
  | ok hne hline =>
    cases command with
    | list => exact hfailed (.unexpected _ _) (by simp [statusFor, hne, hline, Failure.status])
    | mount | unmount => exact hdone (by simp [statusFor, hne, hline])
  | data hne hline hbody =>
    dsimp only at hdone hfailed ⊢
    rw [present_data]
    split
    next hlist =>
      rw [if_pos hlist] at hdone
      exact hdone (by simp [statusFor, hne, hline, hbody, hlist])
    next hlist =>
      have hfive : statusFor command text = 5 := by simp [statusFor, hne, hline, hbody, hlist]
      exact hfailed (.unexpected _ _) hfive.symm

/-! ## Whole runs -/

/-- The client runs a command, its request is sent, and these bytes are the reply, up to its
    end. -/
structure Receiving (around : Surroundings) (service : List UInt8 → Line)
    (arguments : List Argument) (command : Command) (request : Request) (settings : Settings)
    (bytes : List UInt8) : Prop where
  asked : Asked.parse ((Arguments.split arguments).command.drop 1) = .ok (.run command)
  loaded : Config.load (Arguments.split arguments).settings around.env around.files around.cwd =
    .ok settings
  requested : command.request = .ok request
  reached : around.connect settings.socket settings.connectTimeout.toNat = .ok ()
  sent : (writeMessage (Text.encode request.encode) (service (Text.encode request.encode)).writes
    (service (Text.encode request.encode)).flush).result = .ok ()
  closed : (service (Text.encode request.encode)).closing = .ok ()
  arrives : Arrives settings.replyTimeout.toNat (service (Text.encode request.encode)).reads bytes

section
variable {around : Surroundings} {service : List UInt8 → Line} {arguments : List Argument}
  {command : Command} {request : Request} {settings : Settings} {bytes : List UInt8}

/-- **A run ends as the text is settled.** -/
theorem run_received
    (h : Receiving around service arguments command request settings bytes)
    (hsize : bytes.length ≤ maxMessageBytes) :
    run around {} service arguments =
      Outlets.finish {} (settled command (Text.decodeLossy bytes)).1
        (settled command (Text.decodeLossy bytes)).2 (some (Text.encode request.encode)) := by
  have hexchange : (service (Text.encode request.encode)).exchange (Text.encode request.encode)
      settings.replyTimeout.toNat = .ok (Text.decodeLossy bytes) := by
    simp only [Line.exchange, h.sent, h.closed, Wire.readReply_arrives h.arrives hsize]
  simp only [run, h.asked, h.loaded, execute, h.requested, h.reached, hexchange, settled]
  cases Reply.decode (Text.decodeLossy bytes) with
  | error source => rfl
  | ok decoded => simp only [warn_eq]

/-- **The exit status tells the reply.**  Once a command's request is sent, and for every reply
    within the limit, whatever its bytes are, the status is that of the reply's text.  The standard
    output is the table of the volumes if a listing was asked for and the status is 0, and else
    nothing; the standard error has one line for each record of the reply that is skipped, in their
    order, and after them the text of one failure, which has that status, if it is not 0. -/
theorem status_classifies
    (h : Receiving around service arguments command request settings bytes)
    (hsize : bytes.length ≤ maxMessageBytes) :
    let done := run around {} service arguments
    let text := Text.decodeLossy bytes
    done.status = statusFor command text ∧
    done.shown.out = (if command = .list ∧ done.status = 0 then
      String.ofList (Table.render (volumesIn text)) else "") ∧
    (∀ issue ∈ issuesIn text, ∃ line, (warning issue).toList = line ++ ['\n'] ∧ '\n' ∉ line) ∧
    ∃ message, done.shown.err = String.join ((issuesIn text).map warning) ++ message ∧
      (done.status = 0 → message = "") ∧
      (done.status ≠ 0 → ∃ failure : Failure, failure.status = done.status ∧
        message = failure.message ++ "\n") := by
  intro done text
  have hdone : done = _ := run_received h hsize
  have hsettled := settled_cases command text
  have hlines : ∀ issue ∈ issuesIn text, ∃ line, (warning issue).toList = line ++ ['\n'] ∧
      '\n' ∉ line := fun issue _ => not_mem_warning issue
  generalize settled command text = result at hdone hsettled
  cases hsettled with
  | done hstatus =>
    rw [hdone]
    refine ⟨hstatus.symm, ?_, hlines, "", ?_, fun _ => rfl, fun h => absurd rfl h⟩
    · simp [Outlets.finish]
    · simp [Outlets.finish]
  | failed hstatus =>
    rename_i failure
    have hpos : failure.status ≠ 0 := by cases failure <;> exact Nat.succ_ne_zero _
    rw [hdone]
    refine ⟨hstatus, ?_, hlines, failure.message ++ "\n", ?_, ?_, ?_⟩
    · simp [Outlets.finish, hpos]
    · simp [Outlets.finish]
    · exact fun h => absurd h hpos
    · exact fun _ => ⟨failure, rfl, rfl⟩

end

/-- A request to unmount is answered with data: an unknown field, and a label that ends inside a
    character. -/
theorem status_classifies_unexpected :
    let front := Text.encode "Dat".toList
    let rest := Text.encode "a\nColour|blue\nLabel|3|".toList ++ [0xC3]
    let service := fun _ : List UInt8 => Line.mk [] (.ok ()) (.ok ())
      [(5, .chunk front), (6, .failed (.system 4)), (999, .chunk rest)]
    let around : Surroundings :=
      { env := ⟨[("XDG_RUNTIME_DIR", "/r")], 0⟩, cwd := []
        files := ⟨[([['r']], .directory 0o755), ([['r'], "btrmount".toList], .directory 0o755),
          ([['r'], "btrmount".toList, "btrmountd.sock".toList], .socket (some 1))]⟩ }
    let done := run around {} service [.ofText "btrmount", .ofText "unmount", .ofText "/mnt"]
    done.status = 5 ∧ done.shown.out = "" ∧ ∃ failure : Failure, failure.status = 5 ∧
      done.shown.err = "warning: skipped unintelligible reply line 1: unknown field " ++
        "(\"Colour|blue\")\n" ++ (failure.message ++ "\n") := by
  intro front rest service around done
  have hsplit : Arguments.split [.ofText "btrmount", .ofText "unmount", .ofText "/mnt"] =
      ⟨[.ofText "btrmount"], [.ofText "btrmount", .ofText "unmount", .ofText "/mnt"]⟩ := by
    decide +kernel
  have harrives : Arrives 1000 [(5, .chunk front), (6, .failed (.system 4)), (999, .chunk rest)]
      (front ++ (rest ++ [])) :=
    .chunk (by decide) (by decide +kernel)
      (.interrupted (by decide) (by decide) (.chunk (by decide) (by decide +kernel) .ended))
  have hreceiving : Receiving around service
      [.ofText "btrmount", .ofText "unmount", .ofText "/mnt"] (.unmount "/mnt")
      (.unmount none (some "/mnt")) { socket := .unix "/r/btrmount/btrmountd.sock" }
      (front ++ (rest ++ [])) :=
    { asked := by rw [hsplit]; decide +kernel
      loaded := hsplit ▸ load_oneMachine
      requested := rfl
      reached := connect_oneMachine 1000
      sent := rfl
      closed := rfl
      arrives := harrives }
  obtain ⟨hstatus, hout, -, message, herr, -, hmessage⟩ :=
    status_classifies hreceiving (by decide +kernel)
  have hcut : Text.CutChar 'é' [0xC3] := ⟨by decide, by decide, by decide⟩
  have hbytes : front ++ (rest ++ []) =
      Text.encode "Data\nColour|blue\nLabel|3|".toList ++ [0xC3] := by
    decide +kernel
  rw [hbytes, hcut.decodeLossy_append] at hstatus hout herr
  have hissues : issuesIn ("Data\nColour|blue\nLabel|3|".toList ++ [Text.replacement]) =
      [⟨1, .unknownField, "Colour|blue"⟩] := by decide +kernel
  have hwarning : String.join ([⟨1, .unknownField, "Colour|blue"⟩].map warning) =
      "warning: skipped unintelligible reply line 1: unknown field " ++
        "(\"Colour|blue\")\n" := by
    decide +kernel
  have hfive : done.status = 5 := hstatus.trans (by decide)
  obtain ⟨failure, hfailure, rfl⟩ := hmessage (by rw [hfive]; decide)
  refine ⟨hfive, hout.trans (if_neg (by simp)), failure, hfailure.trans hfive, ?_⟩
  rw [← hwarning, ← hissues]
  exact herr

end MountControl.Client
