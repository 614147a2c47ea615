/-
  MountControl — the client in conversation with the service.

  A command is sent as a request, the service answers it, and the client
  shows the answer and gives its exit status.  On a line that works nothing
  is lost in between.

  * `Answered` lists what a command may be answered, and `dispatch_answered`
    says that there is nothing else;
  * `exchange_answers`: what the service writes is the reply to the request;
  * `run_answered`: what the client shows of it;
  * `client_agrees`: so in every state of the service the exit status tells
    whether the request was met, and a listing has one line for each volume,
    in the order in which they were registered.
-/
import MountControl.Proofs.Client.Surroundings
import MountControl.Proofs.Client.Table
import MountControl.Proofs.Service.Agreement
import MountControl.Proofs.Service.Exchange
import MountControl.Proofs.Service.Registration
import MountControl.Proofs.Wire.ReplyDelivery

namespace MountControl.Client

open Config (Argument Settings)
open Host (IoError)
open Service (Connection Dispatcher Entry Plan Registered Registry Released Running Shared Stage
  duties)
open Volume (RawOptions Record)
open Wire (Arrives Delivers Reply Request dropLineEnd maxMessageBytes writeMessage)

variable {σ : Type}

/-! ## Answers -/

/-- What a command may be answered, where the volumes are these. -/
inductive Answered (records : List Record) : Command → Reply → Prop
  | refused {command description} : command ≠ .list →
      Answered records command (.error description)
  | mounted {options} : Answered records (.mount options) .ok
  | unmounted {mountPoint} : Answered records (.unmount mountPoint) .ok
  | listed : Answered records .list (.listing records)

/-- **Every answer to a command is of the kind that its client expects.** -/
theorem dispatch_answered {dispatcher : Dispatcher σ} {stage : Stage σ} {command : Command}
    {request : Request} {reply : Reply} (hrequest : command.request = .ok request)
    (hanswer : (stage.dispatch dispatcher request).1 = .ok reply) :
    Answered (stage.dispatch dispatcher request).2.registry.records command reply := by
  obtain ⟨event, note, result, after, hr, hd⟩ := Service.dispatch_eq dispatcher stage request
  rw [hd] at hanswer ⊢
  cases command with
  | mount options =>
    obtain ⟨_, -, -, rfl⟩ := Command.mount_request hrequest
    cases hr with
    | refused | failed =>
      cases hanswer
      exact .refused nofun
    | stuck | panicked => cases hanswer
    | started =>
      cases hanswer
      exact .mounted
  | list =>
    cases hrequest
    cases hr with
    | refused h => cases h
    | listed =>
      cases hanswer
      exact .listed
  | unmount mountPoint =>
    cases hrequest
    cases hr with
    | refused =>
      cases hanswer
      exact .refused nofun
    | stopped | abandoned =>
      cases hanswer
      exact .unmounted

/-- What the client sends has a kind that the service knows. -/
theorem Command.request_known {command : Command} {request : Request}
    (h : command.request = .ok request) : request.Known := by
  cases command with
  | mount options =>
    obtain ⟨_, -, -, rfl⟩ := Command.mount_request h
    exact nofun
  | list | unmount =>
    cases h
    exact nofun

/-! ## The line -/

/-- The line works, from the client's writes to its reads: what the client writes is delivered to
    the service, and what the service writes arrives at the client in time. -/
structure Connected (dispatcher : Dispatcher σ) (shared : Shared σ) (connection : Connection)
    (window : Nat) (request : List UInt8) (line : Line) : Prop where
  sends : ∀ write ∈ line.writes, ¬ write.Fails
  flushes : line.flush = .ok ()
  closes : line.closing = .ok ()
  delivers : Delivers connection.reads (writeMessage request line.writes line.flush).bytes
  answers : ∀ write ∈ connection.writes, ¬ write.Fails
  arrives : Arrives window line.reads (shared.exchange dispatcher connection).2.1

section
variable {dispatcher : Dispatcher σ} {shared : Shared σ} {connection : Connection}
  {window : Nat} {line : Line} {request : Request} {reply : Reply}

/-- **The service writes the reply to the request**, and is left as the request leaves it. -/
theorem exchange_answers (hopen : shared.poisoned = false) (hknown : request.Known)
    (hsize : (Text.encode request.encode).length ≤ maxMessageBytes)
    (hanswer : (shared.stage.dispatch dispatcher request).1 = .ok reply)
    (hline : Connected dispatcher shared connection window (Text.encode request.encode) line) :
    (shared.exchange dispatcher connection).2.1 = Text.encode reply.encode ∧
      (shared.exchange dispatcher connection).2.2.stage.registry =
        (shared.stage.dispatch dispatcher request).2.registry := by
  have hdelivers := hline.delivers
  rw [(Wire.writeMessage_of_takes hline.sends ..).1] at hdelivers
  have hread := Wire.readMessage_delivers hdelivers hsize
  have hreceived := Request.received_delivered hknown hsize
  have houtcome := Service.exchange_exchanged dispatcher shared connection
  generalize shared.exchange dispatcher connection = outcome at houtcome
  cases houtcome with
  | unread hnone => exact absurd hread (hnone _)
  | refused hpoisoned =>
    rw [hopen] at hpoisoned
    cases hpoisoned
  | halted _ hother hhalted =>
    rw [hread] at hother
    cases hother
    rw [hreceived] at hhalted
    cases hhalted.symm.trans hanswer
  | answered _ hother hreply =>
    rw [hread] at hother
    cases hother
    rw [hreceived] at hreply ⊢
    cases hreply.symm.trans hanswer
    exact ⟨(Wire.writeMessage_of_takes hline.answers ..).1, rfl⟩

/-- The client reads the text of the reply. -/
theorem Line.exchange_answered (hopen : shared.poisoned = false) (hknown : request.Known)
    (hsize : (Text.encode request.encode).length ≤ maxMessageBytes)
    (hanswer : (shared.stage.dispatch dispatcher request).1 = .ok reply)
    (hreply : (Text.encode reply.encode).length ≤ maxMessageBytes)
    (hline : Connected dispatcher shared connection window (Text.encode request.encode) line) :
    line.exchange (Text.encode request.encode) window =
      .ok (Text.decodeLossy (Text.encode reply.encode)) := by
  have harrives := hline.arrives
  rw [(exchange_answers hopen hknown hsize hanswer hline).1] at harrives
  rw [Line.exchange, (Wire.writeMessage_of_takes hline.sends ..).2, hline.flushes, hline.closes]
  simp only [Wire.readReply_arrives harrives hreply]

end

/-! ## The client -/

/-- What is shown of a reply: the text of an error, the table of a listing, and else nothing. -/
def shownOf : Reply → Shown
  | .error description =>
    { err := "btrmountd reported an error: " ++ String.ofList (dropLineEnd description.toList) ++
        "\n" }
  | .listing records => { out := String.ofList (Table.render records) }
  | _ => {}

/-- The exit status for a reply. -/
def statusOf : Reply → Nat
  | .error _ => 7
  | _ => 0

theorem statusOf_agrees (reply : Reply) :
    (statusOf reply = 0 ↔ ∀ description, reply ≠ .error description) ∧
      (statusOf reply = 7 ↔ ∃ description, reply = .error description) ∧
      statusOf reply ∉ [3, 5, 6] := by
  cases reply <;> simp [statusOf]

/-- The listing of a registry is a table of its entries, unless there are none. -/
theorem shownOf_listing (registry : Registry) :
    let out := (shownOf (.listing registry.records)).out
    (out = "No volumes are mounted.\n" ↔ registry.entries = []) ∧
      (registry.entries ≠ [] → ∃ header rows,
        Table.Tabulated registry.records header rows out.toList ∧
        List.Forall₂ (fun entry line => entry.id.chars <+: line) registry.entries rows) := by
  intro out
  have hout : out.toList = Table.render registry.records := String.toList_ofList
  have hrecords : registry.records = [] ↔ registry.entries = [] := List.map_eq_nil_iff
  constructor
  · rw [← hrecords, ← Table.render_eq_empty, ← hout]
    exact String.toList_inj.symm
  · intro hsome
    obtain ⟨header, rows, htable⟩ := Table.render_tabulated (mt hrecords.1 hsome)
    refine ⟨header, rows, hout ▸ htable, ?_⟩
    have hshown := htable.shown
    rw [Registry.records, List.forall₂_map_left_iff] at hshown
    exact hshown.imp fun _ _ h => h.begins_id rfl

/-- The client runs a command on a line that works. -/
structure Conversing (dispatcher : Dispatcher σ) (shared : Shared σ) (connection : Connection)
    (around : Surroundings) (service : List UInt8 → Line) (arguments : List Argument)
    (command : Command) (request : Request) (settings : Settings) : Prop where
  asked : Asked.parse ((Arguments.split arguments).command.drop 1) = .ok (.run command)
  loaded : Config.load (Arguments.split arguments).settings around.env around.files around.cwd =
    .ok settings
  requested : command.request = .ok request
  reached : around.connect settings.socket settings.connectTimeout.toNat = .ok ()
  connected : Connected dispatcher shared connection settings.replyTimeout.toNat
    (Text.encode request.encode) (service (Text.encode request.encode))

section
variable {dispatcher : Dispatcher σ} {shared : Shared σ} {connection : Connection}
  {around : Surroundings} {service : List UInt8 → Line} {arguments : List Argument}
  {command : Command} {request : Request} {settings : Settings} {reply : Reply}

/-- **The client shows what was answered**, and nothing else. -/
theorem run_answered (hopen : shared.poisoned = false)
    (h : Conversing dispatcher shared connection around service arguments command request settings)
    (hsize : (Text.encode request.encode).length ≤ maxMessageBytes)
    (hanswer : (shared.stage.dispatch dispatcher request).1 = .ok reply)
    (hreply : (Text.encode reply.encode).length ≤ maxMessageBytes) :
    run around {} service arguments =
      ⟨statusOf reply, shownOf reply, some (Text.encode request.encode)⟩ := by
  have hknown := Command.request_known h.requested
  have hanswered := dispatch_answered h.requested hanswer
  have htext := Line.exchange_answered hopen hknown hsize hanswer hreply h.connected
  have hdecode : Reply.decode (Text.decodeLossy (Text.encode reply.encode)) =
      .ok ⟨reply.received, []⟩ := by
    refine Reply.decode_delivered ?_ hreply
    rintro rfl
    cases hanswered
  simp only [run, h.asked, h.loaded, execute, h.requested, h.reached, htext, hdecode,
    Outlets.warn]
  cases hanswered <;> rfl

end

/-! ## Both together -/

/-- **Client and service agree.**  Let the service take connections, after any run, and let the
    client run any command whose request fits the limit, on a line that works.  If the reply fits
    the limit too, then the exit status is 0 or 7, and it is 7 exactly if the answer is an error;
    nothing is shown on the standard error but that error; and a listing has one line for each
    volume whose worker was launched and is not released, in the order of the launches, or is the
    text for no volumes exactly if there is none. -/
theorem client_agrees {plan : Plan σ} {place : σ} {running : Running σ}
    (hreaches : (Running.start plan place).Reaches plan running)
    (hserving : running.loop.ended = none) {connection : Connection} {around : Surroundings}
    {service : List UInt8 → Line} {arguments : List Argument} {command : Command}
    {request : Request} {settings : Settings} {reply : Reply}
    (h : Conversing plan.dispatcher running.loop.state connection around service arguments command
      request settings)
    (hsize : (Text.encode request.encode).length ≤ maxMessageBytes)
    (hanswer : (running.stage.dispatch plan.dispatcher request).1 = .ok reply)
    (hreply : (Text.encode reply.encode).length ≤ maxMessageBytes) :
    let done := run around {} service arguments
    let after := (running.loop.state.exchange plan.dispatcher connection).2.2.stage
    let live := (duties after.trace).filter fun duty => ¬ Released after.trace duty.worker
    (done.status = 0 ↔ ∀ description, reply ≠ .error description) ∧
    (done.status = 7 ↔ ∃ description, reply = .error description) ∧
    done.status ∉ [3, 5, 6] ∧
    (∀ description, reply = .error description → done.shown.err =
      "btrmountd reported an error: " ++ String.ofList (dropLineEnd description.toList) ++ "\n") ∧
    ((∀ description, reply ≠ .error description) → done.shown.err = "") ∧
    (command ≠ .list → done.shown.out = "") ∧
    (command = .list → after.registry.entries.map Entry.duty = live ∧
      (done.shown.out = "No volumes are mounted.\n" ↔ live = []) ∧
      (live ≠ [] → ∃ header rows,
        Table.Tabulated after.registry.records header rows done.shown.out.toList ∧
        List.Forall₂ (fun duty line => duty.id.chars <+: line) live rows)) := by
  intro done after live
  have hopen := Service.unlocked_reaches hreaches hserving
  have hdone : done = ⟨statusOf reply, shownOf reply, some (Text.encode request.encode)⟩ :=
    run_answered hopen h hsize hanswer hreply
  have hregistry : after.registry = (running.stage.dispatch plan.dispatcher request).2.registry :=
    (exchange_answers hopen (Command.request_known h.requested) hsize hanswer h.connected).2
  have hregistered : Registered after :=
    (Service.registered_serving hreaches hserving).exchange connection
  have hlive : after.registry.entries.map Entry.duty = live := hregistered.live
  have hanswered := dispatch_answered h.requested hanswer
  rw [← hregistry] at hanswered
  rw [hdone]
  obtain ⟨hmet, herror, hstatus⟩ := statusOf_agrees reply
  refine ⟨hmet, herror, hstatus, ?_⟩
  cases hanswered with
  | refused hne =>
    exact ⟨fun description heq => by cases heq; rfl, fun hnone => absurd rfl (hnone _),
      fun _ => rfl, fun hlist => absurd hlist hne⟩
  | mounted | unmounted => exact ⟨nofun, fun _ => rfl, fun _ => rfl, nofun⟩
  | listed =>
    obtain ⟨hempty, htable⟩ := shownOf_listing after.registry
    have hnone : live = [] ↔ after.registry.entries = [] := by rw [← hlive, List.map_eq_nil_iff]
    refine ⟨nofun, fun _ => rfl, fun hne => absurd rfl hne, fun _ => ⟨hlive,
      hempty.trans hnone.symm, fun hsome => ?_⟩⟩
    obtain ⟨header, rows, htabulated, hrows⟩ := htable (mt hnone.2 hsome)
    refine ⟨header, rows, htabulated, ?_⟩
    rw [← hlive, List.forall₂_map_left_iff]
    exact hrows

/-- One volume is mounted, and then listed, over a line that cuts the reply in two. -/
theorem client_agrees_list :
    let workers : Service.Workers Unit :=
      { launch := fun number _ _ _ => (.started (1000 + number), ())
        poll := fun _ _ => (.ok none, ())
        stop := fun _ _ _ => (.ok (.code 0), ()) }
    let plan : Plan Unit := ⟨.unix "/r/btrmount/btrmountd.sock", ⟨workers, .scripted [16], 2, 10⟩⟩
    let mount : Service.Move := .listener (.connection { reads := [.chunk
      (Text.encode "Mount\nMountPoint|4|/mnt\nDevice|5|/dev1\n".toList)] })
    let running := (Running.start plan ()).run plan [.main, mount]
    let connection : Connection :=
      { reads := [.chunk (Text.encode "List\n".toList)], writes := [.takes 7] }
    let written := (running.loop.state.exchange plan.dispatcher connection).2.1
    let service := fun _ : List UInt8 =>
      Line.mk [.failed (.system 4)] (.ok ()) (.ok ())
        [(5, .chunk (written.take 7)), (999, .chunk (written.drop 7))]
    let around : Surroundings :=
      { env := ⟨[("XDG_RUNTIME_DIR", "/r")], 0⟩, cwd := []
        files := ⟨[([['r']], .directory 0o755), ([['r'], "btrmount".toList], .directory 0o755),
          ([['r'], "btrmount".toList, "btrmountd.sock".toList], .socket (some 1))]⟩ }
    let done := run around {} service [.ofText "btrmount", .ofText "list"]
    done.status = 0 ∧ done.shown.err = "" ∧
      ∃ header row, done.shown.out.toList = [header, row].flatMap (· ++ ['\n']) ∧
        "0000000000000010".toList <+: row := by
  intro workers plan mount running connection written service around done
  let record : Record :=
    { id := some ⟨16⟩, state := some .starting
      options := { mountPoint := some "/mnt", devices := ["/dev1"] } }
  have hwritten : written = Text.encode (Reply.listing [record]).encode := by decide +kernel
  have hsent : (writeMessage (Text.encode Request.list.encode) [.failed (.system 4)]
      (.ok ())).bytes = Text.encode "List\n".toList ++ [] := by decide +kernel
  have hlong : written.take 7 ≠ [] ∧ written.drop 7 ≠ [] := by
    rw [hwritten]
    decide +kernel
  have hparts : written.take 7 ++ (written.drop 7 ++ []) = written := by
    rw [List.append_nil, List.take_append_drop]
  have harrives : Arrives 1000 (service (Text.encode Request.list.encode)).reads written := by
    have hlast : Arrives 1000 [(999, .chunk (written.drop 7))] (written.drop 7 ++ []) :=
      .chunk (by decide) hlong.2 .ended
    rw [← hparts]
    exact Arrives.chunk (by decide : ¬(1000 ≠ 0 ∧ 1000 ≤ 5)) hlong.1 hlast
  have hconnected : Connected plan.dispatcher running.loop.state connection 1000
      (Text.encode Request.list.encode) (service (Text.encode Request.list.encode)) :=
    { sends := by decide
      flushes := rfl
      closes := rfl
      delivers := hsent ▸ .chunk (by decide) (by decide) .ended
      answers := by decide
      arrives := harrives }
  have hsplit : Arguments.split [.ofText "btrmount", .ofText "list"] =
      ⟨[.ofText "btrmount"], [.ofText "btrmount", .ofText "list"]⟩ := by decide +kernel
  have hconversing : Conversing plan.dispatcher running.loop.state connection around service
      [.ofText "btrmount", .ofText "list"] .list .list
      { socket := .unix "/r/btrmount/btrmountd.sock" } :=
    { asked := by rw [hsplit]; decide +kernel
      loaded := hsplit ▸ load_oneMachine
      requested := rfl
      reached := connect_oneMachine 1000
      connected := hconnected }
  have hserving : running.loop.ended = none := by decide +kernel
  have hanswer : (running.stage.dispatch plan.dispatcher .list).1 = .ok (.listing [record]) := by
    decide +kernel
  obtain ⟨hmet, -, -, -, hquiet, -, hlist⟩ :=
    client_agrees (Service.run_reaches plan [.main, mount] (.start plan ())) hserving hconversing
      (by decide +kernel) hanswer (by decide +kernel)
  obtain ⟨-, -, htable⟩ := hlist rfl
  let after := (running.loop.state.exchange plan.dispatcher connection).2.2.stage
  have hlive : (duties after.trace).filter (fun duty => ¬ Released after.trace duty.worker) =
      [⟨⟨0, 1000⟩, ⟨16⟩, ⟨"/mnt", ["/dev1"], .default, none, false⟩⟩] := by decide +kernel
  obtain ⟨header, rows, htabulated, hrows⟩ := htable (hlive ▸ List.cons_ne_nil _ _)
  rw [hlive] at hrows
  obtain ⟨row, rest, hrow, hrest, rfl⟩ := List.forall₂_cons_left_iff.1 hrows
  cases hrest
  have hshown (text : String) : Reply.listing [record] ≠ .error text := by simp
  exact ⟨hmet.2 hshown, hquiet hshown, header, row, htabulated.lines, hrow⟩

end MountControl.Client
