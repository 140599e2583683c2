import RemovableMedia.Proofs.Server.Answer
import RemovableMedia.Proofs.Text.Segment
import RemovableMedia.Session.Basic

/-!
# What a client makes of an answer

A client sends a command and reads what the daemon says, notifications among the answer.  Whatever
the texts of the command are, it recognizes the answer, keeps the notifications for later and
leaves what comes after the answer unread (`request_understands_answer`).

The answer repeats the command as the daemon read it, with cleaned texts; it is recognized because
cleaning a text once more changes nothing.
-/

set_option autoImplicit false

namespace RemovableMedia

open RemovableMedia.Line (clean)

/-! ## Repetitions of a command -/

namespace Message

/-- The name of a command is left alone by cleaning. -/
theorem clean_name (command : Command) : clean command.name = command.name := by
  cases command <;> simp only [Command.name] <;> decide

/-- Cleaning a command before its line is made or after it comes to the same texts. -/
theorem map_clean_args (command : Command) :
    command.cleaned.args.map (Option.map clean) = command.line.args := by
  rw [command.args_cleaned, Line.map_clean_clean]
  rfl

/-- A client reads the repetition of its command as it sent the command. -/
theorem received_start (command : Command) :
    (start command.cleaned).received = .started command.name command.line.args := by
  simp only [start, received, Command.name_cleaned, clean_name, map_clean_args]

/-- The end of a listing is read with the texts of the command's line. -/
theorem received_finish (command : Command) :
    (finish command.cleaned).received = .finished command.name command.line.args := by
  simp only [finish, received, Command.name_cleaned, clean_name, map_clean_args]

/-- A success is read with the texts of the command's line. -/
theorem received_success (command : Command) :
    (success command.cleaned).received = .succeeded command.name command.line.args := by
  simp only [success, received, Command.name_cleaned, clean_name, map_clean_args]

/-- A failure is read with the texts of the command's line and its code. -/
theorem received_failure (command : Command) (code : ErrorCode) :
    (failure command.cleaned code).received = .failed command.name command.line.args code := by
  simp only [failure, received, Command.name_cleaned, clean_name, map_clean_args]

end Message

/-! ## Sense -/

/-- Among messages that are devices, all devices are found. -/
theorem devicesIn_map_device (devices : List Description) :
    devicesIn (devices.map .device) = .ok devices := by
  unfold devicesIn
  induction devices with
  | nil => rfl
  | cons device rest ih =>
    rw [List.map_cons, List.mapM_cons, ih]
    rfl

/-- Whether the body of a listing says what the command asks for. -/
def MakesSense (command : Command) (body : List Message) : Prop :=
  match command with
  | .listAllRemovableDevices | .listRemovableDevice _ => ∃ devices, devicesIn body = .ok devices
  | .listSupportedFilesystems => ∃ names, filesystemsIn body = .ok names
  | .listSupportedFilesystemOptions _ => ∃ options, optionsIn body = .ok options
  | .mount _ _ | .unmount _ | .poweroff _ => True

/-- Cleaning a command does not change what it asks for. -/
theorem makesSense_cleaned (command : Command) (body : List Message) :
    MakesSense command.cleaned body = MakesSense command body := by
  cases command <;> rfl

/-- What can stand in a listing makes sense to whoever asked for it. -/
theorem makesSense_of_listing {command : Command} {body : List Message}
    (h : Server.Listing command body) : MakesSense command (body.map Message.received) := by
  have hdevices : ∀ nodes : List Node, (Server.describe nodes).map Message.received =
      (nodes.map fun node => node.description.received).map .device := by
    simp [Server.describe, Message.received]
  cases h with
  | all nodes | one path nodes =>
    rw [hdevices]
    exact ⟨_, devicesIn_map_device _⟩
  | filesystems names => exact ⟨names.map clean, rfl⟩
  | options filesystem options => exact ⟨options.map clean, rfl⟩

/-- What a client makes of the answer to its command: nothing more of a success, the code of a
failure, and of a listing the messages that its lines are read as. -/
inductive Understands (command : Command) :
    List Message → Except SessionError (List Message) → Prop
  | succeeded : Understands command [.success command.cleaned] (.ok [])
  | failed (code : ErrorCode) :
      Understands command [.failure command.cleaned code] (.error (.failed command.name code))
  | listed {between body : List Message} (hread : List.Forall₂ Message.ReadAs between body)
      (hsense : MakesSense command body) :
      Understands command (.start command.cleaned :: (between ++ [.finish command.cleaned]))
        (.ok body)

/-! ## Reading messages -/

namespace Exchange

/-- The line of a command is its own repetition. -/
theorem matchesEcho_line (exchange : Exchange) :
    exchange.matchesEcho exchange.command.name exchange.command.line.args = true := by
  simp [matchesEcho, Command.line, Line.make]

/-- A success answers a command that asks for no listing. -/
theorem advance_succeeded {exchange : Exchange} (h : exchange.command.isListing = false) :
    exchange.advance (.succeeded exchange.command.name exchange.command.line.args) =
      .answered exchange.body := by
  simp [advance, h, matchesEcho_line]

/-- A failure ends the exchange with its code. -/
theorem advance_failed (exchange : Exchange) (code : ErrorCode) :
    exchange.advance (.failed exchange.command.name exchange.command.line.args code) =
      .failed (.failed exchange.command.name code) := by
  simp [advance, matchesEcho_line]

/-- A listing begins with the repetition of the command. -/
theorem advance_started {exchange : Exchange} (hlisting : exchange.command.isListing = true)
    (hstarted : exchange.isStarted = false) :
    exchange.advance (.started exchange.command.name exchange.command.line.args) =
      .next { exchange with isStarted := true } := by
  simp [advance, hlisting, hstarted, matchesEcho_line]

/-- A listing that has begun ends with the repetition of the command. -/
theorem advance_finished {exchange : Exchange} (h : exchange.isStarted = true) :
    exchange.advance (.finished exchange.command.name exchange.command.line.args) =
      .answered exchange.body := by
  simp [advance, h, matchesEcho_line]

/-- What is neither a notification nor a repetition of a command belongs to a listing that was
begun. -/
theorem advance_received {exchange : Exchange} {message : Message}
    (hstarted : exchange.isStarted = true) (hnotification : message.notification? = none)
    (hcommand : message.command? = none) :
    exchange.advance message.received =
      .next { exchange with body := exchange.body ++ [message.received] } := by
  cases message with
  | device | supportedFilesystems | supportedFilesystemOptions =>
    simp [Message.received, advance, other, hstarted]
  | started | finished | succeeded | failed => cases hcommand
  | notification => cases hnotification

end Exchange

namespace Session

/-- The session after it has read up to some bytes, with some notifications on the way. -/
def past (session : Session) (rest : List UInt8) (events : List Notification) : Session :=
  { session with incoming := rest, notifications := session.notifications ++ events }

/-- Reading up to one place and then to another is reading up to the later one. -/
theorem past_past (session : Session) (first second : List UInt8)
    (events more : List Notification) :
    (session.past first events).past second more = session.past second (events ++ more) := by
  simp [past]

/-- A message on the wire is decoded to what it is read as. -/
theorem decode_wire (message : Message) :
    decode (Text.Utf8.encode message.line.wire) = .ok message.received := by
  have hdrop : (Text.Utf8.encode message.line.wire).dropLast =
      Text.Utf8.encode message.line.render := by
    rw [Line.encode_wire, List.dropLast_concat]
  have hparse : Line.parse message.line.render = .ok message.line :=
    Line.parse_render_make message.isName_name message.args
  simp [decode, hdrop, hparse, message.ofLine_line]

/-- What waiting comes to when something arrives: it, or why it is not what was awaited. -/
def awaited {α : Type} : Except SessionError α → Awaited α
  | .ok value => .ready value
  | .error e => .failed e

/-- The first line that has arrived is read, up to its newline. -/
theorem read_of_line {session : Session} {line rest : List UInt8}
    (h : session.incoming = line ++ newline :: rest) (hline : newline ∉ line) :
    session.read =
      (awaited (decode (line ++ [newline])), { session with incoming := rest }) := by
  unfold read
  rw [h, Text.takeWhile_append_cons hline, Text.dropWhile_append_cons hline]
  dsimp only
  cases decode (line ++ [newline]) <;> rfl

/-- A message that has arrived is read, and what comes after it stays. -/
theorem read_wire {session : Session} {message : Message} {rest : List UInt8}
    (h : session.incoming = Text.Utf8.encode message.line.wire ++ rest) :
    session.read = (.ready message.received, session.past rest []) := by
  have hline : newline ∉ Text.Utf8.encode message.line.render := by
    intro hmem
    exact message.newline_not_mem_render (Text.Utf8.newline_mem_encode_iff.1 hmem)
  have hincoming :
      session.incoming = Text.Utf8.encode message.line.render ++ newline :: rest := by
    rw [h, Line.encode_wire, List.append_assoc]
    rfl
  have hdecode := decode_wire message
  rw [Line.encode_wire] at hdecode
  rw [read_of_line hincoming hline, newline, hdecode, past, List.append_nil]
  rfl

/-- How reading goes on after a message. -/
def proceed (exchange : Exchange) (session : Session) :
    Exchange.Progress → Awaited (List Message) × Session
  | .next exchange => collect exchange session
  | .notified event =>
    collect exchange { session with notifications := session.notifications ++ [event] }
  | .answered body => (.ready body, session)
  | .failed e => (.failed e, session)

/-- Collecting goes on with the message that is read. -/
theorem collect_of_read {exchange : Exchange} {session rest : Session} {message : Message}
    (h : session.read = (.ready message, rest)) :
    collect exchange session = proceed exchange rest (exchange.advance message) := by
  rw [collect]
  split <;> rename_i hread <;> rw [h] at hread <;> cases hread
  unfold proceed
  split <;> simp_all

/-- The notifications among messages, as they are read. -/
def heardIn (messages : List Message) : List Notification :=
  (messages.filterMap Message.notification?).map Notification.received

/-- A reply between messages adds no notification to those that are heard. -/
theorem heardIn_append_cons {before after : List Message} {message : Message}
    (h : message.isReply = true) :
    heardIn (before ++ message :: after) = heardIn before ++ heardIn after := by
  have hnone : message.notification? = none := Option.isNone_iff_eq_none.1 h
  simp [heardIn, hnone]

/-- What else there is among messages, as it is read. -/
def saidIn (messages : List Message) : List Message :=
  (messages.filter Message.isReply).map Message.received

/-- What comes before the next repetition of the command: notifications are kept, and what belongs
to a listing that was begun is collected. -/
theorem collect_append (messages : List Message) (exchange : Exchange)
    (hplain : ∀ message ∈ messages.filter Message.isReply,
      exchange.isStarted = true ∧ message.command? = none)
    {session : Session} {rest : List UInt8}
    (h : session.incoming = Message.bytes messages ++ rest) :
    collect exchange session =
      collect { exchange with body := exchange.body ++ saidIn messages }
        (session.past rest (heardIn messages)) := by
  induction messages generalizing exchange session with
  | nil =>
    obtain rfl : session.incoming = rest := h
    simp [past, saidIn, heardIn]
  | cons message messages ih =>
    have hincoming : session.incoming =
        Text.Utf8.encode message.line.wire ++ (Message.bytes messages ++ rest) := by
      simpa [Message.bytes] using h
    rw [collect_of_read (read_wire hincoming)]
    -- A notification goes to the session, anything else to the body of the exchange.
    cases hnotification : message.notification? with
    | some event =>
      rw [List.filter_cons_of_neg (by simp [Message.isReply, hnotification])] at hplain
      let next := session.past (Message.bytes messages ++ rest) [event.received]
      have hnext : collect exchange next = _ := ih exchange hplain rfl
      obtain rfl := Message.eq_of_notification?_eq_some hnotification
      rw [past_past] at hnext
      simpa [next, Message.received, Exchange.advance, proceed, past, saidIn, heardIn,
        Message.isReply, hnotification] using hnext
    | none =>
      rw [List.filter_cons_of_pos (by simp [Message.isReply, hnotification]),
        List.forall_mem_cons] at hplain
      obtain ⟨⟨hstarted, hcommand⟩, hrest⟩ := hplain
      let next := session.past (Message.bytes messages ++ rest) []
      have hnext : collect _ next = _ :=
        ih { exchange with body := exchange.body ++ [message.received] } hrest rfl
      rw [past_past] at hnext
      rw [Exchange.advance_received hstarted hnotification hcommand]
      simpa [proceed, saidIn, heardIn, Message.isReply, hnotification] using hnext

/-- The next repetition of the command is read after what comes before it. -/
theorem collect_append_cons {before after : List Message} {last : Message} (exchange : Exchange)
    (hplain : ∀ message ∈ before.filter Message.isReply,
      exchange.isStarted = true ∧ message.command? = none)
    {session : Session} (h : session.incoming = Message.bytes (before ++ last :: after)) :
    let reached : Exchange := { exchange with body := exchange.body ++ saidIn before }
    collect exchange session =
      proceed reached (session.past (Message.bytes after) (heardIn before))
        (reached.advance last.received) := by
  intro reached
  have hincoming : session.incoming = Message.bytes before ++
      (Text.Utf8.encode last.line.wire ++ Message.bytes after) := by
    simpa [Message.bytes] using h
  rw [collect_append before exchange hplain hincoming, collect_of_read (read_wire rfl), past_past,
    List.append_nil]

/-! ## Answers -/

/-- What is last among the chosen items has only items before and after it that are not chosen. -/
theorem exists_last_of_filter_eq {α : Type} {p : α → Bool} {items : List α} (init : List α)
    {last : α} (h : items.filter p = init ++ [last]) :
    ∃ before after, items = before ++ last :: after ∧ before.filter p = init ∧
      p last = true ∧ after.filter p = [] := by
  obtain ⟨first, rest, rfl, rfl, hrest⟩ := List.filter_eq_append_iff.1 h
  obtain ⟨skipped, after, rfl, hskipped, hlast, hafter⟩ := List.filter_eq_cons_iff.1 hrest
  refine ⟨first ++ skipped, after, by simp, ?_, hlast, hafter⟩
  rw [List.filter_append, List.filter_eq_nil_iff.2 hskipped, List.append_nil]

/-- What is said among messages is what their replies are read as. -/
theorem saidIn_of_filter_eq {messages replies : List Message}
    (h : messages.filter Message.isReply = replies) :
    saidIn messages = replies.map Message.received := by
  rw [saidIn, h]

/-- Only notifications come before the first repetition of the command. -/
theorem collect_first {command : Command} {before after : List Message} {first : Message}
    (hbefore : before.filter Message.isReply = []) {session : Session}
    (h : session.incoming = Message.bytes (before ++ first :: after)) :
    collect (.start command) session =
      proceed (.start command) (session.past (Message.bytes after) (heardIn before))
        ((Exchange.start command).advance first.received) := by
  have hcollect := collect_append_cons (.start command) (by simp [hbefore]) h
  rw [saidIn_of_filter_eq hbefore] at hcollect
  exact hcollect

/-- A listing is collected whole between its repetitions, and the notifications before its end are
kept. -/
theorem collect_listing {command : Command} (hlisting : command.isListing = true)
    {before between after body : List Message}
    (hbefore : before.filter Message.isReply = [])
    (hbetween : between.filter Message.isReply = body)
    (hbody : ∀ message ∈ body, message.command? = none) {session : Session}
    (h : session.incoming = Message.bytes
      (before ++ .start command.cleaned :: (between ++ .finish command.cleaned :: after))) :
    collect (.start command) session =
      (.ready (body.map Message.received),
        session.past (Message.bytes after) (heardIn before ++ heardIn between)) := by
  let begun : Exchange := ⟨command, true, []⟩
  let reached := session.past (Message.bytes (between ++ .finish command.cleaned :: after))
    (heardIn before)
  have hstart : collect (.start command) session = collect begun reached := by
    rw [collect_first hbefore h, Message.received_start]
    exact congrArg (proceed _ _) (Exchange.advance_started hlisting rfl)
  have hplain : ∀ message ∈ between.filter Message.isReply,
      begun.isStarted = true ∧ message.command? = none := by
    intro message hmem
    rw [hbetween] at hmem
    exact ⟨rfl, hbody message hmem⟩
  have hfinish : ({ begun with body := saidIn between } : Exchange).advance
      (.finished command.name command.line.args) = .answered (saidIn between) :=
    Exchange.advance_finished rfl
  have hcollect : collect begun reached = _ := collect_append_cons begun hplain rfl
  rw [Message.received_finish] at hcollect
  rw [hstart, hcollect, past_past, ← saidIn_of_filter_eq hbetween]
  exact congrArg (proceed _ _) hfinish

/-- Whatever the answer, the client understands it, up to the last reply, with the notifications
before. -/
theorem collect_answer {command : Command} {replies stream : List Message}
    (hanswer : Server.Answer command.cleaned replies)
    (hstream : stream.filter Message.isReply = replies) {session : Session}
    (hincoming : session.incoming = Message.bytes stream) :
    ∃ before last after result, stream = before ++ last :: after ∧ last.isReply = true ∧
      after.filter Message.isReply = [] ∧ Understands command replies result ∧
      collect (.start command) session =
        (awaited result, session.past (Message.bytes after) (heardIn before)) := by
  cases hanswer with
  | succeeded hlisting =>
    obtain ⟨before, after, rfl, hbefore, hlast, hafter⟩ := exists_last_of_filter_eq [] hstream
    refine ⟨before, _, after, _, rfl, hlast, hafter, .succeeded, ?_⟩
    rw [command.isListing_cleaned] at hlisting
    rw [collect_first hbefore hincoming, Message.received_success]
    exact congrArg (proceed _ _) (Exchange.advance_succeeded hlisting)
  | failed code =>
    obtain ⟨before, after, rfl, hbefore, hlast, hafter⟩ := exists_last_of_filter_eq [] hstream
    refine ⟨before, _, after, _, rfl, hlast, hafter, .failed code, ?_⟩
    rw [collect_first hbefore hincoming, Message.received_failure]
    exact congrArg (proceed _ _) ((Exchange.start command).advance_failed code)
  | @listed body hlisting =>
    obtain ⟨before, after, rfl, hbefore, hlast, hafter⟩ :=
      exists_last_of_filter_eq (.start command.cleaned :: body) hstream
    obtain ⟨skipped, between, rfl, hskipped, hstart, hbetween⟩ := List.filter_eq_cons_iff.1 hbefore
    refine ⟨_, _, after, _, rfl, hlast, hafter,
      .listed (Message.forall₂_readAs_received body) ?_, ?_⟩
    · rw [← makesSense_cleaned]
      exact makesSense_of_listing hlisting
    · rw [List.append_assoc, List.cons_append] at hincoming
      have hcollect := collect_listing (command.isListing_cleaned ▸ hlisting.isListing)
        (List.filter_eq_nil_iff.2 hskipped) hbetween (fun m hm => (hlisting.plain m hm).2) hincoming
      rw [hcollect, heardIn_append_cons hstart]
      rfl

/-- Notifications are heard as they are read. -/
theorem forall₂_readAs_heardIn (messages : List Message) :
    List.Forall₂ Message.ReadAs (messages.filter Message.isNotification)
      ((heardIn messages).map .notification) := by
  have hheard : (heardIn messages).map Message.notification =
      ((messages.filterMap Message.notification?).map Message.notification).map
        Message.received := by
    simp [heardIn, Message.received]
  rw [hheard, Message.filter_isNotification]
  exact Message.forall₂_readAs_received _

/-- A client whose command the daemon carries out reads the answer among notifications that come
before, during and after it, and understands it.  The notifications that came before the end of
the answer are kept in order, and what comes after is still to be read. -/
theorem request_understands_answer {σ : Type} (orchestrator : Mount.Orchestrator σ)
    (config : Config) (host : Mount.Host σ) (command : Command) {outcome : Server.Outcome}
    (hdispatch :
      (Server.dispatch orchestrator config command.line.render host).1 = .ok outcome)
    (stream : List Message) (hstream : stream.filter Message.isReply = outcome.replies)
    (session : Session) (hheard : session.isHeard = true)
    (hincoming : session.incoming = Message.bytes stream) :
    ∃ before last after heard,
      stream = before ++ last :: after ∧ last.isReply = true ∧
        (∀ message ∈ after, message.isNotification = true) ∧
      List.Forall₂ Message.ReadAs (before.filter Message.isNotification)
        (heard.map .notification) ∧
      Understands command outcome.replies (session.request command).1 ∧
      (session.request command).2 =
        { session with
          incoming := Message.bytes after
          sent := session.sent ++ command.line.wire
          notifications := session.notifications ++ heard } := by
  obtain ⟨recognized, hrecognize, hanswer⟩ := Server.dispatch_eq_ok hdispatch
  -- the daemon reads the command as it was cleaned, which is what it repeats
  obtain rfl : command.cleaned = recognized := by
    have hparse := Server.parse_of_recognize hrecognize
    rw [command.parse_render] at hparse
    exact Except.ok.inj hparse
  have hsend : session.send command.line.wire =
      { session with sent := session.sent ++ command.line.wire } := by
    simp [send, hheard]
  have hsent : (session.send command.line.wire).incoming = Message.bytes stream := by
    rw [hsend]
    exact hincoming
  obtain ⟨before, last, after, result, hsplit, hlast, hafter, hunderstands, hcollect⟩ :=
    collect_answer hanswer hstream hsent
  have hrequest : session.request command =
      (result, (session.send command.line.wire).past (Message.bytes after) (heardIn before)) := by
    unfold request
    rw [if_pos hheard, hcollect]
    cases result <;> rfl
  refine ⟨before, last, after, heardIn before, hsplit, hlast, ?_, forall₂_readAs_heardIn before,
    ?_, ?_⟩
  · intro message hmem
    have hreply := List.filter_eq_nil_iff.1 hafter message hmem
    exact Message.isReply_eq_false_iff.1 (by simpa using hreply)
  · rw [hrequest]
    exact hunderstands
  · rw [hrequest, hsend]
    rfl

/-- A device is listed whose path the client misspelled with a quote, and whose label has one; while
the daemon answers, another device goes away and the listed one is unmounted. -/
theorem request_understands_answer_of_quotes :
    let record : Device.Record :=
      ⟨"/dev/_sr0", .stateful .cdrom .ok (some "iso9660") (some "a \"b\""), none⟩
    let host : Mount.Host Mount.Rehearsal := ⟨⟨[⟨⟨record, none⟩, []⟩]⟩, .empty, .start true⟩
    let command := Command.listRemovableDevice "/dev/\"sr0"
    let answered := Command.listRemovableDevice "/dev/_sr0"
    let description := Message.device (.ofRecord record none)
    let replies := [.start answered, description, .finish answered]
    let stream := [.notification (.removed "/dev/sdb"), .start answered, description,
      .notification (.unmounted "/dev/_sr0" "/mnt"), .finish answered,
      .notification (.removed "/dev/_sr0")]
    let session := { Session.start 0 with incoming := Message.bytes stream }
    (Server.dispatch Mount.Rehearsal.orchestrator .standard command.line.render host).1 =
        .ok ⟨replies, []⟩ ∧
      stream.filter Message.isReply = replies ∧ session.isHeard = true ∧
      Understands command replies (session.request command).1 ∧
      (session.request command).2.sent = "list_removable_device(\"/dev/_sr0\")\n" := by
  intro record host command answered description replies stream session
  have hcleaned : command.cleaned = answered := by
    have hpath : clean "/dev/\"sr0" = "/dev/_sr0" := by decide +kernel
    simp [command, answered, Command.cleaned, hpath]
  have hrecognize : Server.recognize .standard command.line.render = .ok answered := by
    rw [Server.recognize, command.parse_render, hcleaned]
    rfl
  have hdispatch : (Server.dispatch Mount.Rehearsal.orchestrator .standard command.line.render
      host).1 = .ok ⟨replies, []⟩ := by
    rw [Server.dispatch, hrecognize]
    rfl
  obtain ⟨before, last, after, heard, -, -, -, -, hunderstands, hsession⟩ :=
    request_understands_answer Mount.Rehearsal.orchestrator .standard host command hdispatch stream
      rfl session rfl rfl
  have hsent : "" ++ command.line.wire = "list_removable_device(\"/dev/_sr0\")\n" := by
    decide +kernel
  refine ⟨hdispatch, rfl, rfl, hunderstands, ?_⟩
  rw [hsession]
  exact hsent

end Session

end RemovableMedia
