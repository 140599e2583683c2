import RemovableMedia.Proofs.Session.Exchange

/-!
# What becomes of notifications

A client comes upon notifications in two ways: among the answer to a command, where it puts them
aside, and while it waits for nothing else.  Whatever the daemon sends and whatever is asked of the
client, no notification is lost, repeated or told out of order as long as no call runs out of time
(`notifications_in_order`).

A call is described by the bytes that it reads.  It leaves off between two lines, or at the end of
everything (`Reads`), so that the notifications in what one call reads and in what the next one
reads are those in both together (`Reads.trans`).
-/

set_option autoImplicit false

namespace RemovableMedia.Session

/-! ## Notifications in bytes -/

/-- What a line tells of that happened to a device, if it is a notification. -/
def notificationIn? (line : List UInt8) : Option Notification := do
  let text ← Text.Utf8.decode? line
  let line ← (Line.parse text).toOption
  let message ← (Message.ofLine line).toOption
  message.notification?

/-- The notifications among the lines of a stream; an unfinished line is none. -/
def notificationsIn (stream : List UInt8) : List Notification :=
  (Text.closedSegments newline stream).filterMap notificationIn?

/-- A line is read as a notification exactly if it is one; whatever it is else makes no
difference. -/
theorem decode_notification? (line : List UInt8) :
    (decode (line ++ [newline])).toOption.bind Message.notification? = notificationIn? line := by
  unfold decode notificationIn?
  rw [List.dropLast_concat]
  cases htext : Text.Utf8.decode? line with
  | none => cases Text.Utf8.fault? (line ++ [newline]) <;> rfl
  | some text =>
    have hfault : Text.Utf8.fault? (line ++ [newline]) = none := by
      have hbytes : line ++ [newline] = Text.Utf8.encode (text ++ "\n") := by
        rw [Text.Utf8.encode_append, Text.Utf8.encode_of_decode? htext, Text.Utf8.encode_newline]
        rfl
      rw [hbytes, Text.Utf8.fault?_encode]
    rw [hfault]
    cases hparse : Line.parse text with
    | error cause => simp [hparse, Except.toOption]
    | ok parsed =>
      cases hmessage : Message.ofLine parsed with
      | error cause => simp [hparse, hmessage, Except.toOption]
      | ok message => simp [hparse, hmessage, Except.toOption]

/-- Notifications in whole lines come before those in later bytes. -/
theorem notificationsIn_append {first : List UInt8}
    (h : Text.openSegment newline first = []) (later : List UInt8) :
    notificationsIn (first ++ later) = notificationsIn first ++ notificationsIn later := by
  rw [notificationsIn, Text.closedSegments_append h, List.filterMap_append]
  rfl

/-! ## Reading -/

/-- A session reads bytes on its way to another.  It leaves off between two lines or at the end of
everything. -/
structure Reads (session : Session) (bytes : List UInt8) (next : Session) : Prop where
  incoming : session.incoming = bytes ++ next.incoming
  isEnded : next.isEnded = session.isEnded
  between : Text.openSegment newline bytes = [] ∨ next.isEnded = true ∧ next.incoming = []

namespace Reads

variable {session middle next : Session} {bytes more : List UInt8}

/-- A session that has the same bytes before it as another one has read none on its way. -/
theorem nothing (hincoming : next.incoming = session.incoming)
    (hended : next.isEnded = session.isEnded) : session.Reads [] next :=
  ⟨hincoming.symm, hended, .inl rfl⟩

/-- Bytes that are read one after another are read in a row, with the notifications of both. -/
theorem trans (hfirst : session.Reads bytes middle) (hlater : middle.Reads more next) :
    session.Reads (bytes ++ more) next ∧
      notificationsIn (bytes ++ more) = notificationsIn bytes ++ notificationsIn more := by
  have hended : next.isEnded = session.isEnded := hlater.isEnded.trans hfirst.isEnded
  have hincoming : session.incoming = bytes ++ more ++ next.incoming := by
    rw [hfirst.incoming, hlater.incoming, List.append_assoc]
  rcases hfirst.between with hclosed | ⟨hmiddle, hnothing⟩
  · refine ⟨⟨hincoming, hended, ?_⟩, notificationsIn_append hclosed more⟩
    rw [Text.openSegment_append hclosed]
    exact hlater.between
  · -- After the end of everything there is nothing more to read.
    obtain ⟨rfl, hnext⟩ := List.append_eq_nil_iff.1 (hlater.incoming.symm.trans hnothing)
    refine ⟨⟨hincoming, hended, .inr ⟨hlater.isEnded.trans hmiddle, hnext⟩⟩, ?_⟩
    rw [List.append_nil]
    exact (List.append_nil _).symm

/-- Between two lines, more bytes may come; after the end none do. -/
theorem receive (h : session.Reads bytes next) (arrived : List UInt8) :
    (session.receive arrived).Reads bytes (next.receive arrived) := by
  by_cases hended : session.isEnded = true
  · have hnext : next.isEnded = true := h.isEnded.trans hended
    rw [Session.receive, Session.receive, if_pos hended, if_pos hnext]
    exact h
  · have hnext : ¬ next.isEnded = true := fun hnext => hended (h.isEnded.symm.trans hnext)
    have hclosed : Text.openSegment newline bytes = [] :=
      h.between.resolve_right fun hend => hnext hend.1
    have hincoming : session.incoming ++ arrived = bytes ++ (next.incoming ++ arrived) := by
      rw [h.incoming, List.append_assoc]
    rw [Session.receive, Session.receive, if_neg hended, if_neg hnext]
    exact ⟨hincoming, h.isEnded, .inl hclosed⟩

/-- What is read does not depend on whether the daemon ends its side. -/
theorem finish (h : session.Reads bytes next) : session.finish.Reads bytes next.finish :=
  ⟨h.incoming, rfl, h.between.imp_right fun hend => ⟨rfl, hend.2⟩⟩

/-- What is read does not depend on whether the daemon goes away. -/
theorem abandon (h : session.Reads bytes next) : session.abandon.Reads bytes next.abandon :=
  ⟨h.incoming, rfl, h.between.imp_right fun hend => ⟨rfl, hend.2⟩⟩

end Reads

/-- Without a whole line, nothing is read, and what has come in is given up. -/
theorem read_of_no_line {session : Session} (h : newline ∉ session.incoming) :
    session.read =
      (if session.isEnded then .failed (endError session.incoming) else .silence,
        { session with incoming := [] }) := by
  unfold read
  rw [Text.dropWhile_of_not_mem h, Text.takeWhile_of_not_mem h]
  cases hended : session.isEnded <;> simp

/-- Reading puts no notification aside. -/
theorem read_notifications (session : Session) :
    session.read.2.notifications = session.notifications := by
  unfold read
  dsimp only
  split <;> split <;> rfl

/-- The notification that was awaited. -/
def heard : Awaited Message → List Notification
  | .ready message => message.notification?.toList
  | _ => []

/-- Unless nothing arrives, a line is read, or what stands after the last one at the end. -/
theorem read_reads (session : Session) (harrived : session.read.1 ≠ .silence) :
    ∃ bytes, session.Reads bytes session.read.2 ∧
      notificationsIn bytes = heard session.read.1 := by
  by_cases hmem : newline ∈ session.incoming
  · obtain ⟨line, rest, hincoming, hline⟩ := List.eq_append_cons_of_mem hmem
    have hread := read_of_line hincoming hline
    have hclosed : Text.openSegment newline (line ++ [newline]) = [] := by
      rw [Text.openSegment_append_cons hline]
      rfl
    have hnotifications : notificationsIn (line ++ [newline]) =
        (notificationIn? line).toList := by
      rw [notificationsIn, Text.closedSegments_append_cons hline,
        Text.closedSegments_of_not_mem List.not_mem_nil]
      cases hheard : notificationIn? line <;> simp [hheard]
    rw [hread]
    refine ⟨line ++ [newline], ⟨by simp [hincoming], rfl, .inl hclosed⟩, ?_⟩
    rw [hnotifications, ← decode_notification?]
    cases decode (line ++ [newline]) <;> rfl
  · have hread := read_of_no_line hmem
    rw [hread] at harrived ⊢
    by_cases hended : session.isEnded = true
    · rw [if_pos hended]
      refine ⟨session.incoming, ⟨(List.append_nil _).symm, rfl, .inr ⟨hended, rfl⟩⟩, ?_⟩
      rw [notificationsIn, Text.closedSegments_of_not_mem hmem]
      rfl
    · exact absurd (if_neg hended) harrived

/-! ## Keeping notifications -/

/-- Bytes that arrive put no notification aside. -/
theorem notifications_receive (session : Session) (arrived : List UInt8) :
    (session.receive arrived).notifications = session.notifications := by
  unfold receive
  split <;> rfl

/-- A session reads something on its way to another and hands out notifications, so that what is
handed out and what is put aside is what was put aside and what was read. -/
def Keeps (session : Session) (handed : List Notification) (next : Session) : Prop :=
  ∃ bytes, session.Reads bytes next ∧
    handed ++ next.notifications = session.notifications ++ notificationsIn bytes

section

variable {session middle same next after : Session} {handed later : List Notification}

/-- Where nothing is read, notifications are only handed out. -/
theorem Keeps.of_idle (hincoming : next.incoming = session.incoming)
    (hended : next.isEnded = session.isEnded)
    (hnotifications : handed ++ next.notifications = session.notifications) :
    session.Keeps handed next := by
  refine ⟨[], .nothing hincoming hended, ?_⟩
  rw [hnotifications]
  exact (List.append_nil _).symm

/-- What is kept in two parts of a run is kept in both. -/
theorem Keeps.trans (hfirst : session.Keeps handed middle) (hlater : middle.Keeps later next) :
    session.Keeps (handed ++ later) next := by
  obtain ⟨bytes, hbytes, hhanded⟩ := hfirst
  obtain ⟨more, hmore, hlater⟩ := hlater
  obtain ⟨hreads, hnotifications⟩ := hbytes.trans hmore
  refine ⟨bytes ++ more, hreads, ?_⟩
  rw [List.append_assoc, hlater, ← List.append_assoc, hhanded, List.append_assoc, hnotifications]

/-- What is kept depends only on what comes in and on the notifications. -/
theorem Keeps.of_same (h : session.Keeps handed next)
    (hincoming : same.incoming = session.incoming)
    (hended : same.isEnded = session.isEnded)
    (hnotifications : same.notifications = session.notifications) : same.Keeps handed next := by
  have hsame : same.Keeps [] session :=
    .of_idle hincoming.symm hended.symm hnotifications.symm
  exact hsame.trans h

/-- What is kept does not depend on bytes that arrive later. -/
theorem Keeps.receive (h : session.Keeps handed next) (arrived : List UInt8) :
    (session.receive arrived).Keeps handed (next.receive arrived) := by
  obtain ⟨bytes, hreads, hhanded⟩ := h
  refine ⟨bytes, hreads.receive arrived, ?_⟩
  rw [notifications_receive, notifications_receive, hhanded]

/-- What is kept does not depend on whether the daemon ends its side. -/
theorem Keeps.finish (h : session.Keeps handed next) :
    session.finish.Keeps handed next.finish := by
  obtain ⟨bytes, hreads, hhanded⟩ := h
  exact ⟨bytes, hreads.finish, hhanded⟩

/-- What is kept does not depend on whether the daemon goes away. -/
theorem Keeps.abandon (h : session.Keeps handed next) :
    session.abandon.Keeps handed next.abandon := by
  obtain ⟨bytes, hreads, hhanded⟩ := h
  exact ⟨bytes, hreads.abandon, hhanded⟩

/-- What is read is accounted for if the notification among it is handed out or put aside. -/
theorem Keeps.of_read {outcome : Awaited Message} (h : session.read = (outcome, next))
    (harrived : outcome ≠ .silence) (hincoming : after.incoming = next.incoming)
    (hended : after.isEnded = next.isEnded)
    (hnotifications : handed ++ after.notifications = next.notifications ++ heard outcome) :
    session.Keeps handed after := by
  have hsame := read_notifications session
  have hread := read_reads session
  rw [h] at hsame hread
  obtain ⟨bytes, hreads, hheard⟩ := hread harrived
  refine ⟨bytes, ⟨?_, hended.trans hreads.isEnded, ?_⟩, ?_⟩
  · rw [hincoming]
    exact hreads.incoming
  · rw [hincoming, hended]
    exact hreads.between
  · rw [hnotifications, hsame, hheard]

end

/-! ## Exchanges -/

/-- An exchange is told just what the notifications among the messages tell. -/
theorem advance_notified_iff {exchange : Exchange} {message : Message} {event : Notification} :
    exchange.advance message = .notified event ↔ message.notification? = some event := by
  cases message with
  | notification found => simp [Exchange.advance, Message.notification?]
  | device | supportedFilesystems | supportedFilesystemOptions =>
    simp only [Exchange.advance, Exchange.other, Message.notification?]
    split <;> simp
  | started | finished | succeeded | failed =>
    simp only [Exchange.advance, Exchange.other, Message.notification?]
    split <;> try split
    all_goals simp

/-- A message that is no news to the exchange is no notification. -/
theorem heard_of_advance {exchange : Exchange} {message : Message}
    {progress : Exchange.Progress} (h : exchange.advance message = progress)
    (hprogress : ∀ event, progress ≠ .notified event) : heard (.ready message) = [] := by
  have hnone : message.notification? = none := by
    rw [Option.eq_none_iff_forall_ne_some]
    intro event hevent
    exact hprogress event (h.symm.trans (advance_notified_iff.2 hevent))
  rw [heard, hnone]
  rfl

/-- However an exchange ends, the notifications on the way are put aside. -/
theorem collect_keeps (exchange : Exchange) (session : Session)
    (harrived : (collect exchange session).1 ≠ .silence) :
    session.Keeps [] (collect exchange session).2 := by
  fun_induction collect exchange session with
  | case1 exchange session message rest hread _ next hnext ih =>
    have hheard : heard (.ready message) = [] := heard_of_advance hnext (by simp)
    have hkept : session.Keeps [] rest :=
      .of_read hread nofun rfl rfl (by simp [hheard])
    exact hkept.trans (ih harrived)
  | case2 exchange session message rest hread _ event hnotified ih =>
    have hheard : heard (.ready message) = [event] := by
      rw [heard, advance_notified_iff.1 hnotified]
      rfl
    have hkept : session.Keeps [] { rest with notifications := rest.notifications ++ [event] } :=
      .of_read hread nofun rfl rfl (by simp [hheard])
    exact hkept.trans (ih harrived)
  | case3 exchange session message rest hread _ body hanswered =>
    have hheard : heard (.ready message) = [] := heard_of_advance hanswered (by simp)
    exact .of_read hread nofun rfl rfl (by simp [hheard])
  | case4 exchange session message rest hread _ e hfailed =>
    have hheard : heard (.ready message) = [] := heard_of_advance hfailed (by simp)
    exact .of_read hread nofun rfl rfl (by simp [hheard])
  | case5 exchange session e rest hread =>
    exact .of_read hread nofun rfl rfl (by simp [heard])
  | case6 exchange session rest hread => exact absurd rfl harrived

/-! ## Calls -/

/-- Whether something was given up because its time was over. -/
def isTimeout {α : Type} : Except SessionError α → Bool
  | .error (.timeout _) => true
  | _ => false

/-- A request that does not run out of time keeps all notifications. -/
theorem request_keeps (session : Session) (command : Command)
    (hpunctual : isTimeout (session.request command).1 = false) :
    session.Keeps [] (session.request command).2 := by
  unfold request at hpunctual ⊢
  by_cases hheard : session.isHeard = true
  · rw [if_pos hheard] at hpunctual ⊢
    have hsend : session.Keeps [] (session.send command.line.wire) := by
      rw [send, if_pos hheard]
      exact .of_idle rfl rfl rfl
    have hcollect := collect_keeps (.start command) (session.send command.line.wire)
    generalize collect (.start command) (session.send command.line.wire) = collected at *
    obtain ⟨outcome, next⟩ := collected
    cases outcome with
    | ready body => exact hsend.trans (hcollect (by simp))
    | failed e => exact hsend.trans (hcollect (by simp))
    | silence => cases hpunctual
  · rw [if_neg hheard]
    exact .of_idle rfl rfl rfl

/-- A question that does not run out of time keeps all notifications. -/
theorem ask_keeps {α : Type} {session : Session} {command : Command}
    {ofBody : List Message → Except SessionError α}
    (hpunctual : isTimeout (session.ask command ofBody).1 = false) :
    session.Keeps [] (session.ask command ofBody).2 := by
  have hrequest := request_keeps session command
  unfold ask at hpunctual ⊢
  generalize session.request command = answered at *
  obtain ⟨result, next⟩ := answered
  cases result with
  | ok body => exact hrequest rfl
  | error e => cases e <;> exact hrequest hpunctual

/-- What is asked of a session. -/
inductive Call where
  | list (path : Option String)
  | mount (path : String) (options : Option String)
  | unmount (path : String)
  | poweroff (path : String)
  | filesystems (name : Option String)
  | nextNotification
deriving DecidableEq, Repr

/-- What a call comes to. -/
inductive Reply where
  | devices (result : Except SessionError (List Description))
  | done (result : Except SessionError Unit)
  | names (result : Except SessionError (List String))
  | notification (result : Awaited Notification)

/-- Whether nothing came of a call in its time. -/
def Reply.isTimeout : Reply → Bool
  | devices result => Session.isTimeout result
  | done result => Session.isTimeout result
  | names result => Session.isTimeout result
  | notification result => result matches .silence

/-- The notifications that a call hands out. -/
def Reply.handed : Reply → List Notification
  | notification (.ready event) => [event]
  | _ => []

/-- Does what is asked. -/
def perform (session : Session) : Call → Reply × Session
  | .list path => (session.list path).map .devices id
  | .mount path options => (session.mount path options).map .done id
  | .unmount path => (session.unmount path).map .done id
  | .poweroff path => (session.poweroff path).map .done id
  | .filesystems name => (session.filesystems name).map .names id
  | .nextNotification => session.nextNotification.map .notification id

/-- Waiting for a notification hands out the first one and keeps the others. -/
theorem nextNotification_keeps {session : Session}
    (hpunctual : (Reply.notification session.nextNotification.1).isTimeout = false) :
    session.Keeps (Reply.notification session.nextNotification.1).handed
      session.nextNotification.2 := by
  unfold nextNotification at hpunctual ⊢
  cases hpending : session.notifications with
  | cons event rest => exact .of_idle rfl rfl hpending.symm
  | nil =>
    rw [hpending] at hpunctual
    obtain ⟨outcome, next, hread⟩ : ∃ outcome next, session.read = (outcome, next) :=
      ⟨_, _, rfl⟩
    have hempty : next.notifications = [] := by
      have hsame := read_notifications session
      rwa [hread, hpending] at hsame
    rw [hread] at hpunctual ⊢
    cases outcome with
    | ready message =>
      cases message <;> exact .of_read hread nofun rfl rfl (by rw [hempty]; rfl)
    | failed e => exact .of_read hread nofun rfl rfl (by rw [hempty]; rfl)
    | silence => cases hpunctual

/-- A call that does not run out of time loses no notification. -/
theorem perform_keeps (session : Session) (call : Call)
    (hpunctual : (session.perform call).1.isTimeout = false) :
    session.Keeps (session.perform call).1.handed (session.perform call).2 := by
  cases call with
  | list path => cases path <;> exact ask_keeps hpunctual
  | mount path options => exact ask_keeps hpunctual
  | unmount path => exact ask_keeps hpunctual
  | poweroff path => exact ask_keeps hpunctual
  | filesystems name => cases name <;> exact ask_keeps hpunctual
  | nextNotification => exact nextNotification_keeps hpunctual

/-! ## Runs -/

/-- Something that happens to a session. -/
inductive Occurrence where
  | arrived (bytes : List UInt8)
  /-- The daemon ends its side. -/
  | finished
  /-- The daemon goes away. -/
  | abandoned
  | called (call : Call)
deriving DecidableEq, Repr

/-- A session with all bytes that have arrived and all notifications that were handed out. -/
structure Account where
  session : Session
  stream : List UInt8
  handed : List Notification
deriving DecidableEq, Repr

namespace Account

/-- A new connection. -/
def opened (timeout : Nat) : Account :=
  ⟨.start timeout, [], []⟩

/-- What becomes of a session, unless a call runs out of time. -/
def step (account : Account) : Occurrence → Option Account
  | .arrived bytes =>
    some { account with
      session := account.session.receive bytes
      stream := if account.session.isEnded then account.stream else account.stream ++ bytes }
  | .finished => some { account with session := account.session.finish }
  | .abandoned => some { account with session := account.session.abandon }
  | .called call =>
    let (reply, session) := account.session.perform call
    if reply.isTimeout then none
    else some { account with session, handed := account.handed ++ reply.handed }

/-- What becomes of a session along a run in which no call runs out of time. -/
def run (account : Account) (occurrences : List Occurrence) : Option Account :=
  occurrences.foldlM step account

/-- The session if nothing had been asked of it yet. -/
def unread (account : Account) : Session :=
  { account.session with incoming := account.stream, notifications := [] }

/-- Whatever arrived is still to be read, or was read and accounted for. -/
def Balanced (account : Account) : Prop :=
  account.unread.Keeps account.handed account.session

/-- A new connection is balanced. -/
theorem balanced_opened (timeout : Nat) : (opened timeout).Balanced :=
  .of_idle rfl rfl rfl

/-- Whatever happens keeps an account balanced. -/
theorem Balanced.step {account next : Account} {occurrence : Occurrence}
    (h : account.Balanced) (hstep : account.step occurrence = some next) : next.Balanced := by
  cases occurrence with
  | arrived bytes =>
    obtain rfl := Option.some.inj hstep
    -- after the end nothing arrives any more, and the stream stays as it is too
    refine Keeps.of_same (h.receive bytes) ?_ ?_ ?_ <;>
      cases hended : account.session.isEnded <;> simp [unread, receive, hended]
  | finished =>
    obtain rfl := Option.some.inj hstep
    exact h.finish
  | abandoned =>
    obtain rfl := Option.some.inj hstep
    exact h.abandon
  | called call =>
    have hperform := perform_keeps account.session call
    obtain ⟨reply, session, hdone⟩ : ∃ reply session,
        account.session.perform call = (reply, session) := ⟨_, _, rfl⟩
    simp only [Account.step, hdone] at hstep hperform
    split at hstep
    · cases hstep
    · rename_i hpunctual
      obtain rfl := Option.some.inj hstep
      have hkept := hperform (Bool.eq_false_iff.2 hpunctual)
      have hended : session.isEnded = account.session.isEnded := by
        obtain ⟨bytes, hreads, -⟩ := hkept
        exact hreads.isEnded
      exact Keeps.of_same (Keeps.trans h hkept) rfl hended rfl

/-- Any run keeps an account balanced. -/
theorem Balanced.run {account reached : Account} {occurrences : List Occurrence}
    (h : account.Balanced) (hrun : account.run occurrences = some reached) : reached.Balanced := by
  induction occurrences generalizing account with
  | nil =>
    obtain rfl := Option.some.inj hrun
    exact h
  | cons occurrence rest ih =>
    rw [Account.run, List.foldlM_cons] at hrun
    obtain ⟨next, hstep, hrest⟩ := Option.bind_eq_some_iff.1 hrun
    exact ih (h.step hstep) hrest

end Account

/-- Whatever arrives on a connection and whatever is asked, as long as no call runs out of time:
the notifications that were handed out, and after them those that are put aside, are those among
the lines that were read, in the order in which they arrived, and nothing was read in part unless
the daemon's side ended inside a line. -/
theorem notifications_in_order (timeout : Nat) (occurrences : List Occurrence) {account : Account}
    (hrun : (Account.opened timeout).run occurrences = some account) :
    ∃ consumed, account.stream = consumed ++ account.session.incoming ∧
      (Text.openSegment newline consumed = [] ∨
        account.session.isEnded = true ∧ account.session.incoming = []) ∧
      account.handed ++ account.session.notifications = notificationsIn consumed := by
  obtain ⟨consumed, hreads, hnotifications⟩ := (Account.balanced_opened timeout).run hrun
  exact ⟨consumed, hreads.incoming, hreads.between, hnotifications⟩

/-- A notification comes before an unreadable line, so that the first command fails; the second one
is answered after another notification, and then the daemon ends inside a line. -/
theorem notifications_in_order_of_garbage :
    let command := Call.unmount "/dev/sda"
    let first := "removable_device_removed(\"/dev/sdb\")\nnonsense\n"
    let second := "removable_device_unmounted(\"/dev/sda\", \"/mnt\")\n" ++
      "succeeded(\"unmount\", \"/dev/sda\")\nremovable_"
    let occurrences := [.arrived (Text.Utf8.encode first), .called command,
      .arrived (Text.Utf8.encode second), .called command, .called .nextNotification, .finished]
    let account : Account :=
      { session :=
          { Session.start 10 with
            incoming := Text.Utf8.encode "removable_"
            isEnded := true
            sent := "unmount(\"/dev/sda\")\nunmount(\"/dev/sda\")\n"
            notifications := [.unmounted "/dev/sda" "/mnt"] }
        stream := Text.Utf8.encode (first ++ second)
        handed := [.removed "/dev/sdb"] }
    (Account.opened 10).run occurrences = some account ∧
      ∃ consumed, account.stream = consumed ++ account.session.incoming ∧
        notificationsIn consumed = [.removed "/dev/sdb", .unmounted "/dev/sda" "/mnt"] := by
  intro command first second occurrences account
  have hrun : (Account.opened 10).run occurrences = some account := by decide +kernel
  obtain ⟨consumed, hstream, -, hnotifications⟩ := notifications_in_order 10 occurrences hrun
  exact ⟨hrun, consumed, hstream, hnotifications.symm⟩

end RemovableMedia.Session
