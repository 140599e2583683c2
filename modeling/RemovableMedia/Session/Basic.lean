import RemovableMedia.Files.Socket
import RemovableMedia.Session.Exchange
import RemovableMedia.Text.Utf8

/-!
# Sessions

A client's side of a connection: what has arrived and is not read yet, and the notifications that
came while something else was awaited.  Commands are sent one at a time.  Where nothing more
arrives, the client gives up after its time is over, and what it had read of an unfinished line is
lost.
-/

set_option autoImplicit false

namespace RemovableMedia

/-- A client's side of a connection. -/
structure Session where
  /-- The time for an answer, in milliseconds. -/
  timeout : Nat
  /-- The bytes that have arrived and are not read yet. -/
  incoming : List UInt8
  /-- Whether nothing will arrive after them. -/
  isEnded : Bool
  /-- Whether the daemon still reads what is sent. -/
  isHeard : Bool
  /-- What was sent. -/
  sent : String
  /-- The notifications that nobody has asked for yet. -/
  notifications : List Notification
deriving DecidableEq, Repr

/-- What comes of waiting for something: it is there, or it cannot come, or nothing arrives. -/
inductive Awaited (α : Type) where
  | ready (value : α)
  | failed (error : SessionError)
  | silence
deriving DecidableEq, Repr

namespace Session

/-- The byte that ends a line. -/
def newline : UInt8 := 10

/-- The time for an answer where no other is stated, in milliseconds. -/
def usualTimeout : Nat := 10000

/-- A session on a new connection. -/
def start (timeout : Nat) : Session :=
  ⟨timeout, [], false, true, "", []⟩

/-- A session with the daemon whose socket is at a path.  Making a connection takes its time, so it
is not made where there is none. -/
def connect (files : FileTree) (path : String) (timeout : Nat) : Except SessionError Session :=
  match files.findSocket path with
  | .ok () => if timeout = 0 then .error (.timeout timeout) else .ok (start timeout)
  | .error reason => .error (.connect path reason)

/-- The session after more bytes have arrived; nothing arrives after the end. -/
def receive (session : Session) (bytes : List UInt8) : Session :=
  if session.isEnded then session else { session with incoming := session.incoming ++ bytes }

/-- The session after the daemon has ended its side. -/
def finish (session : Session) : Session :=
  { session with isEnded := true }

/-- The session after the daemon has gone away. -/
def abandon (session : Session) : Session :=
  { session with isEnded := true, isHeard := false }

/-- The message in the bytes of a line with its newline. -/
def decode (bytes : List UInt8) : Except SessionError Message :=
  match Text.Utf8.fault? bytes, Text.Utf8.decode? bytes.dropLast with
  | none, some text =>
    match Line.parse text with
    | .error cause => .error (.parse cause)
    | .ok line =>
      match Message.ofLine line with
      | .error cause => .error (.message cause)
      | .ok message => .ok message
  | some fault, _ => .error (.io fault.message)
  | none, none => .error .disconnected

/-- Why there is no line in the last bytes before the end. -/
def endError (bytes : List UInt8) : SessionError :=
  match Text.Utf8.fault? bytes with
  | some fault => .io fault.message
  | none => .disconnected

/-- Reads the next message. -/
def read (session : Session) : Awaited Message × Session :=
  let line := session.incoming.takeWhile (· != newline)
  match session.incoming.dropWhile (· != newline) with
  | _ :: rest =>
    let session := { session with incoming := rest }
    match decode (line ++ [newline]) with
    | .ok message => (.ready message, session)
    | .error e => (.failed e, session)
  | [] =>
    let session := { session with incoming := [] }
    if session.isEnded then (.failed (endError line), session) else (.silence, session)

/-- A message that was read took bytes. -/
theorem read_length_lt {session rest : Session} {message : Message}
    (h : session.read = (.ready message, rest)) :
    rest.incoming.length < session.incoming.length := by
  unfold read at h
  dsimp only at h
  split at h
  · rename_i hdrop
    have hle := (List.dropWhile_suffix (· != newline) (l := session.incoming)).length_le
    rw [hdrop] at hle
    simp only [List.length_cons] at hle
    split at h
    · simp only [Prod.mk.injEq] at h
      rw [← h.2]
      exact hle
    · simp at h
  · split at h <;> simp at h

/-- Reads messages until an exchange comes to its end. -/
def collect (exchange : Exchange) (session : Session) : Awaited (List Message) × Session :=
  match h : session.read with
  | (.ready message, rest) =>
    have := read_length_lt h
    match exchange.advance message with
    | .next exchange => collect exchange rest
    | .notified event =>
      collect exchange { rest with notifications := rest.notifications ++ [event] }
    | .answered body => (.ready body, rest)
    | .failed e => (.failed e, rest)
  | (.failed e, rest) => (.failed e, rest)
  | (.silence, rest) => (.silence, rest)
termination_by session.incoming.length

/-- Sends a text, unless nobody hears it. -/
def send (session : Session) (text : String) : Session :=
  if session.isHeard then { session with sent := session.sent ++ text } else session

/-- Sends a command and reads its answer: the messages of a listing, or nothing. -/
def request (session : Session) (command : Command) :
    Except SessionError (List Message) × Session :=
  if session.isHeard then
    match collect (.start command) (session.send command.line.wire) with
    | (.ready body, session) => (.ok body, session)
    | (.failed e, session) => (.error e, session)
    | (.silence, session) => (.error (.timeout session.timeout), session)
  else (.error .disconnected, session)

/-- Asks for something and makes sense of the answer. -/
def ask {α : Type} (session : Session) (command : Command)
    (ofBody : List Message → Except SessionError α) : Except SessionError α × Session :=
  match session.request command with
  | (.ok body, session) => (ofBody body, session)
  | (.error e, session) => (.error e, session)

/-- All devices, or the device at a path with its partitions. -/
def list (session : Session) (path : Option String) :
    Except SessionError (List Description) × Session :=
  match path with
  | some path => session.ask (.listRemovableDevice path) devicesIn
  | none => session.ask .listAllRemovableDevices devicesIn

/-- Has something done that has no other answer than success. -/
def order (session : Session) (command : Command) : Except SessionError Unit × Session :=
  session.ask command fun _ => .ok ()

/-- Mounts a device. -/
def mount (session : Session) (path : String) (options : Option String) :
    Except SessionError Unit × Session :=
  session.order (.mount path options)

/-- Unmounts a device. -/
def unmount (session : Session) (path : String) : Except SessionError Unit × Session :=
  session.order (.unmount path)

/-- Powers a device off. -/
def poweroff (session : Session) (path : String) : Except SessionError Unit × Session :=
  session.order (.poweroff path)

/-- The supported filesystems, or the options of one of them. -/
def filesystems (session : Session) (name : Option String) :
    Except SessionError (List String) × Session :=
  match name with
  | some name => session.ask (.listSupportedFilesystemOptions name) optionsIn
  | none => session.ask .listSupportedFilesystems filesystemsIn

/-- The next notification: the first that nobody has asked for yet, or the next message, which
must be one. -/
def nextNotification (session : Session) : Awaited Notification × Session :=
  match session.notifications with
  | event :: rest => (.ready event, { session with notifications := rest })
  | [] =>
    match session.read with
    | (.ready (.notification event), session) => (.ready event, session)
    | (.ready message, session) =>
      (.failed (.protocol ("unsolicited " ++ message.line.render)), session)
    | (.failed e, session) => (.failed e, session)
    | (.silence, session) => (.silence, session)

end Session

end RemovableMedia
