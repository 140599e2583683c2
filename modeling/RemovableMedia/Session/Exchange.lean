import RemovableMedia.Files.OsError
import RemovableMedia.Message.Parser
import RemovableMedia.Text.Duration

/-!
# Exchanges

How a client recognizes the answer to its command among everything that the daemon says.  An
answer repeats the command with exactly the arguments that were sent.  Notifications may come at
any time and are no part of it; anything else that is not awaited breaks the protocol.
-/

set_option autoImplicit false

namespace RemovableMedia

/-- Why a client did not get what it asked for. -/
inductive SessionError where
  | connect (path : String) (reason : OsError)
  | disconnected
  | timeout (milliseconds : Nat)
  | failed (command : String) (code : ErrorCode)
  | parse (cause : LineError)
  | message (cause : MessageError)
  | protocol (text : String)
  | io (reason : String)
deriving DecidableEq, Repr

namespace SessionError

/-- How a failure is worded. -/
def text : SessionError → String
  | connect path reason => s!"Failed to connect to daemon at {path}: {reason.message}"
  | disconnected => "Daemon closed the connection"
  | timeout milliseconds => "No response from daemon within " ++ Text.duration milliseconds
  | failed command code => s!"{command} failed: {code.word}"
  | parse cause => "Unparseable line from daemon: " ++ cause.message
  | message cause => "Unexpected message from daemon: " ++ cause.message
  | protocol text => "Protocol error: " ++ text
  | io reason => "I/O error: " ++ reason

/-- What lies behind a failure. -/
def cause? : SessionError → Option String
  | connect _ reason => some reason.message
  | parse cause => some cause.message
  | message cause => some cause.message
  | io reason => some reason
  | _ => none

/-- The reason for which the daemon refused, if it did. -/
def code? : SessionError → Option ErrorCode
  | failed _ code => some code
  | _ => none

end SessionError

/-- What was received so far of the answer to a command. -/
structure Exchange where
  command : Command
  /-- Whether the beginning of a listing was received. -/
  isStarted : Bool
  /-- The messages of the listing. -/
  body : List Message
deriving DecidableEq, Repr

namespace Exchange

/-- The exchange after sending a command. -/
def start (command : Command) : Exchange :=
  ⟨command, false, []⟩

/-- Whether a repetition is that of the command as it was sent. -/
def matchesEcho (exchange : Exchange) (name : String) (args : Arguments) : Bool :=
  exchange.command.line == ⟨name, args⟩

/-- What a message does to an exchange. -/
inductive Progress where
  | next (exchange : Exchange)
  /-- The message is a notification, which the exchange does not concern. -/
  | notified (event : Notification)
  | answered (body : List Message)
  | failed (error : SessionError)
deriving DecidableEq, Repr

/-- What a message does that is no awaited repetition of the command: it is part of a listing that
was begun, or out of place. -/
def other (exchange : Exchange) (message : Message) : Progress :=
  if exchange.isStarted then .next { exchange with body := exchange.body ++ [message] }
  else
    .failed (.protocol
      s!"unexpected {message.line.render} while waiting for {exchange.command.name}")

/-- What a message does to an exchange. -/
def advance (exchange : Exchange) (message : Message) : Progress :=
  match message with
  | .notification event => .notified event
  | .failed name args code =>
    if exchange.matchesEcho name args then .failed (.failed name code)
    else exchange.other message
  | .succeeded name args =>
    if !exchange.command.isListing && exchange.matchesEcho name args then
      .answered exchange.body
    else exchange.other message
  | .started name args =>
    if exchange.command.isListing && !exchange.isStarted && exchange.matchesEcho name args then
      .next { exchange with isStarted := true }
    else exchange.other message
  | .finished name args =>
    if exchange.isStarted && exchange.matchesEcho name args then .answered exchange.body
    else exchange.other message
  | _ => exchange.other message

end Exchange

/-! ## What a listing says -/

/-- The devices that a listing describes. -/
def devicesIn (body : List Message) : Except SessionError (List Description) :=
  body.mapM fun message =>
    match message with
    | .device description => .ok description
    | other =>
      .error (.protocol ("expected a device description, got " ++ other.line.render))

/-- The names in a listing of filesystems. -/
def filesystemsIn (body : List Message) : Except SessionError (List String) :=
  let found := body.findSome? fun message =>
    match message with
    | .supportedFilesystems names => some names
    | _ => none
  match found with
  | some names => .ok names
  | none => .error (.protocol "missing supported_filesystems")

/-- The options in a listing of options. -/
def optionsIn (body : List Message) : Except SessionError (List String) :=
  let found := body.findSome? fun message =>
    match message with
    | .supportedFilesystemOptions options => some options
    | _ => none
  match found with
  | some options => .ok options
  | none => .error (.protocol "missing supported_filesystem_options")

end RemovableMedia
