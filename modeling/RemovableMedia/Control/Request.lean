import RemovableMedia.Control.Options
import RemovableMedia.Control.Report
import RemovableMedia.Json.Printer
import RemovableMedia.Message.Json
import RemovableMedia.Session.Basic
import RemovableMedia.Text.Unsigned

/-!
# The control tool

The tool connects to the daemon, makes one request and prints the answer, or prints notifications
as they come.  It ends with status 2 if the daemon refuses, and with status 1 on any other failure.
-/

set_option autoImplicit false

namespace RemovableMedia.Control

/-- What the tool is to do. -/
inductive Request where
  | list (path : Option String) (asJson : Bool)
  | mount (path : String) (options : Option String)
  | unmount (path : String)
  | filesystems (name : Option String)
  | poweroff (path : String)
  | monitor
deriving DecidableEq, Repr

/-- A run of the tool. -/
structure Invocation where
  /-- The daemon's socket, if it is stated. -/
  socket : Option String
  /-- The time for an answer, in seconds. -/
  timeout : Nat
  request : Request
deriving DecidableEq, Repr

/-! ## The command line -/

/-- The request of a name with its options and words. -/
def requestOf? (name : String) (given : Given) : Option Request :=
  match name, given.words with
  | "list", [] => some (.list none (given.has "json"))
  | "list", [path] => some (.list (some path) (given.has "json"))
  | "mount", [path] => some (.mount path none)
  | "mount", [path, options] => some (.mount path (some options))
  | "unmount", [path] => some (.unmount path)
  | "filesystems", [] => some (.filesystems none)
  | "filesystems", [name] => some (.filesystems (some name))
  | "poweroff", [path] => some (.poweroff path)
  | "monitor", [] => some .monitor
  | _, _ => none

/-- The options of a request. -/
def requestFlags (name : String) : List Flag :=
  if name = "list" then [⟨"json", none, false⟩] else []

/-- The value of an option for a path, which must not be empty. -/
def pathOption? (given : Given) (name : String) : Option (Option String) :=
  match given.value? name with
  | some "" => none
  | path => some path

/-- The time for an answer, in seconds. -/
def timeoutOption? (given : Given) : Option Nat :=
  match given.value? "timeout" with
  | some text => Text.unsigned? UInt64.size text.toList
  | none => some 5

/-- The run that a command line asks for, if it is well formed. -/
def Invocation.parse? (arguments : List String) : Option Invocation := do
  let given ← read? [⟨"socket", none, true⟩, ⟨"timeout", none, true⟩] true arguments
  let socket ← pathOption? given "socket"
  let timeout ← timeoutOption? given
  match given.words with
  | [] => none
  | name :: arguments =>
    let request ← requestOf? name (← read? (requestFlags name) false arguments)
    return { socket, timeout, request }

/-- Where the daemon's socket is expected unless that is stated. -/
def usualSocket : String := "/var/run/mediad.sock"

/-- The path of the daemon's socket; the environment may state it. -/
def Invocation.socketPath (invocation : Invocation) (environment : Option String) : String :=
  (invocation.socket <|> environment).getD usualSocket

/-- The session of a run of the tool, if a daemon can be reached. -/
def Invocation.connect (invocation : Invocation) (environment : Option String)
    (files : FileTree) : Except SessionError Session :=
  Session.connect files (invocation.socketPath environment) (invocation.timeout * 1000)

/-- The command that a request sends to the daemon, if it sends one. -/
def Request.command? : Request → Option Command
  | .list none _ => some .listAllRemovableDevices
  | .list (some path) _ => some (.listRemovableDevice path)
  | .mount path options => some (.mount path options)
  | .unmount path => some (.unmount path)
  | .filesystems none => some .listSupportedFilesystems
  | .filesystems (some name) => some (.listSupportedFilesystemOptions name)
  | .poweroff path => some (.poweroff path)
  | .monitor => none

/-! ## Printing answers -/

/-- One line about a device; partitions are indented. -/
def describeDevice (device : Description) : String :=
  let fields := [some device.path, some device.kind.word, device.subtype.map (·.word),
    device.state.map (·.word), device.filesystem,
    device.label.map fun label => "\"" ++ label ++ "\"",
    device.mount.map fun mount => s!"on {mount.point} ({mount.options})"]
  (if device.isRoot then "" else "  ") ++ "  ".intercalate (fields.filterMap id)

/-- How a failure is worded, with what lies behind it. -/
def failureText (error : SessionError) : String :=
  match error.cause? with
  | some cause => error.text ++ ": " ++ cause
  | none => error.text

/-- The report of a failure. -/
def failureReport (error : SessionError) : Report :=
  .failed (if error.code?.isSome then 2 else 1) ("mediactl: " ++ failureText error)

/-- The report of an answer. -/
def answerReport {α : Type} (answer : Except SessionError α) (print : α → Report) : Report :=
  match answer with
  | .ok value => print value
  | .error e => failureReport e

/-- The report of a list of devices. -/
def devicesReport (asJson : Bool) (devices : List Description) : Report :=
  if asJson then .said (Description.listToJson devices).renderIndented
  else .listed (devices.map describeDevice)

/-- Prints notifications until the connection ends or fails. -/
def monitorReport : Nat → Session → Report
  | 0, _ => ⟨0, "", ""⟩
  | steps + 1, session =>
    match session.nextNotification with
    | (.ready event, session) =>
      let rest := monitorReport steps session
      { rest with output := event.line.wire ++ rest.output }
    | (.failed .disconnected, _) => .failed 0 "Daemon closed the connection."
    | (.failed e, _) => failureReport e
    | (.silence, _) => ⟨0, "", ""⟩

/-- Carries out a request on a session and reports. -/
def Request.run (request : Request) (session : Session) : Report :=
  match request with
  | .list path asJson => answerReport (session.list path).1 (devicesReport asJson)
  | .mount path options =>
    answerReport (session.mount path options).1 fun _ => .said (path ++ " mounted")
  | .unmount path => answerReport (session.unmount path).1 fun _ => .said (path ++ " unmounted")
  | .filesystems name =>
    answerReport (session.filesystems name).1 fun names => .said (" ".intercalate names)
  | .poweroff path =>
    answerReport (session.poweroff path).1 fun _ => .said (path ++ " powered off")
  | .monitor =>
    monitorReport (session.notifications.length + session.incoming.length + 1) session

/-- A run of the tool at a daemon that has one thing to say and then ends its side. -/
def Invocation.runAfter (invocation : Invocation) (environment : Option String)
    (files : FileTree) (reply : List UInt8) : Report :=
  answerReport (invocation.connect environment files) fun session =>
    invocation.request.run (session.receive reply).finish

end RemovableMedia.Control
