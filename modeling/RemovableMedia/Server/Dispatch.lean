import RemovableMedia.Command
import RemovableMedia.Mount.Service

/-!
# Carrying out commands

What a frame of a client leads to: messages for this client and notifications for all of them.  A
listing is framed by a beginning and an end; every other command has one answer.  A frame that is
no command is a violation and has no answer at all.
-/

set_option autoImplicit false

namespace RemovableMedia.Server

open RemovableMedia.Mount (Host Orchestrator)

/-- What a command leads to. -/
structure Outcome where
  /-- What its client is told. -/
  replies : List Message
  /-- What every client is told before that. -/
  events : List Notification
deriving DecidableEq, Repr

namespace Outcome

/-- The outcome of a command that is refused. -/
def refusal (command : Command) (code : ErrorCode) : Outcome :=
  ⟨[.failure command code], []⟩

/-- The outcome of a command that lists something. -/
def listing (command : Command) (body : List Message) : Outcome :=
  ⟨.start command :: (body ++ [.finish command]), []⟩

/-- The outcome of a command that tries to change the mount of a device. -/
def ofChange (command : Command) : Except ErrorCode Notification → Outcome
  | .ok event => ⟨[.success command], [event]⟩
  | .error code => refusal command code

/-- The outcome of a command that tries something without a notification. -/
def ofAttempt (command : Command) : Except ErrorCode Unit → Outcome
  | .ok () => ⟨[.success command], []⟩
  | .error code => refusal command code

end Outcome

/-- The descriptions of devices as messages. -/
def describe (nodes : List Node) : List Message :=
  nodes.map fun node => .device node.description

/-- The devices that a path stands for: all of them for the root. -/
def listed? (tree : Tree) (path : String) : Option (List Node) :=
  if path = Device.rootPath then some tree.nodes else tree.find? path

variable {σ : Type}

/-- Carries out a command. -/
def execute (orchestrator : Orchestrator σ) (config : Config) (command : Command)
    (host : Host σ) : Outcome × Host σ :=
  match command with
  | .listAllRemovableDevices => (.listing command (describe host.tree.nodes), host)
  | .listRemovableDevice path =>
    match listed? host.tree path with
    | some nodes => (.listing command (describe nodes), host)
    | none => (.refusal command .noSuchRemovableDevice, host)
  | .mount path options =>
    let (result, host) := host.mount orchestrator config path options
    (.ofChange command result, host)
  | .unmount path =>
    let (result, host) := host.unmount orchestrator config path
    (.ofChange command result, host)
  | .listSupportedFilesystems =>
    (.listing command [.supportedFilesystems config.filesystems.names], host)
  | .listSupportedFilesystemOptions name =>
    match config.filesystems.get? name with
    | some filesystem =>
      (.listing command [.supportedFilesystemOptions filesystem.allowed], host)
    | none => (.refusal command .unsupportedFstype, host)
  | .poweroff path =>
    let (result, host) := host.poweroff orchestrator path
    (.ofAttempt command result, host)

/-- Whether a command is only known when powering off is enabled. -/
def needsPoweroff : Command → Bool
  | .poweroff _ => true
  | _ => false

/-- The command that a frame states, as far as the configuration knows it. -/
def recognize (config : Config) (frame : String) : Except CommandError Command :=
  match Command.parse frame with
  | .ok command =>
    if needsPoweroff command && !config.poweroffEnabled then .error (.unknown command.name)
    else .ok command
  | .error e => .error e

/-- Carries out what a frame states. -/
def dispatch (orchestrator : Orchestrator σ) (config : Config) (frame : String) (host : Host σ) :
    Except CommandError Outcome × Host σ :=
  match recognize config frame with
  | .ok command =>
    let (outcome, host) := execute orchestrator config command host
    (.ok outcome, host)
  | .error e => (.error e, host)

end RemovableMedia.Server
