import RemovableMedia.Config.Reader
import RemovableMedia.Control.Options
import RemovableMedia.Control.Report
import RemovableMedia.Text.Blank
import RemovableMedia.Text.Unsigned

/-!
# Supervising the daemon

A running daemon holds a lock on its PID file, in which its process number stands.  The daemon's
tool looks there to tell whether a daemon runs, to stop it, or to start none beside it.
-/

set_option autoImplicit false

namespace RemovableMedia.Control

/-- What is to be done about the daemon. -/
inductive Order where
  | start (inBackground : Bool)
  | stop
  | status
deriving DecidableEq, Repr

/-- A run of the daemon's tool. -/
structure Supervision where
  order : Order
  /-- The configuration file, if it is stated. -/
  config : Option String
deriving DecidableEq, Repr

/-- The options of an order. -/
def orderFlags (name : String) : List Flag :=
  if name = "start" then [⟨"config", none, true⟩, ⟨"daemon", some 'd', false⟩]
  else [⟨"config", none, true⟩]

/-- The order of a name with its options. -/
def orderOf? (name : String) (given : Given) : Option Order :=
  match name with
  | "start" => some (.start (given.has "daemon"))
  | "stop" => some .stop
  | "status" => some .status
  | _ => none

/-- The run that a command line asks for, if it is well formed.  An empty one starts the daemon. -/
def Supervision.parse? (arguments : List String) : Option Supervision := do
  let given ← read? [] true arguments
  match given.words with
  | [] => return { order := .start false, config := none }
  | name :: arguments =>
    let given ← read? (orderFlags name) false arguments
    let order ← orderOf? name given
    if !given.words.isEmpty then none
    else
      match given.value? "config" with
      | some "" => none
      | config => return { order, config }

/-- The process number in the text of a PID file. -/
def processNumber? (text : String) : Option Nat :=
  Text.unsigned? UInt32.size (Text.trim text.toList)

/-- The process number of the daemon that runs, if one does. -/
def runningDaemon? (files : FileTree) (pidFile : String) : Option Nat :=
  match files.readText pidFile with
  | .ok text => (processNumber? text).filter fun pid => files.exists? s!"/proc/{pid}"
  | .error _ => none

/-- What comes of a run of the daemon's tool. -/
inductive Decision where
  | report (report : Report)
  /-- A daemon is to be started. -/
  | launch (config : Config) (inBackground : Bool)
  /-- A process is to be told to end. -/
  | terminate (pid : Nat)
deriving DecidableEq, Repr

/-- Why the PID file cannot be locked, if it cannot. -/
def lockFailure? (files : FileTree) (isHeld : String → Bool) (pidFile : String) :
    Option String :=
  match files.makeDirectories ((Path.parent? pidFile).getD "") with
  | (_, .error _) => some "Failed to create PID file directory"
  | (files, .ok ()) =>
    match files.writeFile pidFile [] with
    | .error _ => some s!"Failed to open PID file {pidFile}"
    | .ok _ => if isHeld pidFile then some s!"Another mediad instance holds {pidFile}" else none

/-- What an order comes to under a configuration. -/
def Order.decide (order : Order) (files : FileTree) (isHeld : String → Bool) (config : Config) :
    Decision :=
  match order, runningDaemon? files config.pidFile with
  | .start _, some pid =>
    .report ⟨1, "",
      s!"Daemon is already running (PID {pid})\nUse 'mediad stop' to stop it first.\n"⟩
  | .start true, none => .launch config true
  | .start false, none =>
    match lockFailure? files isHeld config.pidFile with
    | some reason => .report (.failed 1 ("Error: " ++ reason))
    | none => .launch config false
  | .stop, some pid => .terminate pid
  | .stop, none => .report (.said "Daemon is not running.")
  | .status, some pid =>
    let socket :=
      if files.exists? config.socketPath then [s!"Socket: {config.socketPath}"] else []
    .report (.listed (s!"Daemon is running (PID {pid})" :: socket))
  | .status, none => .report ⟨1, "Daemon is not running.\n", ""⟩

/-- What a run of the daemon's tool comes to.  The environment may state the socket path. -/
def Supervision.run (supervision : Supervision) (files : FileTree) (socket : Option String)
    (isHeld : String → Bool) : Decision :=
  match Config.load files supervision.config socket with
  | .ok config => supervision.order.decide files isHeld config
  | .error e => .report (.failed 1 ("Error: " ++ e.message))

end RemovableMedia.Control
