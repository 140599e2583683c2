import RemovableMedia.Monitor.Basic
import RemovableMedia.Server.Loop
import RemovableMedia.Server.Peer
import RemovableMedia.Files.Socket

/-!
# The daemon

A daemon binds its socket, starts the monitor, and runs its loop until it is told to stop or the
monitor ends.  Then all clients are disconnected, the monitor is let go and the socket removed.
After each thing that happens, everything that follows from it is carried out before the next.
-/

set_option autoImplicit false

namespace RemovableMedia.Server

open RemovableMedia.Mount (Orchestrator)

/-- Why a daemon ended. -/
inductive ServerError where
  | socketSetup (path : String) (reason : OsError)
  | monitorStart (cause : Monitor.StartError)
  | monitorExited
deriving DecidableEq, Repr

/-- How the end of a daemon is worded. -/
def ServerError.message : ServerError → String
  | .socketSetup path reason => s!"Failed to setup socket at {path}: {reason.message}"
  | .monitorStart cause => "Failed to start device monitor: " ++ cause.message
  | .monitorExited => "Device monitor exited"

/-- A daemon with everything it works with. -/
structure Daemon (σ : Type) where
  orchestrator : Orchestrator σ
  config : Config
  loop : Loop σ
  monitor : Monitor
  /-- The queue on which the loop finds the monitor's items. -/
  queue : Nat
  peers : Peers
  /-- How the daemon ended, if it did. -/
  ending : Option (Except ServerError Unit)

namespace Daemon

variable {σ : Type}

/-- The files with which a daemon works. -/
def files (daemon : Daemon σ) : FileTree :=
  daemon.loop.host.files

/-- The daemon with other files. -/
def withFiles (daemon : Daemon σ) (files : FileTree) : Daemon σ :=
  { daemon with loop := { daemon.loop with host := { daemon.loop.host with files } } }

/-- The daemon with another state of its orchestrator. -/
def withMounts (daemon : Daemon σ) (mounts : σ) : Daemon σ :=
  { daemon with loop := { daemon.loop with host := { daemon.loop.host with mounts } } }

/-- Ends a daemon that could not be started. -/
def failed (orchestrator : Orchestrator σ) (config : Config) (files : FileTree) (mounts : σ)
    (monitor : Monitor) (error : ServerError) : Daemon σ where
  orchestrator := orchestrator
  config := config
  loop := ⟨⟨.empty, files, mounts⟩, .empty⟩
  monitor := monitor.drop
  queue := 0
  peers := []
  ending := some (.error error)

/-- Starts a daemon. -/
def start (orchestrator : Orchestrator σ) (config : Config) (files : FileTree) (mounts : σ)
    (source : Monitor.Script) : Daemon σ :=
  let monitor := Monitor.create source
  match files.bindSocket config.socketPath with
  | (files, .error reason) =>
    failed orchestrator config files mounts monitor (.socketSetup config.socketPath reason)
  | (files, .ok ()) =>
    let (queue, monitor) := monitor.register
    match monitor.start with
    | (.error cause, monitor) =>
      failed orchestrator config (files.removeSocket config.socketPath) mounts monitor
        (.monitorStart cause)
    | (.ok present, monitor) =>
      { orchestrator, config, monitor, queue,
        loop := .seeded orchestrator files mounts present, peers := [], ending := none }

/-- Ends a daemon. -/
def finish (daemon : Daemon σ) (ending : Except ServerError Unit) : Daemon σ :=
  let cleared := { daemon.loop with clients := daemon.loop.clients.clear }
  { daemon with
    loop := cleared
    monitor := (daemon.monitor.unregister daemon.queue).drop
    ending := some ending }.withFiles (daemon.files.removeSocket daemon.config.socketPath)

/-- Lets the loop take over what the monitor has for it. -/
def takeNews (daemon : Daemon σ) : Daemon σ :=
  match daemon.monitor.drain daemon.queue with
  | ([], _) => daemon
  | (items, monitor) =>
    let (ended, loop) := daemon.loop.observe daemon.orchestrator items
    let daemon := { daemon with loop, monitor }
    if ended then daemon.finish (.error .monitorExited) else daemon

/-- Lets all writers write what waits. -/
def flush (daemon : Daemon σ) : Daemon σ :=
  let (clients, peers) := daemon.peers.flush daemon.loop.clients
  { daemon with loop := { daemon.loop with clients }, peers }

/-- Lets everything happen that needs nothing from outside. -/
def settle (daemon : Daemon σ) : Daemon σ :=
  if daemon.ending.isSome then daemon
  else { daemon with monitor := daemon.monitor.settle }.takeNews.flush

/-- Whether a client can connect. -/
def isListening (daemon : Daemon σ) : Bool :=
  daemon.ending.isNone && (daemon.files.findSocket daemon.config.socketPath).toBool

/-- Connects a new client, unless nobody listens. -/
def connect (daemon : Daemon σ) : Option ClientId × Daemon σ :=
  if daemon.isListening then
    let (id, loop) := daemon.loop.accept
    (some id, { daemon with loop, peers := daemon.peers ++ [.connected] })
  else (none, daemon)

/-- Takes in one piece of a client's bytes, if its connection is open. -/
def sendPiece (daemon : Daemon σ) (id : ClientId) (bytes : List UInt8) : Bool × Daemon σ :=
  if daemon.peers.isOpen daemon.loop.clients id then
    let loop := daemon.loop.receive daemon.orchestrator daemon.config id bytes
    (true, { daemon with loop }.settle)
  else (false, daemon)

/-- Takes in pieces of a client's bytes up to the first that cannot be sent. -/
def sendPieces (daemon : Daemon σ) (id : ClientId) : List (List UInt8) → Bool × Daemon σ
  | [] => (true, daemon)
  | piece :: rest =>
    match daemon.sendPiece id piece with
    | (true, daemon) => daemon.sendPieces id rest
    | (false, daemon) => (false, daemon)

/-- Takes in bytes of a client piece by piece, and tells whether all of them could be sent. -/
def send (daemon : Daemon σ) (id : ClientId) (bytes : List UInt8) : Bool × Daemon σ :=
  if daemon.peers.hasHungUp id then (false, daemon)
  else daemon.sendPieces id (pieces bytes)

/-- Lets a client go away. -/
def hangUp (daemon : Daemon σ) (id : ClientId) : Daemon σ :=
  let (events, peers) := daemon.peers.hangUp daemon.loop.clients id
  let loop := if events.isEmpty then daemon.loop else daemon.loop.remove id
  { daemon with peers, loop }

/-- Looks at the mount table. -/
def poll (daemon : Daemon σ) : Daemon σ :=
  if daemon.ending.isSome then daemon
  else { daemon with loop := daemon.loop.poll daemon.orchestrator }

/-- Tells the daemon to stop. -/
def cancel (daemon : Daemon σ) : Daemon σ :=
  if daemon.ending.isSome then daemon else daemon.finish (.ok ())

end Daemon

end RemovableMedia.Server
