import RemovableMedia.Control.Request
import RemovableMedia.Server.Daemon

/-!
# Talking to a daemon

A run of the control tool against a daemon that is at hand: it connects, sends the command of its
request, reads what the daemon has to say, and hangs up.
-/

set_option autoImplicit false

namespace RemovableMedia.Control

open RemovableMedia.Server (Daemon Peer ClientId)

variable {σ : Type}

/-- What a client has received from a daemon. -/
def receivedFrom (daemon : Daemon σ) (id : ClientId) : String :=
  ((daemon.peers[id]?).map Peer.received).getD ""

/-- A session after everything was received that the daemon has said to a client. -/
def hear (session : Session) (daemon : Daemon σ) (id : ClientId) : Session :=
  let session := session.receive (Text.Utf8.encode (receivedFrom daemon id))
  if daemon.peers.isOpen daemon.loop.clients id then session else session.finish

/-- Sends the command of a request, if it has one. -/
def Request.transmit (request : Request) (daemon : Daemon σ) (id : ClientId) : Daemon σ :=
  match request.command? with
  | some command => (daemon.send id (Text.Utf8.encode command.line.wire)).2
  | none => daemon.settle

/-- Carries out a request at a daemon and reports. -/
def Request.runAt (request : Request) (session : Session) (daemon : Daemon σ) :
    Report × Daemon σ :=
  match daemon.connect with
  | (none, daemon) => (request.run session.abandon, daemon)
  | (some id, daemon) =>
    let daemon := request.transmit daemon id
    (request.run (hear session daemon id), daemon.hangUp id)

/-- A run of the tool at a daemon, if it reaches one. -/
def Invocation.runAt (invocation : Invocation) (environment : Option String)
    (daemon : Daemon σ) : Report × Daemon σ :=
  match invocation.connect environment daemon.files with
  | .ok session => invocation.request.runAt session daemon
  | .error e => (failureReport e, daemon)

end RemovableMedia.Control
