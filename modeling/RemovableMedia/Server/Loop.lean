import RemovableMedia.Monitor.Queue
import RemovableMedia.Server.Dispatch
import RemovableMedia.Server.Registry

/-!
# The event loop

One thing happens at a time: a client connects, sends bytes or goes away, the monitor has news, or
the mount table may have changed.  Whatever this does to the devices is told to every client, and a
client hears of it before the answer to its own command.  A client that breaks the protocol, or
whose queue refuses a line, is disconnected at once.
-/

set_option autoImplicit false

namespace RemovableMedia.Server

open RemovableMedia.Mount (Host Orchestrator)

/-- The state of the event loop. -/
structure Loop (σ : Type) where
  host : Host σ
  clients : Registry

namespace Loop

variable {σ : Type}

/-- Takes in a client on a socket.  A socket that is still registered is dropped. -/
def register (loop : Loop σ) (socket : Nat) : Loop σ :=
  match loop.clients.register socket with
  | .ok (_, clients) => { loop with clients }
  | .error _ => loop

/-- Takes in a client on a socket that no other one has. -/
def accept (loop : Loop σ) : ClientId × Loop σ :=
  let (id, clients) := loop.clients.accept
  (id, { loop with clients })

/-- Disconnects a client. -/
def remove (loop : Loop σ) (id : ClientId) : Loop σ :=
  { loop with clients := loop.clients.remove id }

/-- Tells every client of one thing, and disconnects those whose queue refuses it. -/
def announce (loop : Loop σ) (event : Notification) : Loop σ :=
  let (refusing, clients) := loop.clients.broadcast event.line.wire
  { loop with clients := clients.removeAll refusing }

/-- Tells every client of some things. -/
def broadcast (loop : Loop σ) (events : List Notification) : Loop σ :=
  events.foldl announce loop

/-- Answers a client, and disconnects it if its queue refuses a line. -/
def reply (loop : Loop σ) (id : ClientId) : List Message → Loop σ
  | [] => loop
  | message :: rest =>
    match loop.clients.send id message.line.wire with
    | .ok clients => { loop with clients }.reply id rest
    | .error _ => loop.remove id

/-- Carries out the frames of a client, and then disconnects it if they end in a violation.
Nothing is done any more for a client that is disconnected on the way. -/
def serve (orchestrator : Orchestrator σ) (config : Config) (id : ClientId)
    (violation : Option FrameError) (loop : Loop σ) : List String → Loop σ
  | [] => if violation.isSome then loop.remove id else loop
  | frame :: rest =>
    if loop.clients.contains id then
      match dispatch orchestrator config frame loop.host with
      | (.ok outcome, host) =>
        (({ loop with host }.broadcast outcome.events).reply id outcome.replies).serve
          orchestrator config id violation rest
      | (.error _, host) => { loop with host }.remove id
    else loop

/-- Takes in bytes of a client. -/
def receive (orchestrator : Orchestrator σ) (config : Config) (id : ClientId)
    (bytes : List UInt8) (loop : Loop σ) : Loop σ :=
  let (fed, clients) := loop.clients.feed id bytes
  { loop with clients }.serve orchestrator config id fed.error fed.frames

/-- Takes over what is mounted at the moment, if that is known. -/
def reconcile (orchestrator : Orchestrator σ) (loop : Loop σ) : List Notification × Loop σ :=
  match loop.host.reconcile orchestrator with
  | (.ok events, host) => (events, { loop with host })
  | (.error _, host) => ([], { loop with host })

/-- Looks at the mount table and tells of what changed. -/
def poll (orchestrator : Orchestrator σ) (loop : Loop σ) : Loop σ :=
  let (events, loop) := loop.reconcile orchestrator
  loop.broadcast events

/-- What the items of the monitor do to the tree, up to the mark of the end, and whether that was
met. -/
def applyItems (tree : Tree) : List Monitor.Item → Tree × List Notification × Bool
  | [] => (tree, [], false)
  | .exit :: _ => (tree, [], true)
  | .news event :: rest =>
    let (tree, first) := tree.apply event.record event.action
    let (tree, events, ended) := applyItems tree rest
    (tree, first ++ events, ended)

/-- Takes over a batch of the monitor's items, and tells whether the monitor has ended. -/
def observe (orchestrator : Orchestrator σ) (items : List Monitor.Item) (loop : Loop σ) :
    Bool × Loop σ :=
  let (tree, events, ended) := applyItems loop.host.tree items
  let loop := { loop with host := { loop.host with tree } }
  if ended then (true, loop.broadcast events)
  else
    let (drift, loop) := loop.reconcile orchestrator
    (false, loop.broadcast (events ++ drift))

/-- The loop of a daemon that finds devices present when it starts. -/
def seeded (orchestrator : Orchestrator σ) (files : FileTree) (mounts : σ)
    (present : List Device.Record) : Loop σ :=
  let tree := present.foldl (fun tree record => (tree.apply record .add).1) Tree.empty
  (Loop.reconcile orchestrator ⟨⟨tree, files, mounts⟩, .empty⟩).2

end Loop

end RemovableMedia.Server
