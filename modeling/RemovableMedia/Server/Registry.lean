import RemovableMedia.Server.Frame

/-!
# Connected clients

Every accepted client has a number that is never given again, the bytes of its next frame, and a
queue of lines that wait to be written.  A queue holds a limited number of lines, and takes none
once its writer is gone; a line that a queue refuses is never written.  The system numbers sockets
anew once they are closed, so the socket of a client that is not yet removed can come again; then
it is refused.
-/

set_option autoImplicit false

namespace RemovableMedia.Server

/-- The number of a client. -/
abbrev ClientId := Nat

/-- The name of a client. -/
def clientName (id : ClientId) : String :=
  s!"client-{id}"

/-- Why a client cannot be taken in, or a line cannot be put on its queue. -/
inductive ClientError where
  /-- The socket of a new client is still that of another one. -/
  | duplicate (socket : Nat)
  | notFound (id : ClientId)
  | queueFull (id : ClientId)
  | closed (id : ClientId)
deriving DecidableEq, Repr

/-- How a refusal is worded. -/
def ClientError.message : ClientError → String
  | .duplicate socket => s!"socket fd {socket} is already registered"
  | .notFound id => "unknown client " ++ clientName id
  | .queueFull id => s!"outbound queue of {clientName id} is full"
  | .closed id => s!"connection of {clientName id} is closed"

/-- The number of lines that a queue holds. -/
def queueLimit : Nat := 1024

/-- A connected client. -/
structure Client where
  id : ClientId
  /-- The system's number of its socket. -/
  socket : Nat
  frames : FrameBuffer
  /-- The lines that wait to be written. -/
  queue : List String
  /-- Whether the writer is still there. -/
  hasWriter : Bool
deriving DecidableEq, Repr

namespace Client

/-- A client that was just accepted on a socket. -/
def accepted (id : ClientId) (socket : Nat) : Client :=
  ⟨id, socket, .empty, [], true⟩

/-- The client with one more line on its queue. -/
def send (client : Client) (line : String) : Except ClientError Client :=
  if !client.hasWriter then .error (.closed client.id)
  else if queueLimit ≤ client.queue.length then .error (.queueFull client.id)
  else .ok { client with queue := client.queue ++ [line] }

/-- The client with one more line on its queue, if that takes it. -/
def offered (client : Client) (line : String) : Client :=
  match client.send line with
  | .ok client => client
  | .error _ => client

/-- Whether the queue does not take a line. -/
def refuses (client : Client) (line : String) : Bool :=
  match client.send line with
  | .ok _ => false
  | .error _ => true

end Client

/-- All connected clients in the order in which they were accepted. -/
structure Registry where
  clients : List Client
  /-- The number of the next client. -/
  nextId : ClientId
deriving DecidableEq, Repr

namespace Registry

/-- Nobody is connected. -/
def empty : Registry := ⟨[], 0⟩

/-- The numbers of all clients. -/
def ids (registry : Registry) : List ClientId :=
  registry.clients.map Client.id

/-- The client of a number. -/
def find? (registry : Registry) (id : ClientId) : Option Client :=
  registry.clients.find? fun client => client.id == id

/-- Whether a client is connected. -/
def contains (registry : Registry) (id : ClientId) : Bool :=
  (registry.find? id).isSome

/-- The registry with one of its clients changed. -/
def replace (registry : Registry) (client : Client) : Registry :=
  { registry with
    clients := registry.clients.map fun other => if other.id = client.id then client else other }

/-- Whether a socket is that of a client. -/
def hasSocket (registry : Registry) (socket : Nat) : Bool :=
  registry.clients.any fun client => client.socket == socket

/-- The registry with a new client. -/
def enroll (registry : Registry) (socket : Nat) : ClientId × Registry :=
  (registry.nextId,
    ⟨registry.clients ++ [.accepted registry.nextId socket], registry.nextId + 1⟩)

/-- Takes in a client on a socket, unless that is still registered. -/
def register (registry : Registry) (socket : Nat) : Except ClientError (ClientId × Registry) :=
  if registry.hasSocket socket then .error (.duplicate socket)
  else .ok (registry.enroll socket)

/-- A socket that no client has. -/
def freeSocket (registry : Registry) : Nat :=
  registry.clients.foldr (fun client free => max (client.socket + 1) free) 0

/-- Takes in a client on a socket that no other one has. -/
def accept (registry : Registry) : ClientId × Registry :=
  registry.enroll registry.freeSocket

/-- Takes in bytes of a client and takes out the frames that are now complete. -/
def feed (registry : Registry) (id : ClientId) (bytes : List UInt8) : Fed × Registry :=
  match registry.find? id with
  | none => (⟨[], none⟩, registry)
  | some client =>
    let (fed, frames) := client.frames.feed bytes
    (fed, registry.replace { client with frames })

/-- Puts a line on the queue of a client. -/
def send (registry : Registry) (id : ClientId) (line : String) : Except ClientError Registry :=
  match registry.find? id with
  | none => .error (.notFound id)
  | some client =>
    match client.send line with
    | .ok client => .ok (registry.replace client)
    | .error e => .error e

/-- Puts a line on the queue of every client, and tells whose queue refused it. -/
def broadcast (registry : Registry) (line : String) : List ClientId × Registry :=
  ((registry.clients.filter fun client => client.refuses line).map Client.id,
    { registry with clients := registry.clients.map fun client => client.offered line })

/-- The registry without a client.  Lines that wait to be written to it are dropped. -/
def remove (registry : Registry) (id : ClientId) : Registry :=
  { registry with clients := registry.clients.filter fun client => client.id ≠ id }

/-- The registry without some clients. -/
def removeAll (registry : Registry) (ids : List ClientId) : Registry :=
  ids.foldl remove registry

/-- The registry without clients. -/
def clear (registry : Registry) : Registry :=
  { registry with clients := [] }

/-- Puts a line on the queue of a client a number of times, up to the first refusal. -/
def sendTimes (registry : Registry) (id : ClientId) (line : String) :
    Nat → Nat × Option ClientError × Registry
  | 0 => (0, none, registry)
  | times + 1 =>
    match registry.send id line with
    | .error e => (0, some e, registry)
    | .ok registry =>
      let (queued, refusal, registry) := registry.sendTimes id line times
      (queued + 1, refusal, registry)

/-- Puts a line on the queue of every client a number of times, and tells whose queue refused the
last one. -/
def broadcastTimes (registry : Registry) (line : String) : Nat → List ClientId × Registry
  | 0 => ([], registry)
  | 1 => registry.broadcast line
  | times + 1 => (registry.broadcast line).2.broadcastTimes line times

end Registry

end RemovableMedia.Server
