import RemovableMedia.Server.Registry
import RemovableMedia.Text.Split

/-!
# The far ends of connections

What clients see of their connections: the lines that are written to them, and the end.  A
connection's bytes arrive in pieces.  A writer takes everything that waits on a queue at once; when
nobody is there to read it, the writer ends.
-/

set_option autoImplicit false

namespace RemovableMedia.Server

/-- The far end of the connection of a client. -/
structure Peer where
  /-- What arrived since somebody looked. -/
  received : String
  hasHungUp : Bool
deriving DecidableEq, Repr

/-- What a connection reports. -/
inductive ClientEvent where
  | data (id : ClientId) (bytes : List UInt8)
  | closed (id : ClientId)
deriving DecidableEq, Repr

/-- The greatest number of bytes that are read at once. -/
def pieceSize : Nat := 1024

/-- The pieces in which bytes are read. -/
def pieces : List UInt8 → List (List UInt8)
  | [] => []
  | b :: rest => (b :: rest.take (pieceSize - 1)) :: pieces (rest.drop (pieceSize - 1))
termination_by bytes => bytes.length
decreasing_by
  simp only [List.length_drop, List.length_cons]
  omega

namespace Peer

/-- The far end of a new connection. -/
def connected : Peer := ⟨"", false⟩

/-- The far end of a connection to which something was written. -/
def receive (peer : Peer) (text : String) : Peer :=
  { peer with received := peer.received ++ text }

/-- The lines that arrived; the last one may be unfinished. -/
def lines (peer : Peer) : List String :=
  let parts := Text.splitString '\n' peer.received
  if parts.getLast? = some "" then parts.dropLast else parts

end Peer

/-- The far ends of all connections ever made, each at the place that its client's number
names. -/
abbrev Peers := List Peer

namespace Peers

/-- Whether nobody is at the far end of a connection any more. -/
def hasHungUp (peers : Peers) (id : ClientId) : Bool :=
  match peers[id]? with
  | some peer => peer.hasHungUp
  | none => true

/-- Whether a connection is open at its far end: neither side has ended it. -/
def isOpen (peers : Peers) (registry : Registry) (id : ClientId) : Bool :=
  registry.contains id && !hasHungUp peers id

/-- The far ends after everything that arrived was looked at. -/
def forget (peers : Peers) : Peers :=
  peers.map fun peer => { peer with received := "" }

/-- What a connection reports of bytes that its far end writes, and whether all of them can be
written. -/
def write (peers : Peers) (registry : Registry) (id : ClientId) (bytes : List UInt8) :
    Bool × List ClientEvent :=
  if isOpen peers registry id then (true, (pieces bytes).map (.data id))
  else (bytes.isEmpty && !hasHungUp peers id, [])

/-- What a connection reports when its far end hangs up. -/
def hangUp (peers : Peers) (registry : Registry) (id : ClientId) : List ClientEvent × Peers :=
  (if isOpen peers registry id then [.closed id] else [],
    List.modify peers id fun peer => { peer with hasHungUp := true })

/-- The client after its writer took what waits, if it is still there. -/
def drained (peers : Peers) (client : Client) : Client :=
  let isLost := hasHungUp peers client.id && client.queue.any fun line => line != ""
  { client with queue := [], hasWriter := client.hasWriter && !isLost }

/-- What the far end of a client's connection has received after its writer wrote what waits. -/
def written (peers : Peers) (client : Client) : Peers :=
  List.modify peers client.id fun peer =>
    if peer.hasHungUp then peer else peer.receive (String.join client.queue)

/-- Lets all writers write what waits. -/
def flush (peers : Peers) (registry : Registry) : Registry × Peers :=
  ({ registry with clients := registry.clients.map (drained peers) },
    registry.clients.foldl written peers)

end Peers

end RemovableMedia.Server
