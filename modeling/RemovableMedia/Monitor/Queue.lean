import RemovableMedia.Device.Event

/-!
# Monitor queues

Every consumer of the monitor has a queue of its own, on which it finds all news from its
registration on, in order, and in the end the mark that there will be no more.  The number of a
queue is never given again.
-/

set_option autoImplicit false

namespace RemovableMedia.Monitor

/-- What a consumer finds on its queue. -/
inductive Item where
  | news (event : Device.Event)
  /-- The source failed and there will be no more news. -/
  | exit
deriving DecidableEq, Repr

/-- A consumer's queue. -/
structure Queue where
  id : Nat
  items : List Item
deriving DecidableEq, Repr

/-- The queues of all consumers. -/
structure Queues where
  queues : List Queue
  /-- The number of the next queue. -/
  nextId : Nat
deriving DecidableEq, Repr

namespace Queues

/-- No consumers. -/
def empty : Queues := ⟨[], 0⟩

/-- A new queue. -/
def register (queues : Queues) : Nat × Queues :=
  (queues.nextId, ⟨queues.queues ++ [⟨queues.nextId, []⟩], queues.nextId + 1⟩)

/-- The queues without one, whose items are dropped. -/
def unregister (queues : Queues) (id : Nat) : Queues :=
  { queues with queues := queues.queues.filter fun queue => queue.id ≠ id }

/-- What is on a queue. -/
def pending (queues : Queues) (id : Nat) : List Item :=
  ((queues.queues.find? fun queue => queue.id == id).map Queue.items).getD []

/-- Puts an item on every queue. -/
def fanOut (queues : Queues) (item : Item) : Queues :=
  { queues with
    queues := queues.queues.map fun queue => { queue with items := queue.items ++ [item] } }

/-- The queues with other items on one of them. -/
def setPending (queues : Queues) (id : Nat) (items : List Item) : Queues :=
  { queues with
    queues := queues.queues.map fun queue =>
      if queue.id = id then { queue with items } else queue }

/-- Takes the first item from a queue. -/
def pop (queues : Queues) (id : Nat) : Option Item × Queues :=
  match queues.pending id with
  | [] => (none, queues)
  | item :: rest => (some item, queues.setPending id rest)

/-- Takes all items from a queue. -/
def drain (queues : Queues) (id : Nat) : List Item × Queues :=
  (queues.pending id, queues.setPending id [])

end Queues

end RemovableMedia.Monitor
