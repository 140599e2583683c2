import RemovableMedia.Monitor.Queue
import RemovableMedia.Monitor.Script
import RemovableMedia.Monitor.Shadow

/-!
# The monitor

The monitor stands between a source of events and its consumers.  It is started once; from then
on it reads the source, forwards what is news to every queue, and when the source fails it puts
the mark of the end on every queue and lets the source go.
-/

set_option autoImplicit false

namespace RemovableMedia

/-- How far a monitor has come. -/
inductive Monitor.Phase where
  | idle
  | running
  /-- The source is let go. -/
  | ended
  /-- The monitor itself is let go; only what is on the queues is left. -/
  | gone
deriving DecidableEq, Repr

/-- Whether a monitor still has its source. -/
def Monitor.Phase.hasSource : Monitor.Phase → Bool
  | .idle | .running => true
  | .ended | .gone => false

/-- A monitor with its source and its queues. -/
structure Monitor where
  phase : Monitor.Phase
  source : Monitor.Script
  shadow : Monitor.Shadow
  queues : Monitor.Queues
deriving DecidableEq, Repr

/-- Why a monitor cannot be started. -/
inductive Monitor.StartError where
  | source (cause : Device.SourceError)
  | alreadyStarted
deriving DecidableEq, Repr

namespace Monitor

/-- How a failure is worded. -/
def StartError.message : StartError → String
  | .source cause => "Backend error: " ++ cause.message
  | .alreadyStarted => "Monitor already started"

/-- A monitor that is not started. -/
def create (source : Script) : Monitor :=
  ⟨.idle, source, [], .empty⟩

/-- A new queue. -/
def register (monitor : Monitor) : Nat × Monitor :=
  let (id, queues) := monitor.queues.register
  (id, { monitor with queues })

/-- The monitor without a queue. -/
def unregister (monitor : Monitor) (id : Nat) : Monitor :=
  { monitor with queues := monitor.queues.unregister id }

/-- Takes the first item from a queue. -/
def pop (monitor : Monitor) (id : Nat) : Option Item × Monitor :=
  let (item, queues) := monitor.queues.pop id
  (item, { monitor with queues })

/-- Takes all items from a queue. -/
def drain (monitor : Monitor) (id : Nat) : List Item × Monitor :=
  let (items, queues) := monitor.queues.drain id
  (items, { monitor with queues })

/-- Starts the monitor and returns the devices that are present.  After a failure to list them it
can be tried again. -/
def start (monitor : Monitor) : Except StartError (List Device.Record) × Monitor :=
  match monitor.phase with
  | .idle =>
    match monitor.source.enumerate with
    | (.error cause, source) => (.error (.source cause), { monitor with source })
    | (.ok records, source) =>
      let (admitted, shadow) := monitor.shadow.admitAll records
      (.ok admitted, { monitor with phase := .running, source, shadow })
  | _ => (.error .alreadyStarted, monitor)

/-- Forwards an event if it is news. -/
def observe (monitor : Monitor) (event : Device.Event) : Monitor :=
  match monitor.shadow.accept event with
  | some shadow => { monitor with shadow, queues := monitor.queues.fanOut (.news event) }
  | none => monitor

/-- Tells all consumers that there will be no more news. -/
def exit (monitor : Monitor) : Monitor :=
  { monitor with phase := .ended, queues := monitor.queues.fanOut .exit }

/-- Reads the source once if that does not have to wait. -/
def step (monitor : Monitor) : Monitor :=
  if monitor.phase = .running ∧ monitor.source.isReady then
    match monitor.source.next with
    | (.ok (some event), source) => { monitor with source }.observe event
    | (.ok none, source) => { monitor with source }
    | (.error _, source) => { monitor with source }.exit
  else monitor

/-- Reads the source a number of times. -/
def steps (monitor : Monitor) : Nat → Monitor
  | 0 => monitor
  | count + 1 => monitor.step.steps count

/-- Reads the source until that would have to wait. -/
def settle (monitor : Monitor) : Monitor :=
  monitor.steps (monitor.source.signals + 1)

/-- Stops a running monitor.  Consumers are not told. -/
def stop (monitor : Monitor) : Monitor :=
  if monitor.phase = .running then { monitor with phase := .ended } else monitor

/-- Lets everything go. -/
def drop (monitor : Monitor) : Monitor :=
  { monitor with phase := .gone }

/-- What a consumer sees who asks for the next item without waiting. -/
inductive Reception where
  | item (item : Item)
  | pending
  /-- There is nothing and never will be. -/
  | gone
deriving DecidableEq, Repr

/-- Asks for the next item of a queue. -/
def receive (monitor : Monitor) (id : Nat) : Reception × Monitor :=
  match monitor.pop id with
  | (some item, monitor) => (.item item, monitor)
  | (none, monitor) => (if monitor.phase = .gone then .gone else .pending, monitor)

/-- Hands an event to the source. -/
def push (monitor : Monitor) (event : Device.Event) : Except PushError Unit × Monitor :=
  if !monitor.phase.hasSource then (.error .dropped, monitor)
  else
    let (outcome, source) := monitor.source.push event
    (outcome, { monitor with source })

/-- Wakes the source without an event. -/
def noise (monitor : Monitor) : Except PushError Unit × Monitor :=
  if !monitor.phase.hasSource && monitor.source.isOpen then
    (.error (.refused .brokenPipe), monitor)
  else
    let (outcome, source) := monitor.source.wake
    (outcome, { monitor with source })

/-- Closes the other end of the source. -/
def close (monitor : Monitor) : Monitor :=
  { monitor with source := monitor.source.close }

/-- Makes all reads of the source fail. -/
def fail (monitor : Monitor) : Monitor :=
  { monitor with source := monitor.source.fail }

end Monitor

end RemovableMedia
