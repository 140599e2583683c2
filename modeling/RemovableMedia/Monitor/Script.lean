import RemovableMedia.Device.Event
import RemovableMedia.Files.OsError

/-!
# Scripted sources

A source of events whose other end is in somebody's hand.  Events wait in line, and beside them
signals, one for each event and one for each noise.  Each read takes one signal and the first
event, if there is one, so a noise may bring a later event early.  When the other end is closed,
the source reports that as soon as no signal is left.
-/

set_option autoImplicit false

namespace RemovableMedia.Monitor

/-- A scripted source. -/
structure Script where
  /-- The devices that are present at first. -/
  initial : List Device.Record
  /-- Why the next attempts to list the devices fail. -/
  faults : List String
  events : List Device.Event
  signals : Nat
  /-- Whether the other end is still open. -/
  isOpen : Bool
  /-- Whether all reads fail from now on. -/
  isBroken : Bool
deriving DecidableEq, Repr

/-- Why something cannot be handed to a source. -/
inductive PushError where
  | closed
  /-- Nobody has the source any more. -/
  | dropped
  /-- Nobody has the source any more, as the operating system reports it. -/
  | refused (reason : OsError)
deriving DecidableEq, Repr

/-- How a failure is worded. -/
def PushError.message : PushError → String
  | .closed => "handle closed"
  | .dropped => "backend dropped"
  | .refused reason => reason.message

namespace Script

/-- A source with devices that are present at first. -/
def start (initial : List Device.Record) (faults : List String) : Script :=
  ⟨initial, faults, [], 0, true, false⟩

/-- Lists the devices that are present. -/
def enumerate (script : Script) : Except Device.SourceError (List Device.Record) × Script :=
  match script.faults with
  | reason :: faults => (.error (.enumerate reason), { script with faults })
  | [] => (.ok script.initial, { script with initial := [] })

/-- Whether a read would not wait. -/
def isReady (script : Script) : Bool :=
  0 < script.signals || !script.isOpen || script.isBroken

/-- Reads what is ready. -/
def next (script : Script) : Except Device.SourceError (Option Device.Event) × Script :=
  if script.isBroken then (.error (.read "read failed"), script)
  else
    match script.signals with
    | 0 => (.error .closed, script)
    | signals + 1 =>
      (.ok script.events.head?, { script with signals, events := script.events.drop 1 })

/-- Adds a signal. -/
def wake (script : Script) : Except PushError Unit × Script :=
  if script.isOpen then (.ok (), { script with signals := script.signals + 1 })
  else (.error .closed, script)

/-- Adds an event and its signal.  The event stays in line also when there is no signal for it. -/
def push (script : Script) (event : Device.Event) : Except PushError Unit × Script :=
  { script with events := script.events ++ [event] }.wake

/-- Closes the other end. -/
def close (script : Script) : Script :=
  { script with isOpen := false }

/-- Makes all reads fail from now on. -/
def fail (script : Script) : Script :=
  { script with isBroken := true }

end Script

end RemovableMedia.Monitor
