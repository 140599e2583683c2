/-!
# Polling the mount table

Where the system cannot tell that the mount table changed, the daemon looks at it after every
period.  A look that comes late does not make the following ones come closer together, unless it
is late by no more than the tolerance.  Times are in milliseconds.
-/

set_option autoImplicit false

namespace RemovableMedia.Mount

/-- When to look at the mount table next. -/
structure Poller where
  period : Nat
  deadline : Nat
deriving DecidableEq, Repr

namespace Poller

/-- The period where no other is stated. -/
def usualPeriod : Nat := 2000

/-- The delay that is not counted as late. -/
def tolerance : Nat := 5

/-- Polling that begins at a time. -/
def start (period now : Nat) : Poller :=
  ⟨period, now + period⟩

/-- The time at which somebody who waits since the given time is woken, and when to look after
that. -/
def wake (poller : Poller) (now : Nat) : Nat × Poller :=
  let woken := max now poller.deadline
  let base := if poller.deadline + tolerance < woken then woken else poller.deadline
  (woken, { poller with deadline := base + poller.period })

/-- The times at which somebody is woken who waits again and again, and is busy for a while after
each time. -/
def wakes (poller : Poller) (busy : Nat) : Nat → Nat → List Nat
  | _, 0 => []
  | now, count + 1 =>
    let (woken, poller) := poller.wake now
    woken :: poller.wakes busy (woken + busy) count

end Poller

end RemovableMedia.Mount
