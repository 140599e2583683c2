import RemovableMedia.Proofs.Monitor.Script

/-!
# Handing events over

A push has two parts, and so has a look at the source: the event is put in line and then its signal is
given, and a signal is taken and then an event is looked for.  Whatever both sides do in between, it is
as if a push were done at once when its event is put in line, and a look when the event is looked for
(`Underway.whole_advance`).  So what holds of operations one after another holds of every interleaving
of their parts (`accepted_events_come_once`).
-/

set_option autoImplicit false

namespace RemovableMedia.Monitor.Script

open RemovableMedia.Device (Event SourceError)

/-- A part of an operation. -/
inductive Part where
  /-- A push puts its event in line. -/
  | lined (event : Event)
  /-- A push that has put its event in line gives the signal. -/
  | signalled
  | noised
  | closed
  /-- A reader takes a signal, or finds that there will be none. -/
  | taken
  /-- A reader that has taken a signal looks for an event. -/
  | looked
deriving DecidableEq, Repr

/-- The parts of an operation. -/
def Operation.parts : Operation → List Part
  | .push event => [.lined event, .signalled]
  | .noise => [.noised]
  | .close => [.closed]
  | .next => [.taken, .looked]

/-- A source in the midst of operations. -/
structure Underway where
  history : History
  /-- The events of pushes that have not given their signal yet. -/
  pushes : List Event
  /-- Whether a reader has taken a signal and not looked for an event yet. -/
  isReading : Bool
deriving DecidableEq, Repr

namespace Underway

/-- A source at which nothing is going on. -/
def atRest (history : History) : Underway :=
  ⟨history, [], false⟩

/-- Carries out a part of an operation.  A part whose turn it is not changes nothing; in particular the
other end is not closed while a push is going on there.  Signals are alike, so the pushes may give
theirs in order. -/
def advance (now : Underway) : Part → Underway
  | .lined event =>
    let script := now.history.script
    { now with
      history := { now.history with script := { script with events := script.events ++ [event] } }
      pushes := now.pushes ++ [event] }
  | .signalled =>
    match now.pushes with
    | [] => now
    | event :: pushes =>
      { now with history := now.history.pushed event now.history.script.wake, pushes }
  | .noised => { now with history := now.history.operate .noise }
  | .closed =>
    match now.pushes with
    | [] => { now with history := now.history.operate .close }
    | _ :: _ => now
  | .taken =>
    if now.isReading then now
    else
      match now.history.script.signals with
      | 0 => { now with history := now.history.operate .next }
      | signals + 1 =>
        { now with
          history := { now.history with script := { now.history.script with signals } }
          isReading := true }
  | .looked =>
    let script := now.history.script
    if now.isReading then
      { now with
        history := now.history.answered { script with events := script.events.drop 1 }
          (.ok script.events.head?)
        isReading := false }
    else now

/-- Carries out parts one after another. -/
def run (now : Underway) (parts : List Part) : Underway :=
  parts.foldl advance now

/-- The events of pushes that will succeed. -/
def accepting (now : Underway) : List Event :=
  if now.history.script.isOpen then now.pushes else []

/-- The events of pushes that will fail. -/
def refusing (now : Underway) : List Event :=
  if now.history.script.isOpen then [] else now.pushes

/-- The history as if the pushes that are going on were done, and as if the reader had not begun. -/
def whole (now : Underway) : History :=
  { now.history with
    script := { now.history.script with
      signals := now.history.script.signals + now.accepting.length + now.isReading.toNat }
    accepted := now.history.accepted ++ now.accepting
    refused := now.history.refused ++ now.refusing }

/-- The operations that are taken as done with a part. -/
def done (now : Underway) : Part → List Operation
  | .lined event => [.push event]
  | .signalled => []
  | .noised => [.noise]
  | .closed => if now.pushes = [] then [.close] else []
  | .taken =>
    if !now.isReading && now.history.script.signals == 0 && !now.history.script.isOpen then [.next]
    else []
  | .looked => if now.isReading then [.next] else []

variable {now : Underway} {history : History}

/-- While the other end is open, all pushes that are going on will succeed. -/
theorem whole_of_open (h : now.history.script.isOpen = true) :
    now.whole = { now.history with
      script := { now.history.script with
        signals := now.history.script.signals + now.pushes.length + now.isReading.toNat }
      accepted := now.history.accepted ++ now.pushes } := by
  simp [whole, accepting, refusing, h]

/-- Once the other end is closed, all pushes that are going on will fail. -/
theorem whole_of_closed (h : now.history.script.isOpen = false) :
    now.whole = { now.history with
      script := { now.history.script with
        signals := now.history.script.signals + now.isReading.toNat }
      refused := now.history.refused ++ now.pushes } := by
  simp [whole, accepting, refusing, h]

/-- Without a push going on, the whole differs by the reader's signal only. -/
theorem whole_of_no_pushes (h : now.pushes = []) :
    now.whole = { now.history with
      script := { now.history.script with
        signals := now.history.script.signals + now.isReading.toNat } } := by
  simp [whole, accepting, refusing, h]

/-- Where nothing is going on, the whole is the history. -/
theorem whole_atRest : (atRest history).whole = history :=
  whole_of_no_pushes rfl

/-- A part does to the whole what is taken as done with it. -/
theorem whole_advance (hworks : now.history.script.isBroken = false) (part : Part) :
    (now.advance part).whole = now.whole.run (now.done part) := by
  cases part with
  | lined event =>
    cases hopen : now.history.script.isOpen
    · simp [advance, done, whole_of_closed, hopen, History.run, History.operate_push_of_closed]
    · simp [advance, done, whole_of_open, hopen, History.run, History.operate_push_of_open,
        Nat.add_assoc, Nat.add_comm 1]
  -- the whole counts a push as done since it put its event in line, so its signal adds nothing
  | signalled =>
    cases hpushes : now.pushes with
    | nil => simp [advance, done, History.run, hpushes]
    | cons event rest =>
      cases hopen : now.history.script.isOpen
      · simp [advance, done, whole_of_closed, hopen, hpushes, History.run, History.pushed, wake]
      · simp [advance, done, whole_of_open, hopen, hpushes, History.run, History.pushed, wake,
          Nat.add_assoc, Nat.add_comm 1]
  | noised =>
    cases hopen : now.history.script.isOpen
    · simp [advance, done, whole_of_closed, hopen, History.run, History.operate_noise_of_closed]
    · simp [advance, done, whole_of_open, hopen, History.run, History.operate_noise_of_open,
        Nat.add_right_comm]
  | closed =>
    cases hpushes : now.pushes with
    | nil =>
      simp [advance, done, whole_of_no_pushes, hpushes, History.run, History.operate, close]
    | cons event rest => simp [advance, done, History.run, hpushes]
  | taken =>
    cases hreading : now.isReading with
    | true => simp [advance, done, History.run, hreading]
    | false =>
      cases hsignals : now.history.script.signals with
      | zero =>
        cases hopen : now.history.script.isOpen
        · simp [advance, done, whole_of_closed, hreading, hsignals, hopen, hworks, History.run,
            History.operate_next_of_no_signal, History.answered]
        · -- the reader waits, even while a push is about to give its signal
          simp [advance, done, whole_of_open, hreading, hsignals, hopen, hworks, History.run,
            History.operate_next_of_no_signal]
      | succ signals =>
        simp [advance, done, whole, accepting, refusing, hreading, hsignals, History.run,
          Nat.add_right_comm]
  -- the read takes effect here, and the signal that was taken before counts until then
  | looked =>
    cases hreading : now.isReading with
    | false => simp [advance, done, History.run, hreading]
    | true =>
      simp [advance, done, whole, accepting, refusing, hreading, hworks, History.run,
        History.operate_next_of_signal, History.answered]

/-- Whatever parts are carried out, the whole is what some operations one after another make. -/
theorem exists_operations (h : now.whole.Sound) (parts : List Part) :
    ∃ operations, (now.run parts).whole = now.whole.run operations := by
  induction parts generalizing now with
  | nil => exact ⟨[], rfl⟩
  | cons part rest ih =>
    have hadvance := whole_advance h.works part
    have hsound : (now.advance part).whole.Sound := by
      rw [hadvance]
      exact h.run _
    obtain ⟨operations, hrest⟩ := ih hsound
    refine ⟨now.done part ++ operations, ?_⟩
    rw [History.run_append, ← hadvance]
    exact hrest

/-- Parts of one operation after another make the operation. -/
theorem run_parts (h : history.Sound) (operation : Operation) :
    (atRest history).run operation.parts = atRest (history.operate operation) := by
  cases operation with
  | push event => rfl
  | noise => rfl
  | close => rfl
  | next =>
    cases hsignals : history.script.signals with
    | zero => simp [run, Operation.parts, advance, atRest, hsignals]
    | succ signals =>
      simp [run, Operation.parts, advance, atRest, hsignals, h.works,
        History.operate_next_of_signal, History.answered]

/-- Operations whose parts are carried out without a break are the operations. -/
theorem run_flatMap_parts (h : history.Sound) (operations : List Operation) :
    (atRest history).run (operations.flatMap Operation.parts) =
      atRest (history.run operations) := by
  induction operations generalizing history with
  | nil => rfl
  | cons operation rest ih =>
    have hrest := ih (h.operate operation)
    rw [← run_parts h operation] at hrest
    rw [List.flatMap_cons, run, List.foldl_append]
    exact hrest

end Underway

/-! ## The two sides -/

variable (initial : List Device.Record) (faults : List String)

/-- Whatever is done with a source, the events that a reader was given and those that are left are the
accepted ones and then the refused ones, in their order and each of them once, and an event is refused
only after the end was closed.  As long as an accepted event is left, a reader gets the first one
without waiting.  So the end, which is the only failure, is reported after it was closed and all
accepted events were given.  There are not more empty answers than noises.  Without the noises a reader
gets the same, except that it has to wait or gets the end where it got nothing, just if it is not given
a refused event, and so whenever there is none.  All this holds also when the parts of operations come
in between each other: operations are carried out part by part, and whatever parts are carried out, the
result is that of some operations. -/
theorem accepted_events_come_once :
    (∀ operations : List Operation,
      let history := (History.start initial faults).run operations
      let quiet := (History.start initial faults).run (operations.filter (· ≠ .noise))
      history.returned ++ history.script.events = history.accepted ++ history.refused ∧
      (history.refused ≠ [] → .close ∈ operations) ∧
      (∀ event rest, history.accepted = history.returned ++ event :: rest →
        history.script.reading? = some (.ok (some event))) ∧
      (∀ reason, history.script.reading? = some (.error reason) →
        reason = .closed ∧ .close ∈ operations ∧ history.accepted <+: history.returned) ∧
      history.empties ≤ history.noises ∧
      ((history.script.reading? = quiet.script.reading? ∨
          history.script.reading? = some (.ok none)) ↔
        ∀ event, history.script.reading? = some (.ok (some event)) →
          history.returned ++ [event] <+: history.accepted) ∧
      (history.refused = [] → history.script.reading? = quiet.script.reading? ∨
        history.script.reading? = some (.ok none))) ∧
    (∀ operations : List Operation,
      (Underway.atRest (.start initial faults)).run (operations.flatMap Operation.parts) =
        Underway.atRest ((History.start initial faults).run operations)) ∧
    ∀ parts : List Part, ∃ operations,
      ((Underway.atRest (.start initial faults)).run parts).whole =
        (History.start initial faults).run operations := by
  have hfresh : (History.start initial faults).Sound := History.sound_start initial faults
  refine ⟨?_, Underway.run_flatMap_parts hfresh, ?_⟩
  · intro operations history quiet
    have hsound : history.Sound := hfresh.run operations
    have hsteps : history.InStep quiet := (History.inStep_start initial faults).run operations
    have hclosed : history.script.isOpen = false → .close ∈ operations := by
      intro hopen
      by_contra hnever
      have hstill : history.script.isOpen = true := History.isOpen_run.2 ⟨rfl, hnever⟩
      rw [hopen] at hstill
      cases hstill
    refine ⟨hsound.in_order, ?_, ?_, ?_, hsound.empties_le_noises, hsteps.reading?_eq_or_iff,
      hsteps.reading?_eq_or_of_nil⟩
    · intro hrefused
      refine hclosed (Bool.eq_false_iff.2 fun hopen => ?_)
      exact hrefused (hsound.refused_closed hopen)
    · intro event rest hleft
      exact hsound.reading?_of_accepted hleft
    · intro reason hreading
      obtain ⟨hreason, hopen, hall⟩ := hsound.of_reading?_error hreading
      exact ⟨hreason, hclosed hopen, hall⟩
  · intro parts
    have hrest : (Underway.atRest (.start initial faults)).whole = .start initial faults :=
      Underway.whole_atRest
    have hsound : (Underway.atRest (.start initial faults)).whole.Sound := by rwa [hrest]
    obtain ⟨operations, hwhole⟩ := Underway.exists_operations hsound parts
    rw [hrest] at hwhole
    exact ⟨operations, hwhole⟩

/-- The signal of a noise brings the first of two events, and the signals of both events are left for
the second one and for nothing, before the end. -/
theorem accepted_events_come_once_of_stick :
    let operations : List Operation := [.noise, .push ⟨.add, .usbStick⟩, .next,
      .push ⟨.online, .usbPartition⟩, .close]
    let history := (History.start [] []).run operations
    let later := (History.start [] []).run (operations ++ [.next, .next])
    history.returned = [⟨.add, .usbStick⟩] ∧
      history.script.reading? = some (.ok (some ⟨.online, .usbPartition⟩)) ∧
      later.answers = [.ok (some ⟨.add, .usbStick⟩), .ok (some ⟨.online, .usbPartition⟩), .ok none] ∧
      later.script.reading? = some (.error .closed) ∧ later.accepted <+: later.returned := by
  intro operations history later
  have hreturned : history.returned = [⟨.add, .usbStick⟩] := by decide +kernel
  have haccepted : history.accepted = history.returned ++ ⟨.online, .usbPartition⟩ :: [] := by
    decide +kernel
  have hanswers : later.answers =
      [.ok (some ⟨.add, .usbStick⟩), .ok (some ⟨.online, .usbPartition⟩), .ok none] := by
    decide +kernel
  have hend : later.script.reading? = some (.error .closed) := by decide +kernel
  obtain ⟨-, -, hnext, -⟩ := (accepted_events_come_once [] []).1 operations
  obtain ⟨-, -, -, hfailed, -⟩ := (accepted_events_come_once [] []).1 (operations ++ [.next, .next])
  exact ⟨hreturned, hnext _ _ haccepted, hanswers, hend, (hfailed _ hend).2.2⟩

/-- A push after the end was closed fails, but the signal of a noise brings its event to the reader.
Without the noise the reader gets the end. -/
theorem refused_event_is_returned :
    let operations : List Operation := [.noise, .close, .push ⟨.add, .usbStick⟩]
    let history := (History.start [] []).run operations
    let quiet := (History.start [] []).run (operations.filter (· ≠ .noise))
    history.accepted = [] ∧ history.refused = [⟨.add, .usbStick⟩] ∧
      history.script.reading? = some (.ok (some ⟨.add, .usbStick⟩)) ∧
      quiet.script.reading? = some (.error .closed) ∧
      ¬(history.script.reading? = quiet.script.reading? ∨
        history.script.reading? = some (.ok none)) := by
  decide +kernel

end RemovableMedia.Monitor.Script
