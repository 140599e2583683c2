import Mathlib.Data.List.Infix
import RemovableMedia.Monitor.Script
import RemovableMedia.Proofs.Device.Record

/-!
# What comes out of a scripted source

Events and signals go different ways, and as soon as there is a noise a reader no longer takes an
event with its own signal.  Nothing is lost all the same, because there are never fewer signals left
than events that were accepted and not yet returned (`History.Sound.covered`).  So the next accepted
event is what a reader gets (`History.Sound.reading?_of_accepted`), and the end is reported only when
there is none (`History.Sound.of_reading?_error`).

What noise changes is seen from the same operations without it (`History.InStep`).  An event whose push
failed stays in line all the same, so a signal of a noise that is left when the end is closed can bring
it to the reader, and this is the only harm that noise does (`History.InStep.reading?_eq_or_iff`).
-/

set_option autoImplicit false

namespace RemovableMedia.Monitor.Script

open RemovableMedia.Device (Event SourceError)

/-- What a source answers to a reader. -/
abbrev Answer : Type :=
  Except SourceError (Option Event)

/-! ## Reading -/

/-- What a reader gets, unless it would have to wait. -/
def reading? (script : Script) : Option Answer :=
  if script.isReady then some script.next.1 else none

variable {script : Script}

/-- With a signal, a reader gets the first event in line, or nothing if there is none. -/
theorem reading?_of_signal (hworks : script.isBroken = false) (hsignal : 0 < script.signals) :
    script.reading? = some (.ok script.events.head?) := by
  obtain ⟨signals, hsignals⟩ := Nat.exists_eq_add_of_lt hsignal
  simp [reading?, isReady, next, hworks, hsignals]

/-- With a signal, a read spends it and takes the first event in line. -/
theorem next_of_signal (hworks : script.isBroken = false) (hsignal : 0 < script.signals) :
    script.next.2 =
      { script with signals := script.signals - 1, events := script.events.drop 1 } := by
  obtain ⟨signals, hsignals⟩ := Nat.exists_eq_add_of_lt hsignal
  simp [next, hworks, hsignals]

/-- Without a signal, a reader waits, or gets the end if the other end is closed. -/
theorem reading?_of_no_signal (hworks : script.isBroken = false) (hsignal : script.signals = 0) :
    script.reading? = if script.isOpen then none else some (.error .closed) := by
  cases hopen : script.isOpen <;> simp [reading?, isReady, next, hworks, hsignal, hopen]

/-- Without a signal, a read changes nothing. -/
theorem next_of_no_signal (hworks : script.isBroken = false) (hsignal : script.signals = 0) :
    script.next.2 = script := by
  simp [next, hworks, hsignal]

/-! ## Operations -/

/-- Something that is done at one of the ends of a source. -/
inductive Operation where
  | push (event : Event)
  | noise
  | close
  | next
deriving DecidableEq, Repr

/-- A source and what has come of the operations on it. -/
structure History where
  script : Script
  /-- The events whose push succeeded. -/
  accepted : List Event
  /-- The events whose push failed. -/
  refused : List Event
  /-- How many noises succeeded. -/
  noises : Nat
  answers : List Answer
deriving DecidableEq, Repr

namespace History

/-- A source to which nothing has been done. -/
def start (initial : List Device.Record) (faults : List String) : History :=
  ⟨.start initial faults, [], [], 0, []⟩

/-- The history after a push with its outcome. -/
def pushed (history : History) (event : Event) : Except PushError Unit × Script → History
  | (.ok (), script) => { history with script, accepted := history.accepted ++ [event] }
  | (.error _, script) => { history with script, refused := history.refused ++ [event] }

/-- The history after an answer to the reader. -/
def answered (history : History) (script : Script) (answer : Answer) : History :=
  { history with script, answers := history.answers ++ [answer] }

/-- Carries out an operation.  A reader that would have to wait changes nothing. -/
def operate (history : History) : Operation → History
  | .push event => history.pushed event (history.script.push event)
  | .noise =>
    match history.script.wake with
    | (.ok (), script) => { history with script, noises := history.noises + 1 }
    | (.error _, script) => { history with script }
  | .close => { history with script := history.script.close }
  | .next =>
    match history.script.reading? with
    | some answer => history.answered history.script.next.2 answer
    | none => history

/-- Carries out operations one after another. -/
def run (history : History) (operations : List Operation) : History :=
  operations.foldl operate history

/-- Operations go on where earlier ones ended. -/
theorem run_append (history : History) (first later : List Operation) :
    history.run (first ++ later) = (history.run first).run later :=
  List.foldl_append

/-- The event in an answer. -/
def event? : Answer → Option Event
  | .ok event => event
  | .error _ => none

/-- The events that the reader was given. -/
def returned (history : History) : List Event :=
  history.answers.filterMap event?

/-- How often the reader was given nothing. -/
def empties (history : History) : Nat :=
  history.answers.count (.ok none)

variable {history quiet : History} {event : Event}

/-- A push to an open source is accepted and adds a signal. -/
theorem operate_push_of_open (h : history.script.isOpen = true) :
    history.operate (.push event) = { history with
      script := { history.script with
        events := history.script.events ++ [event], signals := history.script.signals + 1 }
      accepted := history.accepted ++ [event] } := by
  simp [operate, pushed, push, wake, h]

/-- A push to a closed source is refused, but its event stays in line. -/
theorem operate_push_of_closed (h : history.script.isOpen = false) :
    history.operate (.push event) = { history with
      script := { history.script with events := history.script.events ++ [event] }
      refused := history.refused ++ [event] } := by
  simp [operate, pushed, push, wake, h]

/-- A noise at an open source adds a signal. -/
theorem operate_noise_of_open (h : history.script.isOpen = true) :
    history.operate .noise = { history with
      script := { history.script with signals := history.script.signals + 1 }
      noises := history.noises + 1 } := by
  simp [operate, wake, h]

/-- A noise at a closed source changes nothing. -/
theorem operate_noise_of_closed (h : history.script.isOpen = false) :
    history.operate .noise = history := by
  simp [operate, wake, h]

/-- With a signal, a read is answered with the first event in line. -/
theorem operate_next_of_signal (hworks : history.script.isBroken = false)
    (hsignal : 0 < history.script.signals) :
    history.operate .next = history.answered
      { history.script with
        signals := history.script.signals - 1, events := history.script.events.drop 1 }
      (.ok history.script.events.head?) := by
  simp [operate, reading?_of_signal hworks hsignal, next_of_signal hworks hsignal]

/-- Without a signal, a read is not answered while the source is open. -/
theorem operate_next_of_no_signal (hworks : history.script.isBroken = false)
    (hsignal : history.script.signals = 0) :
    history.operate .next = if history.script.isOpen then history
      else history.answered history.script (.error .closed) := by
  cases hopen : history.script.isOpen <;>
    simp [operate, reading?_of_no_signal hworks hsignal, next_of_no_signal hworks hsignal, hopen]

/-- An answer adds the event that it gives, if any, to those that were returned. -/
theorem returned_answered (answer : Answer) :
    (history.answered script answer).returned = history.returned ++ (event? answer).toList := by
  rw [returned, answered, List.filterMap_append]
  cases h : event? answer <;> simp [returned, h]

/-- An answer that gives an event adds it to those that were returned. -/
theorem returned_given :
    (history.answered script (.ok (some event))).returned = history.returned ++ [event] :=
  returned_answered _

/-- An empty answer returns no event. -/
theorem returned_nothing :
    (history.answered script (.ok none)).returned = history.returned := by
  rw [returned_answered]
  exact List.append_nil _

/-- A failure returns no event. -/
theorem returned_failed {reason : SourceError} :
    (history.answered script (.error reason)).returned = history.returned := by
  rw [returned_answered]
  exact List.append_nil _

/-- An empty answer is counted as one. -/
theorem empties_nothing :
    (history.answered script (.ok none)).empties = history.empties + 1 := by
  rw [empties, answered, List.count_append, List.count_singleton_self]
  rfl

/-- Only an empty answer is counted as one. -/
theorem empties_of_ne {answer : Answer} (h : answer ≠ .ok none) :
    (history.answered script answer).empties = history.empties := by
  rw [empties, answered, List.count_append, List.count_singleton, if_neg (by simpa using h)]
  rfl

/-- Only closing closes a source. -/
theorem isOpen_operate {operation : Operation} :
    (history.operate operation).script.isOpen = true ↔
      history.script.isOpen = true ∧ operation ≠ .close := by
  cases operation with
  | push event =>
    cases h : history.script.isOpen
    · simp [operate_push_of_closed h, h]
    · simp [operate_push_of_open h, h]
  | noise =>
    cases h : history.script.isOpen
    · simp [operate_noise_of_closed h, h]
    · simp [operate_noise_of_open h, h]
  | close => simp [operate, close]
  | next =>
    have hkept : history.script.next.2.isOpen = history.script.isOpen := by
      unfold Script.next
      split
      · rfl
      · split <;> rfl
    rw [operate]
    cases history.script.reading? <;> simp [answered, hkept]

/-- A source is open after a run just if it was open and nobody closed it. -/
theorem isOpen_run {operations : List Operation} :
    (history.run operations).script.isOpen = true ↔
      history.script.isOpen = true ∧ .close ∉ operations := by
  induction operations generalizing history with
  | nil => simp [run]
  | cons operation rest ih =>
    have hrest : (history.run (operation :: rest)).script.isOpen = true ↔
        (history.operate operation).script.isOpen = true ∧ .close ∉ rest := ih
    rw [hrest, isOpen_operate, List.mem_cons, not_or, and_assoc, ne_comm]

/-! ## Nothing is lost -/

/-- What holds of every history: the events are returned in their order, and for each of those that
were accepted and not yet returned there is a signal. -/
structure Sound (history : History) : Prop where
  works : history.script.isBroken = false
  in_order : history.returned ++ history.script.events = history.accepted ++ history.refused
  refused_closed : history.script.isOpen = true → history.refused = []
  covered : history.accepted.length ≤ history.returned.length + history.script.signals
  signals_spent : history.returned.length + history.empties + history.script.signals =
    history.accepted.length + history.noises

/-- A source to which nothing has been done is sound. -/
theorem sound_start (initial : List Device.Record) (faults : List String) :
    (start initial faults).Sound :=
  ⟨rfl, rfl, fun _ => rfl, Nat.le_refl 0, rfl⟩

namespace Sound

/-- A push keeps a history sound. -/
theorem push (h : history.Sound) (event : Event) :
    (history.operate (.push event)).Sound := by
  have hcovered := h.covered
  have hspent := h.signals_spent
  cases hopen : history.script.isOpen with
  | true =>
    rw [operate_push_of_open hopen]
    refine ⟨h.works, ?_, h.refused_closed, ?_, ?_⟩
    · have horder := h.in_order
      rw [h.refused_closed hopen, List.append_nil] at horder
      show history.returned ++ (history.script.events ++ [event]) =
        history.accepted ++ [event] ++ history.refused
      rw [h.refused_closed hopen, List.append_nil, ← List.append_assoc, horder]
    · show (history.accepted ++ [event]).length ≤
        history.returned.length + (history.script.signals + 1)
      rw [List.length_append, List.length_singleton]
      omega
    · show history.returned.length + history.empties + (history.script.signals + 1) =
        (history.accepted ++ [event]).length + history.noises
      rw [List.length_append, List.length_singleton]
      omega
  | false =>
    rw [operate_push_of_closed hopen]
    refine ⟨h.works, ?_, ?_, hcovered, hspent⟩
    · show history.returned ++ (history.script.events ++ [event]) =
        history.accepted ++ (history.refused ++ [event])
      rw [← List.append_assoc, h.in_order, List.append_assoc]
    · intro hnow
      exact absurd (hopen.symm.trans hnow) Bool.false_ne_true

/-- A noise keeps a history sound. -/
theorem noise (h : history.Sound) : (history.operate .noise).Sound := by
  have hcovered := h.covered
  have hspent := h.signals_spent
  cases hopen : history.script.isOpen with
  | true =>
    rw [operate_noise_of_open hopen]
    refine ⟨h.works, h.in_order, h.refused_closed, ?_, ?_⟩
    · show history.accepted.length ≤ history.returned.length + (history.script.signals + 1)
      omega
    · show history.returned.length + history.empties + (history.script.signals + 1) =
        history.accepted.length + (history.noises + 1)
      omega
  | false => rwa [operate_noise_of_closed hopen]

/-- Closing keeps a history sound. -/
theorem close (h : history.Sound) : (history.operate .close).Sound :=
  ⟨h.works, h.in_order, fun hopen => absurd hopen Bool.false_ne_true, h.covered, h.signals_spent⟩

/-- A reader that takes a signal is given an event, unless there is none left. -/
theorem next (h : history.Sound) : (history.operate .next).Sound := by
  have hcovered := h.covered
  have hspent := h.signals_spent
  have horder := h.in_order
  by_cases hsignal : 0 < history.script.signals
  · rw [operate_next_of_signal h.works hsignal]
    cases hevents : history.script.events with
    | nil =>
      rw [hevents, List.append_nil] at horder
      -- with nothing in line all events are returned, so the signal was that of a noise
      have hall : history.accepted.length ≤ history.returned.length := by
        rw [horder, List.length_append]
        omega
      refine ⟨h.works, ?_, h.refused_closed, ?_, ?_⟩
      · show (history.answered _ (.ok none)).returned ++ [] = history.accepted ++ history.refused
        rw [returned_nothing, List.append_nil, horder]
      · show history.accepted.length ≤
          (history.answered _ (.ok none)).returned.length + (history.script.signals - 1)
        rw [returned_nothing]
        omega
      · show (history.answered _ (.ok none)).returned.length +
          (history.answered _ (.ok none)).empties + (history.script.signals - 1) =
            history.accepted.length + history.noises
        rw [returned_nothing, empties_nothing]
        omega
    | cons event rest =>
      rw [hevents] at horder
      refine ⟨h.works, ?_, h.refused_closed, ?_, ?_⟩
      · show (history.answered _ (.ok (some event))).returned ++ rest =
          history.accepted ++ history.refused
        rw [returned_given, List.append_assoc, ← horder]
        rfl
      · show history.accepted.length ≤
          (history.answered _ (.ok (some event))).returned.length + (history.script.signals - 1)
        rw [returned_given, List.length_append, List.length_singleton]
        omega
      · show (history.answered _ (.ok (some event))).returned.length +
          (history.answered _ (.ok (some event))).empties + (history.script.signals - 1) =
            history.accepted.length + history.noises
        rw [returned_given, empties_of_ne (by simp), List.length_append, List.length_singleton]
        omega
  · rw [operate_next_of_no_signal h.works (Nat.eq_zero_of_not_pos hsignal)]
    split
    · exact h
    · refine ⟨h.works, ?_, h.refused_closed, ?_, ?_⟩
      · rwa [returned_failed]
      · rwa [returned_failed]
      · rwa [returned_failed, empties_of_ne (by simp)]

/-- Every operation keeps a history sound. -/
theorem operate (h : history.Sound) (operation : Operation) :
    (history.operate operation).Sound := by
  cases operation with
  | push event => exact h.push event
  | noise => exact h.noise
  | close => exact h.close
  | next => exact h.next

/-- Every run of operations keeps a history sound. -/
theorem run (h : history.Sound) (operations : List Operation) :
    (history.run operations).Sound := by
  induction operations generalizing history with
  | nil => exact h
  | cons operation rest ih => exact ih (h.operate operation)

/-- There are not more empty answers than noises. -/
theorem empties_le_noises (h : history.Sound) : history.empties ≤ history.noises := by
  have hcovered := h.covered
  have hspent := h.signals_spent
  omega

/-- Every event that was pushed is returned or in line. -/
theorem length_eq (h : history.Sound) : history.returned.length + history.script.events.length =
    history.accepted.length + history.refused.length := by
  rw [← List.length_append, h.in_order, List.length_append]

/-- All accepted events are returned just if as many events are returned as were accepted. -/
theorem prefix_iff (h : history.Sound) :
    history.accepted <+: history.returned ↔ history.accepted.length ≤ history.returned.length := by
  constructor
  · exact List.IsPrefix.length_le
  · intro hle
    have hreturned : history.returned <+: history.accepted ++ history.refused :=
      ⟨history.script.events, h.in_order⟩
    exact List.prefix_of_prefix_length_le (List.prefix_append _ _) hreturned hle

/-- As long as an accepted event is left, a reader gets the first such event without waiting. -/
theorem reading?_of_accepted (h : history.Sound) {rest : List Event}
    (hleft : history.accepted = history.returned ++ event :: rest) :
    history.script.reading? = some (.ok (some event)) := by
  have hcovered := h.covered
  have horder := h.in_order
  rw [hleft, List.append_assoc] at horder
  have hevents : history.script.events = event :: rest ++ history.refused :=
    List.append_cancel_left horder
  rw [hleft, List.length_append, List.length_cons] at hcovered
  rw [reading?_of_signal h.works (by omega), hevents]
  rfl

/-- A reader is given the first event in line. -/
theorem exists_of_reading?_event (h : history.Sound)
    (hreading : history.script.reading? = some (.ok (some event))) :
    ∃ rest, history.script.events = event :: rest := by
  by_cases hsignal : 0 < history.script.signals
  · rw [reading?_of_signal h.works hsignal] at hreading
    cases hevents : history.script.events with
    | nil =>
      rw [hevents] at hreading
      cases hreading
    | cons first rest =>
      rw [hevents] at hreading
      obtain rfl : first = event := by simpa using hreading
      exact ⟨rest, rfl⟩
  · rw [reading?_of_no_signal h.works (Nat.eq_zero_of_not_pos hsignal)] at hreading
    split at hreading <;> simp at hreading

/-- The only failure is the end, and it comes after all accepted events. -/
theorem of_reading?_error (h : history.Sound) {reason : SourceError}
    (hreading : history.script.reading? = some (.error reason)) :
    reason = .closed ∧ history.script.isOpen = false ∧ history.accepted <+: history.returned := by
  have hcovered := h.covered
  by_cases hsignal : 0 < history.script.signals
  · rw [reading?_of_signal h.works hsignal] at hreading
    cases hreading
  · have hnone : history.script.signals = 0 := Nat.eq_zero_of_not_pos hsignal
    rw [reading?_of_no_signal h.works hnone] at hreading
    cases hopen : history.script.isOpen with
    | true =>
      rw [hopen] at hreading
      cases hreading
    | false =>
      rw [hopen] at hreading
      cases hreading
      exact ⟨rfl, rfl, h.prefix_iff.2 (by omega)⟩

end Sound

/-! ## Without noise -/

/-- Two histories of the same operations, but in one of them no noise is made.  Its reader is given the
same events as the other one, except for events that were not accepted. -/
structure InStep (history quiet : History) : Prop where
  sound : history.Sound
  quiet_sound : quiet.Sound
  isOpen : quiet.script.isOpen = history.script.isOpen
  accepted : quiet.accepted = history.accepted
  refused : quiet.refused = history.refused
  noises : quiet.noises = 0
  returned : quiet.returned.length = min history.returned.length history.accepted.length

/-- A read accepts nothing. -/
theorem accepted_next : (history.operate .next).accepted = history.accepted := by
  rw [operate]
  cases history.script.reading? <;> rfl

/-- A read refuses nothing. -/
theorem refused_next : (history.operate .next).refused = history.refused := by
  rw [operate]
  cases history.script.reading? <;> rfl

/-- A read makes no noise. -/
theorem noises_next : (history.operate .next).noises = history.noises := by
  rw [operate]
  cases history.script.reading? <;> rfl

/-- A read takes no event back. -/
theorem length_returned_le_next :
    history.returned.length ≤ (history.operate .next).returned.length := by
  rw [operate]
  cases history.script.reading? with
  | none => exact Nat.le_refl _
  | some answer =>
    show history.returned.length ≤ (history.answered _ answer).returned.length
    rw [returned_answered, List.length_append]
    exact Nat.le_add_right _ _

/-- Two histories begin in step. -/
theorem inStep_start (initial : List Device.Record) (faults : List String) :
    (start initial faults).InStep (start initial faults) :=
  ⟨sound_start initial faults, sound_start initial faults, rfl, rfl, rfl, rfl, rfl⟩

namespace InStep

/-- An operation closes both histories or neither. -/
theorem isOpen_operate (h : history.InStep quiet) (operation : Operation) :
    (quiet.operate operation).script.isOpen = (history.operate operation).script.isOpen := by
  rw [Bool.eq_iff_iff, History.isOpen_operate, History.isOpen_operate, h.isOpen]

/-- Without noise there is just one signal for each event that is left. -/
theorem signals_quiet (h : history.InStep quiet) :
    quiet.returned.length + quiet.script.signals = history.accepted.length := by
  have hcovered := h.quiet_sound.covered
  have hspent := h.quiet_sound.signals_spent
  rw [h.accepted] at hcovered hspent
  rw [h.noises] at hspent
  omega

/-- While an accepted event is left, the same one is the next in either line. -/
theorem exists_next (h : history.InStep quiet)
    (hleft : history.returned.length < history.accepted.length) :
    ∃ event rest, history.script.events = event :: rest ∧ quiet.script.events = event :: rest := by
  have hsame : quiet.returned.length = history.returned.length := by
    rw [h.returned]
    omega
  have horder : quiet.returned ++ quiet.script.events =
      history.returned ++ history.script.events := by
    rw [h.quiet_sound.in_order, h.sound.in_order, h.accepted, h.refused]
  have hevents : quiet.script.events = history.script.events :=
    (List.append_inj horder hsame).2
  cases hline : history.script.events with
  | nil =>
    have hlength := h.sound.length_eq
    rw [hline, List.length_nil] at hlength
    omega
  | cons event rest => exact ⟨event, rest, rfl, hevents.trans hline⟩

/-- A push to both histories keeps them in step. -/
theorem push (h : history.InStep quiet) (event : Event) :
    (history.operate (.push event)).InStep (quiet.operate (.push event)) := by
  have hopen_push := h.isOpen_operate (.push event)
  have hreturned := h.returned
  have hsound := h.sound.push event
  have hquiet := h.quiet_sound.push event
  cases hopen : history.script.isOpen with
  | true =>
    have hlength := h.sound.length_eq
    rw [h.sound.refused_closed hopen, List.length_nil] at hlength
    rw [operate_push_of_open hopen, operate_push_of_open (h.isOpen.trans hopen)] at *
    refine ⟨hsound, hquiet, hopen_push, ?_, h.refused, h.noises, ?_⟩
    · show quiet.accepted ++ [event] = history.accepted ++ [event]
      rw [h.accepted]
    · show quiet.returned.length =
        min history.returned.length (history.accepted ++ [event]).length
      rw [List.length_append, hreturned]
      omega
  | false =>
    rw [operate_push_of_closed hopen, operate_push_of_closed (h.isOpen.trans hopen)] at *
    refine ⟨hsound, hquiet, hopen_push, h.accepted, ?_, h.noises, hreturned⟩
    show quiet.refused ++ [event] = history.refused ++ [event]
    rw [h.refused]

/-- A noise in one of the histories keeps them in step. -/
theorem noise (h : history.InStep quiet) : (history.operate .noise).InStep quiet := by
  have hsound := h.sound.noise
  cases hopen : history.script.isOpen with
  | true =>
    rw [operate_noise_of_open hopen] at *
    exact ⟨hsound, h.quiet_sound, h.isOpen, h.accepted, h.refused, h.noises, h.returned⟩
  | false => rwa [operate_noise_of_closed hopen]

/-- Closing both histories keeps them in step. -/
theorem close (h : history.InStep quiet) :
    (history.operate .close).InStep (quiet.operate .close) :=
  ⟨h.sound.close, h.quiet_sound.close, h.isOpen_operate .close, h.accepted, h.refused, h.noises,
    h.returned⟩

/-- A read of both histories keeps them in step. -/
theorem next (h : history.InStep quiet) :
    (history.operate .next).InStep (quiet.operate .next) := by
  have hsignals := h.signals_quiet
  have hreturned := h.returned
  have hcovered := h.sound.covered
  refine ⟨h.sound.next, h.quiet_sound.next, h.isOpen_operate .next, ?_, ?_, ?_, ?_⟩
  · rw [accepted_next, accepted_next, h.accepted]
  · rw [refused_next, refused_next, h.refused]
  · rw [noises_next, h.noises]
  · by_cases hleft : history.returned.length < history.accepted.length
    · obtain ⟨event, rest, hevents, hsame⟩ := h.exists_next hleft
      rw [operate_next_of_signal h.sound.works (by omega),
        operate_next_of_signal h.quiet_sound.works (by omega), hevents, hsame]
      show (quiet.answered _ (.ok (some event))).returned.length =
        min (history.answered _ (.ok (some event))).returned.length history.accepted.length
      rw [returned_given, returned_given, List.length_append, List.length_append,
        List.length_singleton]
      omega
    · -- the other reader may still be given events that were not accepted, but this one is not
      have hmore := history.length_returned_le_next
      rw [accepted_next, operate_next_of_no_signal h.quiet_sound.works (by omega)]
      split
      · omega
      · rw [returned_failed]
        omega

/-- Histories stay in step when all operations but the noises are done in both. -/
theorem run (h : history.InStep quiet) (operations : List Operation) :
    (history.run operations).InStep (quiet.run (operations.filter (· ≠ .noise))) := by
  induction operations generalizing history quiet with
  | nil => exact h
  | cons operation rest ih =>
    cases operation with
    | push event => exact ih (h.push event)
    | noise => exact ih h.noise
    | close => exact ih h.close
    | next => exact ih h.next

/-- While an accepted event is left, both readers get the same. -/
theorem reading?_of_lt (h : history.InStep quiet)
    (hleft : history.returned.length < history.accepted.length) :
    quiet.script.reading? = history.script.reading? := by
  have hsignals := h.signals_quiet
  have hreturned := h.returned
  have hcovered := h.sound.covered
  obtain ⟨event, rest, hevents, hsame⟩ := h.exists_next hleft
  rw [reading?_of_signal h.quiet_sound.works (by omega),
    reading?_of_signal h.sound.works (by omega), hevents, hsame]

/-- Once all accepted events are returned, the reader without noise waits, or gets the end. -/
theorem reading?_of_le (h : history.InStep quiet)
    (hall : history.accepted.length ≤ history.returned.length) :
    quiet.script.reading? = if history.script.isOpen then none else some (.error .closed) := by
  have hsignals := h.signals_quiet
  have hreturned := h.returned
  rw [reading?_of_no_signal h.quiet_sound.works (by omega), h.isOpen]

/-- Because of noise a reader gets nothing where it would have to wait or get the end, and no other
answer is changed, just if the reader is not given a refused event. -/
theorem reading?_eq_or_iff (h : history.InStep quiet) :
    (history.script.reading? = quiet.script.reading? ∨
        history.script.reading? = some (.ok none)) ↔
      ∀ event, history.script.reading? = some (.ok (some event)) →
        history.returned ++ [event] <+: history.accepted := by
  -- a refused event can be given only when all accepted ones are returned
  by_cases hleft : history.returned.length < history.accepted.length
  · rw [h.reading?_of_lt hleft]
    simp only [true_or, true_iff]
    intro event hreading
    have horder := h.sound.in_order
    obtain ⟨rest, hevents⟩ := h.sound.exists_of_reading?_event hreading
    have hgiven : history.returned ++ [event] <+: history.accepted ++ history.refused := by
      rw [← horder, hevents]
      exact ⟨rest, by simp⟩
    refine List.prefix_of_prefix_length_le hgiven (List.prefix_append _ _) ?_
    rw [List.length_append, List.length_singleton]
    omega
  · rw [h.reading?_of_le (Nat.le_of_not_lt hleft)]
    constructor
    · intro hsame event hreading
      rw [hreading] at hsame
      split at hsame <;> simp at hsame
    · intro hgiven
      by_cases hsignal : 0 < history.script.signals
      · rw [reading?_of_signal h.sound.works hsignal] at hgiven ⊢
        cases hevents : history.script.events with
        | nil => exact .inr rfl
        | cons event rest =>
          rw [hevents] at hgiven
          have hlength := (hgiven event rfl).length_le
          rw [List.length_append, List.length_singleton] at hlength
          omega
      · exact .inl (reading?_of_no_signal h.sound.works (Nat.eq_zero_of_not_pos hsignal))

/-- Where no event was refused, a reader is not given one. -/
theorem reading?_eq_or_of_nil (h : history.InStep quiet) (hrefused : history.refused = []) :
    history.script.reading? = quiet.script.reading? ∨
      history.script.reading? = some (.ok none) := by
  refine h.reading?_eq_or_iff.2 fun event hreading => ?_
  have horder := h.sound.in_order
  obtain ⟨rest, hevents⟩ := h.sound.exists_of_reading?_event hreading
  rw [hrefused, hevents, List.append_nil] at horder
  exact ⟨rest, by rw [← horder, List.append_assoc, List.singleton_append]⟩

end InStep

end History

end RemovableMedia.Monitor.Script
