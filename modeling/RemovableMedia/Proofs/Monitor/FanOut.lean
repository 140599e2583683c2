import RemovableMedia.Proofs.Monitor.Consumer

/-!
# What a queue gets

Consumers come and go, each takes items from its own queue when it likes, and meanwhile the monitor
is started, looks at its source and is stopped, in any order.  Whatever happens, a queue gets just
the events that are news between its registration and its end, in their order and once, and after
them the mark of the end if the source fails meanwhile (`queues_get_all_news_once`).

What carries the proof is what one occurrence does to a queue that is registered
(`taken_happen`).  That a failure is the last thing a queue hears of follows from the phase of the
monitor, which never runs again after it has let its source go (`silent_of_no_source`).
-/

set_option autoImplicit false

namespace RemovableMedia.Monitor

open RemovableMedia.Device (Event SourceError)

/-! ## Occurrences -/

/-- Something that happens to a monitor. -/
inductive Occurrence where
  | registered
  | unregistered (id : Nat)
  | popped (id : Nat)
  | drained (id : Nat)
  | started
  /-- Something happens to the source: it has more events or signals, is closed, or breaks. -/
  | sourced (source : Script)
  /-- The monitor looks at its source. -/
  | stepped
  | stopped
  | dropped

/-- Lets something happen. -/
def happen (monitor : Monitor) : Occurrence → Monitor
  | .registered => monitor.register.2
  | .unregistered id => monitor.unregister id
  | .popped id => (monitor.pop id).2
  | .drained id => (monitor.drain id).2
  | .started => monitor.start.2
  | .sourced source => { monitor with source }
  | .stepped => monitor.step
  | .stopped => monitor.stop
  | .dropped => monitor.drop

/-- Lets things happen one after another. -/
def run (monitor : Monitor) (occurrences : List Occurrence) : Monitor :=
  occurrences.foldl happen monitor

/-- What is recorded of a run, occurrence by occurrence. -/
def along {α : Type} (record : Monitor → Occurrence → List α) (monitor : Monitor) :
    List Occurrence → List α
  | [] => []
  | occurrence :: rest => record monitor occurrence ++ (monitor.happen occurrence).along record rest

/-- What a running monitor finds at its source, unless it would have to wait. -/
def reading? (monitor : Monitor) : Option (Except SourceError (Option Event)) :=
  if monitor.phase = .running ∧ monitor.source.isReady then some monitor.source.next.1 else none

/-- The event that a running monitor reads, if it is news. -/
def accepted (monitor : Monitor) : Occurrence → List Event
  | .stepped =>
    match monitor.reading? with
    | some (.ok (some event)) => if (monitor.shadow.accept event).isSome then [event] else []
    | _ => []
  | _ => []

/-- The failure of the source that ends a running monitor. -/
def failed (monitor : Monitor) : Occurrence → List SourceError
  | .stepped =>
    match monitor.reading? with
    | some (.error e) => [e]
    | _ => []
  | _ => []

/-- What a consumer takes from its queue. -/
def taken (id : Nat) (monitor : Monitor) : Occurrence → List Item
  | .popped other => if id = other then (monitor.pop id).1.toList else []
  | .drained other => if id = other then (monitor.drain id).1 else []
  | _ => []

/-- What every queue gets that is there. -/
def forwarded (monitor : Monitor) (occurrence : Occurrence) : List Item :=
  (monitor.accepted occurrence).map .news ++ (monitor.failed occurrence).map fun _ => .exit

/-- A run goes on where an earlier one ended. -/
theorem run_append (monitor : Monitor) (first later : List Occurrence) :
    monitor.run (first ++ later) = (monitor.run first).run later :=
  List.foldl_append

/-- What is recorded of two runs in a row is what is recorded of the first and then of the second.
-/
theorem along_append {α : Type} (record : Monitor → Occurrence → List α) (monitor : Monitor)
    (first later : List Occurrence) :
    monitor.along record (first ++ later) =
      monitor.along record first ++ (monitor.run first).along record later := by
  induction first generalizing monitor with
  | nil => rfl
  | cons occurrence rest ih =>
    have hrest := ih (monitor.happen occurrence)
    simp only [List.cons_append, along, hrest, List.append_assoc]
    rfl

/-! ## Queues -/

namespace Queues

variable {queues changed : Queues} {id other : Nat}

/-- Nothing is on a queue that is not registered. -/
theorem pending_of_not_registered (h : ¬queues.Registered id) : queues.pending id = [] := by
  have hfind : queues.queues.find? (fun queue => queue.id == id) = none := by
    rw [List.find?_eq_none]
    intro queue hqueue hid
    exact h ⟨queue, hqueue, by simpa using hid⟩
  rw [pending, hfind]
  rfl

/-- Queues that are changed one by one and keep their numbers are the registered ones. -/
theorem registered_of_map {f : Queue → Queue} (hid : ∀ queue, (f queue).id = queue.id)
    (hqueues : changed.queues = queues.queues.map f) :
    changed.Registered id ↔ queues.Registered id := by
  simp [Registered, hqueues, hid]

/-- Queues that are changed one by one can still be found. -/
theorem pending_of_map {f : Queue → Queue} (hid : ∀ queue, (f queue).id = queue.id)
    (hqueues : changed.queues = queues.queues.map f) (h : queues.Registered id) :
    ∃ queue, queue.id = id ∧ queues.pending id = queue.items ∧
      changed.pending id = (f queue).items := by
  obtain ⟨queue, hqueue, hsame⟩ := h
  have hsome : (queues.queues.find? fun queue => queue.id == id).isSome = true :=
    List.find?_isSome.2 ⟨queue, hqueue, beq_iff_eq.2 hsame⟩
  obtain ⟨found, hfound⟩ := Option.isSome_iff_exists.1 hsome
  have hfid : (fun queue : Queue => queue.id == id) ∘ f = fun queue => queue.id == id := by
    funext queue
    rw [Function.comp_apply, hid]
  refine ⟨found, by simpa using List.find?_some hfound, ?_, ?_⟩
  · rw [pending, hfound]
    rfl
  · rw [pending, hqueues, List.find?_map, hfid, hfound]
    rfl

/-- Other items on a queue do not change its number. -/
theorem id_setPending (items : List Item) (queue : Queue) :
    (if queue.id = other then { queue with items } else queue).id = queue.id := by
  split <;> rfl

/-- Other items on a queue leave the registered queues as they are. -/
theorem registered_setPending (items : List Item) :
    (queues.setPending other items).Registered id ↔ queues.Registered id :=
  registered_of_map (id_setPending items) rfl

/-- Only the queue that is given other items has them. -/
theorem pending_setPending (h : queues.Registered id) (items : List Item) :
    (queues.setPending other items).pending id =
      if id = other then items else queues.pending id := by
  have hqueues : (queues.setPending other items).queues =
      queues.queues.map fun queue => if queue.id = other then { queue with items } else queue := rfl
  obtain ⟨queue, hid, hbefore, hafter⟩ := pending_of_map (id_setPending items) hqueues h
  rw [hafter, hbefore, hid]
  split <;> rfl

/-- Popping leaves the registered queues as they are. -/
theorem registered_pop : (queues.pop other).2.Registered id ↔ queues.Registered id := by
  unfold pop
  split
  · rfl
  · exact registered_setPending _

/-- Popping takes the first item from its own queue and nothing from the others. -/
theorem pending_pop (h : queues.Registered id) :
    (queues.pop other).2.pending id =
      if id = other then (queues.pending id).tail else queues.pending id := by
  unfold pop
  split
  · rename_i hempty
    by_cases hid : id = other <;> simp [hid, hempty]
  · rename_i item rest hpending
    rw [pending_setPending h]
    by_cases hid : id = other <;> simp [hid, hpending]

/-- What is popped is the first item of the queue. -/
theorem pop_fst : (queues.pop id).1 = (queues.pending id).head? := by
  unfold pop
  split <;> simp [*]

/-- All queues get the items that are put on all of them. -/
theorem foldl_fanOut (h : queues.Registered id) (items : List Item) :
    (items.foldl fanOut queues).Registered id ∧
      (items.foldl fanOut queues).pending id = queues.pending id ++ items := by
  induction items generalizing queues with
  | nil => simp [h]
  | cons item rest ih =>
    obtain ⟨hregistered, hpending⟩ := ih (registered_fanOut h item)
    rw [pending_fanOut h] at hpending
    exact ⟨hregistered, by simpa using hpending⟩

/-- Items that are put on all queues leave the registered queues as they are. -/
theorem registered_foldl_fanOut (items : List Item) :
    (items.foldl fanOut queues).Registered id ↔ queues.Registered id := by
  induction items generalizing queues with
  | nil => rfl
  | cons item rest ih =>
    have hitem : (queues.fanOut item).Registered id ↔ queues.Registered id :=
      registered_of_map (f := fun queue => { queue with items := queue.items ++ [item] })
        (fun _ => rfl) rfl
    exact ih.trans hitem

/-- Just the queue that is unregistered is no longer registered. -/
theorem registered_unregister :
    (queues.unregister other).Registered id ↔ id ≠ other ∧ queues.Registered id := by
  simp only [Registered, unregister, List.mem_filter, decide_eq_true_eq]
  constructor
  · rintro ⟨queue, ⟨hqueue, hne⟩, rfl⟩
    exact ⟨hne, queue, hqueue, rfl⟩
  · rintro ⟨hne, queue, hqueue, rfl⟩
    exact ⟨queue, ⟨hqueue, hne⟩, rfl⟩

/-- What is on the other queues stays when one is unregistered. -/
theorem pending_unregister (h : id ≠ other) :
    (queues.unregister other).pending id = queues.pending id := by
  rw [pending, unregister, List.find?_filter, pending]
  congr 3
  funext queue
  by_cases hid : queue.id = id <;> simp [hid, h]

/-- Just the new number is registered in addition. -/
theorem registered_register :
    queues.register.2.Registered id ↔ queues.Registered id ∨ id = queues.nextId := by
  simp only [Registered, register, List.mem_append, List.mem_singleton]
  constructor
  · rintro ⟨queue, hqueue | rfl, rfl⟩
    · exact .inl ⟨queue, hqueue, rfl⟩
    · exact .inr rfl
  · rintro (⟨queue, hqueue, rfl⟩ | rfl)
    · exact ⟨queue, .inl hqueue, rfl⟩
    · exact ⟨_, .inr rfl, rfl⟩

/-- A new queue changes nothing on the others. -/
theorem pending_register : queues.register.2.pending id = queues.pending id := by
  simp only [pending, register, List.find?_append, List.find?_singleton]
  cases queues.queues.find? fun queue => queue.id == id with
  | some queue => rfl
  | none => by_cases hid : queues.nextId = id <;> simp [hid]

end Queues

/-! ## One occurrence -/

variable {monitor : Monitor} {id : Nat} {occurrence : Occurrence} {occurrences : List Occurrence}

/-- A look at the source puts on all queues what is forwarded, and whoever fails is ended. -/
theorem step_cases (monitor : Monitor) :
    monitor.step.queues = (monitor.forwarded .stepped).foldl Queues.fanOut monitor.queues ∧
      (monitor.failed .stepped = [] ∧ monitor.step.phase = monitor.phase ∨
        ∃ e, monitor.failed .stepped = [e] ∧ monitor.accepted .stepped = [] ∧
          monitor.step.phase = .ended) := by
  by_cases hready : monitor.phase = .running ∧ monitor.source.isReady
  · have hreading : monitor.reading? = some monitor.source.next.1 := if_pos hready
    unfold step
    rw [if_pos hready]
    simp only [forwarded, accepted, failed, hreading]
    rcases monitor.source.next with ⟨_ | _ | event, source⟩
    · exact ⟨rfl, .inr ⟨_, rfl, rfl, rfl⟩⟩
    · exact ⟨rfl, .inl ⟨rfl, rfl⟩⟩
    · dsimp only [observe]
      cases monitor.shadow.accept event with
      | none => exact ⟨rfl, .inl ⟨rfl, rfl⟩⟩
      | some shadow => exact ⟨rfl, .inl ⟨rfl, rfl⟩⟩
  · have hreading : monitor.reading? = none := if_neg hready
    have hstep : monitor.step = monitor := if_neg hready
    simp [hstep, forwarded, accepted, failed, hreading]

/-- Starting the monitor changes no queue. -/
theorem start_queues (monitor : Monitor) : monitor.start.2.queues = monitor.queues := by
  unfold start
  split
  · split <;> rfl
  · rfl

/-- Stopping the monitor changes no queue. -/
theorem stop_queues (monitor : Monitor) : monitor.stop.queues = monitor.queues := by
  unfold stop
  split <;> rfl

/-- What is popped and what is then left on a queue is what was on it. -/
theorem taken_popped (h : monitor.queues.Registered id) (other : Nat) :
    (monitor.pop other).2.queues.Registered id ∧
      monitor.taken id (.popped other) ++ (monitor.pop other).2.queues.pending id =
        monitor.queues.pending id := by
  have hpending : (monitor.queues.pop other).2.pending id =
      if id = other then (monitor.queues.pending id).tail else monitor.queues.pending id :=
    Queues.pending_pop h
  refine ⟨Queues.registered_pop.2 h, ?_⟩
  simp only [taken, pop, hpending, Queues.pop_fst]
  by_cases hid : id = other
  · rw [if_pos hid, if_pos hid, hid]
    cases monitor.queues.pending other <;> rfl
  · rw [if_neg hid, if_neg hid, List.nil_append]

/-- What is drained and what is then left on a queue is what was on it. -/
theorem taken_drained (h : monitor.queues.Registered id) (other : Nat) :
    (monitor.drain other).2.queues.Registered id ∧
      monitor.taken id (.drained other) ++ (monitor.drain other).2.queues.pending id =
        monitor.queues.pending id := by
  refine ⟨(Queues.registered_setPending []).2 h, ?_⟩
  simp only [taken, drain, Queues.drain, Queues.pending_setPending h]
  by_cases hid : id = other <;> simp [hid]

/-- What is taken from a queue and what is then left on it is what was on it before, with what is
forwarded to all. -/
theorem taken_happen (h : monitor.queues.Registered id) (hstays : occurrence ≠ .unregistered id) :
    (monitor.happen occurrence).queues.Registered id ∧
      monitor.taken id occurrence ++ (monitor.happen occurrence).queues.pending id =
        monitor.queues.pending id ++ monitor.forwarded occurrence := by
  -- only a look at the source forwards anything
  have hforwarded : ∀ occurrence, monitor.accepted occurrence = [] →
      monitor.failed occurrence = [] →
        monitor.queues.pending id ++ monitor.forwarded occurrence = monitor.queues.pending id := by
    intro occurrence haccepted hfailed
    simp [forwarded, haccepted, hfailed]
  cases occurrence with
  | registered =>
    rw [hforwarded _ rfl rfl]
    exact ⟨Queues.registered_register.2 (.inl h), Queues.pending_register⟩
  | unregistered other =>
    have hne : id ≠ other := fun hid => hstays (hid ▸ rfl)
    rw [hforwarded _ rfl rfl]
    exact ⟨Queues.registered_unregister.2 ⟨hne, h⟩, Queues.pending_unregister hne⟩
  | popped other =>
    rw [hforwarded _ rfl rfl]
    exact taken_popped h other
  | drained other =>
    rw [hforwarded _ rfl rfl]
    exact taken_drained h other
  | started =>
    rw [hforwarded _ rfl rfl, happen, start_queues]
    exact ⟨h, rfl⟩
  | stopped =>
    rw [hforwarded _ rfl rfl, happen, stop_queues]
    exact ⟨h, rfl⟩
  | sourced source | dropped =>
    rw [hforwarded _ rfl rfl]
    exact ⟨h, rfl⟩
  | stepped =>
    obtain ⟨hqueues, -⟩ := monitor.step_cases
    obtain ⟨hregistered, hpending⟩ := Queues.foldl_fanOut h (monitor.forwarded .stepped)
    rw [happen, hqueues]
    exact ⟨hregistered, hpending⟩

/-- Only a queue that is registered comes in, and its number was not given before. -/
theorem registered_of_happen (h : (monitor.happen occurrence).queues.Registered id) :
    monitor.queues.Registered id ∨ occurrence = .registered ∧ id = monitor.queues.nextId := by
  cases occurrence with
  | registered =>
    exact (Queues.registered_register.1 h).imp_right fun hid => ⟨rfl, hid⟩
  | unregistered other => exact .inl (Queues.registered_unregister.1 h).2
  | popped other => exact .inl (Queues.registered_pop.1 h)
  | drained other => exact .inl ((Queues.registered_setPending []).1 h)
  | started =>
    rw [happen, start_queues] at h
    exact .inl h
  | stopped =>
    rw [happen, stop_queues] at h
    exact .inl h
  | sourced source | dropped => exact .inl h
  | stepped =>
    obtain ⟨hqueues, -⟩ := monitor.step_cases
    rw [happen, hqueues] at h
    exact .inl ((Queues.registered_foldl_fanOut _).1 h)

/-- Numbers are given in ascending order. -/
theorem nextId_le_happen (monitor : Monitor) (occurrence : Occurrence) :
    monitor.queues.nextId ≤ (monitor.happen occurrence).queues.nextId := by
  have hfanOut : ∀ (items : List Item) (queues : Queues),
      (items.foldl Queues.fanOut queues).nextId = queues.nextId := by
    intro items
    induction items with
    | nil => exact fun _ => rfl
    | cons item rest ih => exact fun queues => ih (queues.fanOut item)
  cases occurrence with
  | registered => exact Nat.le_succ _
  | popped id =>
    simp only [happen, pop, Queues.pop]
    split <;> exact Nat.le_refl _
  | started => simp [happen, start_queues]
  | stopped => simp [happen, stop_queues]
  | stepped => simp [happen, monitor.step_cases.1, hfanOut]
  | unregistered | drained | sourced | dropped => exact Nat.le_refl _

/-- A monitor that has let its source go never gets it back. -/
theorem silent_of_no_source (h : monitor.phase.hasSource = false) (occurrence : Occurrence) :
    monitor.accepted occurrence = [] ∧ monitor.failed occurrence = [] ∧
      (monitor.happen occurrence).phase.hasSource = false := by
  have hrunning : monitor.phase ≠ .running := by
    intro hphase
    rw [hphase] at h
    cases h
  -- an idle monitor still has its source, so this one cannot be started any more
  have hidle : monitor.phase ≠ .idle := by
    intro hphase
    rw [hphase] at h
    cases h
  cases occurrence with
  | started =>
    have hstart : monitor.start.2 = monitor := by
      unfold start
      split
      · rename_i hphase
        exact absurd hphase hidle
      · rfl
    exact ⟨rfl, rfl, by rwa [happen, hstart]⟩
  | stepped =>
    have hreading : monitor.reading? = none := if_neg fun hready => hrunning hready.1
    have hstep : monitor.step = monitor := if_neg fun hready => hrunning hready.1
    simp [happen, hstep, accepted, failed, hreading, h]
  | stopped =>
    have hstop : monitor.stop = monitor := if_neg hrunning
    exact ⟨rfl, rfl, by rwa [happen, hstop]⟩
  | registered | unregistered | popped | drained | sourced => exact ⟨rfl, rfl, h⟩
  | dropped => exact ⟨rfl, rfl, rfl⟩

/-- The source fails at most once at a look, and then nothing is accepted and the monitor is ended.
-/
theorem failed_cases (monitor : Monitor) (occurrence : Occurrence) :
    monitor.failed occurrence = [] ∨ ∃ e, monitor.failed occurrence = [e] ∧
      monitor.accepted occurrence = [] ∧ (monitor.happen occurrence).phase = .ended := by
  cases occurrence with
  | stepped =>
    obtain ⟨-, hcases⟩ := monitor.step_cases
    exact hcases.imp_left And.left
  | _ => exact .inl rfl

/-! ## Runs -/

/-- A monitor without its source accepts nothing in a run and reads no failure. -/
theorem along_of_no_source (h : monitor.phase.hasSource = false) (occurrences : List Occurrence) :
    monitor.along accepted occurrences = [] ∧ monitor.along failed occurrences = [] := by
  induction occurrences generalizing monitor with
  | nil => exact ⟨rfl, rfl⟩
  | cons occurrence rest ih =>
    obtain ⟨haccepted, hfailed, hnext⟩ := silent_of_no_source h occurrence
    obtain ⟨hnews, hfailures⟩ := ih hnext
    simp only [along, haccepted, hfailed, hnews, hfailures, List.append_nil, and_self]

/-- What is forwarded in a run is news, and at most one failure after all of them. -/
theorem along_forwarded (monitor : Monitor) (occurrences : List Occurrence) :
    monitor.along forwarded occurrences = (monitor.along accepted occurrences).map .news ++
        (monitor.along failed occurrences).map (fun _ => .exit) ∧
      (monitor.along failed occurrences).length ≤ 1 := by
  induction occurrences generalizing monitor with
  | nil => exact ⟨rfl, Nat.zero_le 1⟩
  | cons occurrence rest ih =>
    obtain ⟨hrest, hlength⟩ := ih (monitor.happen occurrence)
    simp only [along, forwarded, hrest]
    rcases monitor.failed_cases occurrence with hfailed | ⟨e, hfailed, haccepted, hphase⟩
    · simp [hfailed, hlength]
    · have hended : (monitor.happen occurrence).phase.hasSource = false := by
        rw [hphase]
        rfl
      obtain ⟨hnews, hfailures⟩ := along_of_no_source hended rest
      simp [hfailed, haccepted, hnews, hfailures]

/-- What is taken from a queue in a run and what is then left on it is what was on it before, with
what is forwarded in the run. -/
theorem taken_run (h : monitor.queues.Registered id) (hstays : .unregistered id ∉ occurrences) :
    (monitor.run occurrences).queues.Registered id ∧
      monitor.along (taken id) occurrences ++ (monitor.run occurrences).queues.pending id =
        monitor.queues.pending id ++ monitor.along forwarded occurrences := by
  induction occurrences generalizing monitor with
  | nil => simp [h, along, run]
  | cons occurrence rest ih =>
    rw [List.mem_cons, not_or] at hstays
    have hoccurrence : occurrence ≠ .unregistered id := fun hid => hstays.1 hid.symm
    obtain ⟨hnext, htaken⟩ := taken_happen h hoccurrence
    obtain ⟨hregistered, hrest⟩ := ih hnext hstays.2
    have hrun : monitor.run (occurrence :: rest) = (monitor.happen occurrence).run rest := rfl
    refine ⟨hregistered, ?_⟩
    rw [hrun, along, along, List.append_assoc, hrest, ← List.append_assoc, htaken,
      List.append_assoc]

/-- No run takes a number back. -/
theorem nextId_le_run (monitor : Monitor) (occurrences : List Occurrence) :
    monitor.queues.nextId ≤ (monitor.run occurrences).queues.nextId := by
  induction occurrences generalizing monitor with
  | nil => exact Nat.le_refl _
  | cons occurrence rest ih =>
    exact Nat.le_trans (monitor.nextId_le_happen occurrence) (ih (monitor.happen occurrence))

/-- Nothing comes to a queue that is no longer registered. -/
theorem run_of_not_registered (hid : id < monitor.queues.nextId)
    (h : ¬monitor.queues.Registered id) (occurrences : List Occurrence) :
    ¬(monitor.run occurrences).queues.Registered id ∧
      monitor.along (taken id) occurrences = [] := by
  induction occurrences generalizing monitor with
  | nil => exact ⟨h, rfl⟩
  | cons occurrence rest ih =>
    have hnext : ¬(monitor.happen occurrence).queues.Registered id := by
      intro hregistered
      rcases registered_of_happen hregistered with hbefore | ⟨-, hnew⟩
      · exact h hbefore
      · omega
    have htaken : monitor.taken id occurrence = [] := by
      have hpending := Queues.pending_of_not_registered h
      cases occurrence with
      | popped other =>
        by_cases hsame : id = other
        · simp [taken, pop, Queues.pop_fst, ← hsame, hpending]
        · simp [taken, hsame]
      | drained other =>
        by_cases hsame : id = other
        · simp [taken, drain, Queues.drain, ← hsame, hpending]
        · simp [taken, hsame]
      | _ => rfl
    have hle := monitor.nextId_le_happen occurrence
    obtain ⟨hgone, hrest⟩ := ih (Nat.lt_of_lt_of_le hid hle) hnext
    exact ⟨hgone, by rw [along, htaken, hrest, List.nil_append]⟩

/-- All numbers of queues were given. -/
def Given (monitor : Monitor) : Prop :=
  ∀ id, monitor.queues.Registered id → id < monitor.queues.nextId

/-- A new monitor has no queue, so no number that was not given. -/
theorem given_create (source : Script) : (create source).Given := by
  rintro id ⟨queue, hqueue, -⟩
  cases hqueue

/-- After any run all numbers of queues are numbers that were given. -/
theorem Given.run (h : monitor.Given) (occurrences : List Occurrence) :
    (monitor.run occurrences).Given := by
  induction occurrences generalizing monitor with
  | nil => exact h
  | cons occurrence rest ih =>
    have hnext : (monitor.happen occurrence).Given := by
      intro id hid
      have hle := monitor.nextId_le_happen occurrence
      rcases registered_of_happen hid with hbefore | ⟨rfl, hnew⟩
      · have hlt := h id hbefore
        omega
      · rw [hnew]
        exact Nat.lt_succ_self _
    exact ih hnext

/-- A new queue is registered and empty. -/
theorem Given.registered (h : monitor.Given) :
    let id := monitor.register.1
    let registered := monitor.happen .registered
    registered.queues.Registered id ∧ registered.queues.pending id = [] ∧
      id < registered.queues.nextId := by
  intro id registered
  have hnew : ¬monitor.queues.Registered id := fun hid => Nat.lt_irrefl _ (h id hid)
  refine ⟨Queues.registered_register.2 (.inr rfl), ?_, Nat.lt_succ_self _⟩
  exact Queues.pending_register.trans (Queues.pending_of_not_registered hnew)

/-- What is taken from a new queue and what is left on it is what was forwarded since then. -/
theorem Given.found (h : monitor.Given) (hstays : .unregistered monitor.register.1 ∉ occurrences) :
    let id := monitor.register.1
    let registered := monitor.happen .registered
    registered.along (taken id) occurrences ++ (registered.run occurrences).queues.pending id =
      registered.along forwarded occurrences := by
  intro id registered
  obtain ⟨hregistered, hempty, -⟩ := h.registered
  obtain ⟨-, htaken⟩ := taken_run hregistered hstays
  rw [htaken, hempty, List.nil_append]

/-- What is found on a new queue after it was unregistered is what was taken from it before. -/
theorem Given.found_of_unregistered (h : monitor.Given) (first second : List Occurrence) :
    let id := monitor.register.1
    let registered := monitor.happen .registered
    let during := first ++ .unregistered id :: second
    registered.along (taken id) during = registered.along (taken id) first ∧
      (registered.run during).queues.pending id = [] := by
  intro id registered during
  let between := registered.run first
  let left := between.happen (.unregistered id)
  obtain ⟨-, -, hgiven⟩ := h.registered
  have hid : id < left.queues.nextId :=
    Nat.lt_of_lt_of_le hgiven (registered.nextId_le_run first)
  have hleft : ¬left.queues.Registered id :=
    fun hregistered => (Queues.registered_unregister.1 hregistered).1 rfl
  obtain ⟨hgone, hnothing⟩ := run_of_not_registered hid hleft second
  have hlater : between.along (taken id) (.unregistered id :: second) = [] := hnothing
  have hrun : registered.run during = left.run second := registered.run_append first _
  constructor
  · rw [along_append, hlater, List.append_nil]
  · rw [hrun]
    exact Queues.pending_of_not_registered hgone

/-- A queue that is registered later gets the end of what the new queue gets. -/
theorem Given.found_suffix (h : monitor.Given) {first second : List Occurrence}
    (hstays : .unregistered monitor.register.1 ∉ first ++ .registered :: second) :
    let id := monitor.register.1
    let registered := monitor.happen .registered
    let during := first ++ .registered :: second
    let later := (registered.run first).register.1
    let joined := (registered.run first).happen .registered
    .unregistered later ∉ second →
      joined.along (taken later) second ++ (joined.run second).queues.pending later <:+
        registered.along (taken id) during ++ (registered.run during).queues.pending id := by
  intro id registered during later joined hlater
  have hregistered : registered.Given := h.run [.registered]
  have hfound : registered.along (taken id) during ++ (registered.run during).queues.pending id =
      registered.along forwarded during := h.found hstays
  have hjoined : joined.along (taken later) second ++ (joined.run second).queues.pending later =
      joined.along forwarded second := (hregistered.run first).found hlater
  have hsplit : registered.along forwarded during =
      registered.along forwarded first ++ joined.along forwarded second := by
    rw [along_append]
    rfl
  rw [hfound, hjoined, hsplit]
  exact List.suffix_append _ _

/-- Whatever happens to a monitor, in whatever order, what is taken from a queue and what is left on
it is what the running monitor read and accepted since the queue was registered, in this order and
each event once, and after all of this the mark of the end if the source failed meanwhile.  After a
queue is unregistered nothing is found on it any more, and what was taken before is the beginning of
what it got.  No other queue is changed by this, no number is given twice, and of two queues the
later one has got the end of what the earlier one has got. -/
theorem queues_get_all_news_once (source : Script) (before during : List Occurrence) :
    let waiting := (create source).run before
    let id := waiting.register.1
    let registered := waiting.happen .registered
    let now := registered.run during
    let found := registered.along (taken id) during
    (.unregistered id ∉ during →
      found ++ now.queues.pending id = (registered.along accepted during).map .news ++
        (registered.along failed during).map fun _ => .exit) ∧
    (registered.along failed during).length ≤ 1 ∧
    (∀ first second, during = first ++ .unregistered id :: second → .unregistered id ∉ first →
      now.queues.pending id = [] ∧
        found <+: (registered.along accepted first).map .news ++
          (registered.along failed first).map fun _ => .exit) ∧
    (∀ gone other, other ≠ gone →
      (now.unregister gone).queues.pending other = now.queues.pending other) ∧
    id < now.register.1 ∧
    ∀ first second, during = first ++ .registered :: second →
      let later := (registered.run first).register.1
      let joined := (registered.run first).happen .registered
      .unregistered id ∉ during → .unregistered later ∉ second →
        joined.along (taken later) second ++ now.queues.pending later <:+
          found ++ now.queues.pending id := by
  intro waiting id registered now found
  have hwaiting : waiting.Given := (given_create source).run before
  refine ⟨?_, (registered.along_forwarded during).2, ?_, ?_, ?_, ?_⟩
  · intro hstays
    have hfound : found ++ now.queues.pending id = registered.along forwarded during :=
      hwaiting.found hstays
    rw [hfound, (registered.along_forwarded during).1]
  · rintro first second rfl hstays
    obtain ⟨htaken, hempty⟩ := hwaiting.found_of_unregistered first second
    have hfound : registered.along (taken id) first ++ (registered.run first).queues.pending id =
        registered.along forwarded first := hwaiting.found hstays
    rw [(registered.along_forwarded first).1] at hfound
    have hall : found = registered.along (taken id) first := htaken
    refine ⟨hempty, ?_⟩
    rw [hall]
    exact ⟨_, hfound⟩
  · intro gone other hne
    exact Queues.pending_unregister hne
  · obtain ⟨-, -, hgiven⟩ := hwaiting.registered
    exact Nat.lt_of_lt_of_le hgiven (registered.nextId_le_run during)
  · rintro first second rfl later joined hstays hlater
    have hsuffix : joined.along (taken later) second ++
        (joined.run second).queues.pending later <:+ found ++ now.queues.pending id :=
      hwaiting.found_suffix hstays hlater
    have hnow : joined.run second = now :=
      (registered.run_append first (.registered :: second)).symm
    rwa [hnow] at hsuffix

/-- A consumer that comes after the first of two events takes the second one, and then the source
breaks. -/
theorem queues_get_all_news_once_of_stick :
    let source := Script.start [] []
    let busy : Script := { source with
      events := [⟨.add, .usbStick⟩, ⟨.online, .usbPartition⟩], signals := 2 }
    let before : List Occurrence := [.registered, .started, .sourced busy, .stepped]
    let during : List Occurrence :=
      [.stepped, .popped 1, .sourced source.fail, .stepped, .stepped]
    let registered := ((create source).run before).happen .registered
    let now := registered.run during
    .unregistered 1 ∉ during ∧
      registered.along (taken 1) during ++ now.queues.pending 1 =
        [.news ⟨.online, .usbPartition⟩, .exit] ∧
      now.queues.pending 0 =
        [.news ⟨.add, .usbStick⟩, .news ⟨.online, .usbPartition⟩, .exit] := by
  intro source busy before during registered now
  have hstays : .unregistered 1 ∉ during := by simp [during]
  have haccepted : registered.along accepted during = [⟨.online, .usbPartition⟩] := by
    decide +kernel
  have hfailed : (registered.along failed during).map (fun _ => Item.exit) = [.exit] := by
    decide +kernel
  have hfirst : now.queues.pending 0 =
      [.news ⟨.add, .usbStick⟩, .news ⟨.online, .usbPartition⟩, .exit] := by
    decide +kernel
  have hall := (queues_get_all_news_once source before during).1 hstays
  rw [haccepted, hfailed] at hall
  exact ⟨hstays, hall, hfirst⟩

end RemovableMedia.Monitor
