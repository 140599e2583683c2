import RemovableMedia.Proofs.Keyed
import RemovableMedia.Proofs.Server.Outbound

/-!
# Clients that are disconnected

A queue may refuse a line at any moment, since it holds a limited number of lines and its writer
may end.  What an occurrence makes of a client depends on this client alone: it takes the lines that
are meant for it up to the first that it refuses (`Fate`).  The broadcast of an event offers its
line to everybody, whoever refuses it (`Loop.find?_broadcast_eq`), and the frames of a client are
served so that nobody else is disconnected by them (`Loop.exists_fate_serve`).

From the fate of a client at one occurrence follows what holds of all runs
(`clients_leave_without_gaps`): a client that is disconnected has got a prefix of what was meant for
it, nothing is put on its queue any more, and its number is never given to another client.
-/

set_option autoImplicit false

namespace RemovableMedia.Server

open RemovableMedia.Mount (Host Orchestrator)

/-! ## Lines that are taken and refused -/

namespace Client

variable {client : Client} {line : String} {lines first later : List String}

/-- The client with more lines on its queue, unless the queue refuses one of them. -/
def takeAll (client : Client) : List String → Option Client
  | [] => some client
  | line :: rest => if client.refuses line then none else (client.told [line]).takeAll rest

/-- A queue refuses a line when its writer is gone or when it is full. -/
theorem refuses_iff :
    client.refuses line = true ↔ client.hasWriter = false ∨ queueLimit ≤ client.queue.length := by
  unfold refuses send
  cases hwriter : client.hasWriter with
  | false => simp
  | true =>
    by_cases hfull : queueLimit ≤ client.queue.length
    · simp [hfull]
    · simp [hfull]

/-- More lines are taken after those that were taken. -/
theorem takeAll_append (client : Client) (first later : List String) :
    client.takeAll (first ++ later) =
      (client.takeAll first).bind fun between => between.takeAll later := by
  induction first generalizing client with
  | nil => rfl
  | cons line rest ih =>
    simp only [List.cons_append, takeAll]
    split
    · rfl
    · exact ih (client.told [line])

/-- A client that takes all lines is told all of them. -/
theorem eq_told_of_takeAll {after : Client} (h : client.takeAll lines = some after) :
    after = client.told lines := by
  induction lines generalizing client with
  | nil =>
    rw [told_nil]
    exact (Option.some.inj h).symm
  | cons line rest ih =>
    unfold takeAll at h
    split at h
    · cases h
    · have hafter := ih h
      rw [told_told] at hafter
      exact hafter

/-- If not all lines are taken then there is a first that is refused. -/
theorem exists_refused (h : client.takeAll lines = none) :
    ∃ taken line rest, lines = taken ++ line :: rest ∧
      client.takeAll taken = some (client.told taken) ∧
        (client.told taken).refuses line = true := by
  induction lines generalizing client with
  | nil => cases h
  | cons line rest ih =>
    unfold takeAll at h
    split at h
    · rename_i hrefuses
      refine ⟨[], line, rest, rfl, ?_, ?_⟩
      · rw [told_nil]
        rfl
      · rw [told_nil]
        exact hrefuses
    · rename_i htakes
      obtain ⟨taken, refused, others, rfl, htaken, hrefused⟩ := ih h
      refine ⟨line :: taken, refused, others, rfl, ?_, ?_⟩
      · rw [takeAll, if_neg htakes, htaken, told_told]
        rfl
      · rw [told_told] at hrefused
        exact hrefused

end Client

/-- What becomes of a client to whom lines are offered one after another, with the lines that it
takes.  It is disconnected when it refuses a line, because its writer is gone or its queue is full,
and otherwise only if it is `expelled`. -/
inductive Fate (client : Client) (lines : List String) (expelled : Prop) :
    List String → Option Client → Prop where
  | stays (h : client.takeAll lines = some (client.told lines)) :
      Fate client lines expelled lines (some (client.told lines))
  | refuses {taken rest : List String} {line : String} (hlines : lines = taken ++ line :: rest)
      (htaken : client.takeAll taken = some (client.told taken))
      (h : (client.told taken).hasWriter = false ∨
        queueLimit ≤ (client.told taken).queue.length) : Fate client lines expelled taken none
  | leaves (h : client.takeAll lines = some (client.told lines)) (hexpelled : expelled) :
      Fate client lines expelled lines none

namespace Fate

variable {client : Client} {lines first later taken : List String} {expelled : Prop}
  {after : Option Client}

/-- A client takes a beginning of what it is offered. -/
theorem taken_prefix (h : Fate client lines expelled taken after) : taken <+: lines := by
  cases h with
  | stays | leaves => exact List.prefix_rfl
  | refuses hlines => exact ⟨_, hlines.symm⟩

/-- A client that stays takes all that it is offered. -/
theorem taken_eq_of_stays (h : Fate client lines expelled taken after)
    (hstays : after.isSome = true) : taken = lines := by
  cases h with
  | stays => rfl
  | refuses | leaves => cases hstays

/-- The client decides by itself. -/
theorem of_takeAll (client : Client) (lines : List String) (expelled : Prop) :
    ∃ taken, Fate client lines expelled taken (client.takeAll lines) := by
  cases h : client.takeAll lines with
  | some after =>
    obtain rfl := Client.eq_told_of_takeAll h
    exact ⟨lines, .stays h⟩
  | none =>
    obtain ⟨taken, line, rest, hlines, htaken, hrefuses⟩ := Client.exists_refused h
    exact ⟨taken, .refuses hlines htaken (Client.refuses_iff.1 hrefuses)⟩

/-- Lines that are offered one part after the other: whoever refuses one of the first is gone, and
whoever takes them goes on with the later ones. -/
theorem exists_append (hgone : client.takeAll first = none → after = none)
    (hlater : ∀ between, client.takeAll first = some between →
      ∃ taken, Fate between later expelled taken after) :
    ∃ taken, Fate client (first ++ later) expelled taken after := by
  cases hfirst : client.takeAll first with
  | none =>
    have hlines : client.takeAll (first ++ later) = none := by
      rw [Client.takeAll_append, hfirst]
      rfl
    have hfate := of_takeAll client (first ++ later) expelled
    rw [hlines] at hfate
    rwa [hgone hfirst]
  | some between =>
    obtain ⟨taken, hfate⟩ := hlater between hfirst
    obtain rfl := Client.eq_told_of_takeAll hfirst
    have htake : ∀ more, (client.told first).takeAll more = some ((client.told first).told more) →
        client.takeAll (first ++ more) = some (client.told (first ++ more)) := by
      intro more hmore
      rw [Client.takeAll_append, hfirst, Option.bind_some, hmore, Client.told_told]
    refine ⟨first ++ taken, ?_⟩
    cases hfate with
    | stays h =>
      rw [Client.told_told]
      exact .stays (htake later h)
    | @refuses _ rest line hlines htaken h =>
      have hall : first ++ later = (first ++ taken) ++ line :: rest := by
        rw [hlines, List.append_assoc]
      rw [Client.told_told] at h
      exact .refuses hall (htake taken htaken) h
    | leaves h hexpelled => exact .leaves (htake later h) hexpelled

/-- A weaker reason to be expelled leaves the fate as it is. -/
theorem imp {banned : Prop} (h : Fate client lines expelled taken after)
    (himp : expelled → banned) : Fate client lines banned taken after := by
  cases h with
  | stays h => exact .stays h
  | refuses hlines htaken hrefuses => exact .refuses hlines htaken hrefuses
  | leaves h hexpelled => exact .leaves h (himp hexpelled)

end Fate

/-! ## One client among others -/

namespace Registry

/-- Just the clients that refuse a line are told to be disconnected. -/
theorem mem_broadcast_iff {registry : Registry} (h : registry.ids.Nodup) {id : ClientId}
    {client : Client} (hclient : registry.find? id = some client) (line : String) :
    id ∈ (registry.broadcast line).1 ↔ client.refuses line = true := by
  have hmem := List.mem_of_find?_eq_some hclient
  have hid := id_of_find? hclient
  rw [broadcast, List.mem_map]
  constructor
  · rintro ⟨other, hother, hsame⟩
    obtain ⟨hother, hrefuses⟩ := List.mem_filter.1 hother
    have heq : other = client := Keyed.eq_of_key_eq h hother hmem (hsame.trans hid.symm)
    exact heq ▸ hrefuses
  · intro hrefuses
    exact ⟨client, List.mem_filter.2 ⟨hmem, hrefuses⟩, hid⟩

/-- A line that is put on every queue, with those removed who refuse it, is offered to each client
by itself. -/
theorem find?_broadcast_eq {registry : Registry} (h : registry.ids.Nodup) (line : String)
    (id : ClientId) :
    ((registry.broadcast line).2.removeAll (registry.broadcast line).1).find? id =
      (registry.find? id).bind fun client => client.takeAll [line] := by
  have hoffered : (registry.broadcast line).2.find? id =
      (registry.find? id).map fun client => client.offered line :=
    find?_of_map (fun client => client.id_offered line) rfl id
  rw [find?_removeAll, hoffered]
  cases hclient : registry.find? id with
  | none => simp
  | some client =>
    have hmem := mem_broadcast_iff h hclient line
    cases hrefuses : client.refuses line with
    | true => simp [hmem.2 hrefuses, Client.takeAll, hrefuses]
    | false =>
      have hnot : id ∉ (registry.broadcast line).1 := by
        intro hid
        rw [hmem.1 hid] at hrefuses
        cases hrefuses
      simp [hnot, Client.takeAll, hrefuses, Client.offered_of_not_refuses hrefuses]

/-- Sending a line to a client fails just if its queue refuses the line. -/
theorem send_eq_error_iff {registry : Registry} {id : ClientId} {client : Client}
    (hclient : registry.find? id = some client) (line : String) :
    (∃ e, registry.send id line = .error e) ↔ client.refuses line = true := by
  unfold send Client.refuses
  rw [hclient]
  cases hsend : client.send line <;> simp [hsend]

/-- Removing a client that is not there changes nothing. -/
theorem remove_of_find?_eq_none {registry : Registry} {id : ClientId}
    (h : registry.find? id = none) : registry.remove id = registry := by
  have hkeep : registry.clients.filter (fun client => client.id ≠ id) = registry.clients := by
    rw [List.filter_eq_self]
    intro client hmem
    have hid := List.find?_eq_none.1 h client hmem
    simpa using hid
  rw [remove, hkeep]

/-- A client that is not there does not come back where clients only leave. -/
theorem Shrinks.find?_eq_none {before after : Registry} (h : before.Shrinks after)
    {id : ClientId} (hnone : before.find? id = none) : after.find? id = none := by
  have habsent : ∀ registry : Registry, registry.find? id = none ↔ id ∉ registry.ids := by
    intro registry
    rw [find?, List.find?_eq_none, Registry.ids, List.mem_map]
    simp
  rw [habsent] at hnone ⊢
  exact fun hmem => hnone (h.ids.subset hmem)

end Registry

namespace Loop

variable {σ : Type}

/-- A client to whom an event is announced takes it or is removed. -/
theorem find?_announce_eq {loop : Loop σ} (h : loop.clients.Numbered) (event : Notification)
    (id : ClientId) :
    (loop.announce event).clients.find? id =
      (loop.clients.find? id).bind fun client => client.takeAll [event.line.wire] :=
  Registry.find?_broadcast_eq h.distinct event.line.wire id

/-- Every event is offered to everybody who took the ones before, whoever else refuses it. -/
theorem find?_broadcast_eq (loop : Loop σ) (h : loop.clients.Numbered)
    (events : List Notification) (id : ClientId) :
    (loop.broadcast events).clients.find? id =
      (loop.clients.find? id).bind fun client =>
        client.takeAll (wires (events.map .notification)) := by
  induction events generalizing loop with
  | nil =>
    change loop.clients.find? id = (loop.clients.find? id).bind some
    cases loop.clients.find? id <;> rfl
  | cons event rest ih =>
    have hnumbered : (loop.announce event).clients.Numbered :=
      h.shrink (loop.shrinks_broadcast [event])
    have hrest : (loop.broadcast (event :: rest)).clients.find? id =
        ((loop.announce event).broadcast rest).clients.find? id := rfl
    have hwires : wires ((event :: rest).map .notification) =
        [event.line.wire] ++ wires (rest.map .notification) := rfl
    rw [hrest, ih _ hnumbered, find?_announce_eq h, hwires]
    simp only [Client.takeAll_append, Option.bind_assoc]

/-- An answer is offered to nobody but its receiver. -/
theorem find?_reply_eq {loop : Loop σ} (receiver : ClientId) (messages : List Message)
    (id : ClientId) :
    (loop.reply receiver messages).clients.find? id =
      (loop.clients.find? id).bind fun client =>
        client.takeAll (if id = receiver then wires messages else []) := by
  induction messages generalizing loop with
  | nil =>
    change loop.clients.find? id = _
    cases loop.clients.find? id <;> simp [wires, Client.takeAll]
  | cons message rest ih =>
    unfold reply
    cases hsend : loop.clients.send receiver message.line.wire with
    | ok clients =>
      have hfind := Registry.find?_send hsend id
      simp only [ih, hfind]
      by_cases hid : id = receiver
      · cases hclient : loop.clients.find? id with
        | none => simp
        | some client =>
          have htakes : client.refuses message.line.wire = false := by
            have herror := Registry.send_eq_error_iff (hid ▸ hclient) message.line.wire
            rw [hsend] at herror
            simpa using herror
          simp [hid, wires, Client.takeAll, htakes]
      · cases loop.clients.find? id <;> simp [hid, Client.takeAll]
    -- the receiver is removed at the first line that it refuses, and the others are not sent
    | error e =>
      change (loop.clients.remove receiver).find? id = _
      rw [Registry.find?_remove]
      by_cases hid : id = receiver
      · cases hclient : loop.clients.find? id with
        | none => simp
        | some client =>
          have hrefuses : client.refuses message.line.wire = true :=
            (Registry.send_eq_error_iff (hid ▸ hclient) message.line.wire).1 ⟨e, hsend⟩
          simp [hid, wires, Client.takeAll, hrefuses]
      · cases loop.clients.find? id <;> simp [hid, Client.takeAll]

/-- What is done for one frame is offered to each client by itself. -/
theorem find?_answered {loop : Loop σ} (h : loop.clients.Numbered) (sender : ClientId)
    (frame : String) (outcome : Outcome) (host : Host σ) (id : ClientId) :
    ((({ loop with host }.broadcast outcome.events).reply sender
        outcome.replies).clients.find? id) =
      (loop.clients.find? id).bind fun client =>
        client.takeAll (wires ((Deed.answered sender frame outcome).messagesTo id)) := by
  have hevents := find?_broadcast_eq { loop with host } h outcome.events id
  have hlines : wires ((Deed.answered sender frame outcome).messagesTo id) =
      wires (outcome.events.map .notification) ++
        if id = sender then wires outcome.replies else [] := by
    by_cases hid : id = sender <;>
      simp [hid, wires, Deed.messagesTo, Deed.events, Deed.answersTo]
  rw [find?_reply_eq, hevents, hlines]
  simp only [Client.takeAll_append, Option.bind_assoc]

/-- Whoever is not disconnected stays as it is. -/
theorem exists_fate_remove (loop : Loop σ) {removed id : ClientId} {client : Client}
    {expelled : Prop} (hclient : loop.clients.find? id = some client)
    (hexpelled : removed = id → expelled) :
    ∃ taken, Fate client [] expelled taken ((loop.remove removed).clients.find? id) := by
  change ∃ taken, Fate client [] expelled taken ((loop.clients.remove removed).find? id)
  rw [Registry.find?_remove]
  by_cases hid : id = removed
  · have htake : client.takeAll [] = some (client.told []) := congrArg some client.told_nil.symm
    rw [if_pos hid]
    exact ⟨[], .leaves htake (hexpelled hid.symm)⟩
  · rw [if_neg hid, hclient]
    exact Fate.of_takeAll client [] expelled

/-- Carrying out the frames of a client disconnects nobody who takes what is meant for it, except
the client itself for a violation. -/
theorem exists_fate_serve (orchestrator : Orchestrator σ) (config : Config) (sender : ClientId)
    (violation : Option FrameError) (loop : Loop σ) (h : loop.clients.Numbered)
    (frames : List String) {id : ClientId} {client : Client}
    (hclient : loop.clients.find? id = some client) :
    let done := loop.deeds orchestrator config sender frames
    ∃ taken, Fate client (wires (done.flatMap (Deed.messagesTo id)))
      (sender = id ∧
        (violation.isSome = true ∨ ∃ frame ∈ frames, ∃ e, recognize config frame = .error e))
      taken ((loop.serve orchestrator config sender violation frames).clients.find? id) := by
  induction frames generalizing loop client with
  | nil =>
    unfold serve deeds
    split
    · rename_i hviolation
      exact exists_fate_remove loop hclient fun hid => ⟨hid, .inl hviolation⟩
    · rw [hclient]
      exact Fate.of_takeAll client [] _
  | cons frame rest ih =>
    unfold serve deeds
    by_cases hsender : loop.clients.contains sender = true
    · rw [if_pos hsender, if_pos hsender]
      cases hdispatch : dispatch orchestrator config frame loop.host with
      | mk result host =>
        cases result with
        | ok outcome =>
          let told := { loop with host }.broadcast outcome.events
          let answered := told.reply sender outcome.replies
          let served := answered.serve orchestrator config sender violation rest
          have hanswered : loop.clients.Shrinks answered.clients :=
            ({ loop with host }.shrinks_broadcast outcome.events).trans
              (told.shrinks_reply sender outcome.replies)
          have hserved : answered.clients.Shrinks served.clients :=
            answered.shrinks_serve orchestrator config sender violation rest
          have hfind : answered.clients.find? id =
              client.takeAll (wires ((Deed.answered sender frame outcome).messagesTo id)) := by
            have hfind := find?_answered h sender frame outcome host id
            rw [hclient] at hfind
            exact hfind
          dsimp only
          rw [List.flatMap_cons, wires_append]
          -- whoever refuses a line of this frame is gone, and all others meet the frames after it
          refine Fate.exists_append ?_ ?_
          · intro hrefuses
            exact hserved.find?_eq_none (hfind.trans hrefuses)
          · intro between htakes
            obtain ⟨taken, hfate⟩ := ih answered (h.shrink hanswered) (hfind.trans htakes)
            refine ⟨taken, hfate.imp ?_⟩
            rintro ⟨hid, hviolation | ⟨later, hmem, hbroken⟩⟩
            · exact ⟨hid, .inl hviolation⟩
            · exact ⟨hid, .inr ⟨later, List.mem_cons_of_mem _ hmem, hbroken⟩⟩
        | error e =>
          have hbroken : recognize config frame = .error e := dispatch_eq_error (by rw [hdispatch])
          have hexpelled : ∃ broken ∈ frame :: rest, ∃ e, recognize config broken = .error e :=
            ⟨frame, List.mem_cons_self, e, hbroken⟩
          exact exists_fate_remove { loop with host } hclient
            fun hid => ⟨hid, .inr hexpelled⟩
    · rw [if_neg hsender, if_neg hsender, hclient]
      exact Fate.of_takeAll client [] _

end Loop

/-! ## Occurrences -/

namespace Occurrence

variable {σ : Type}

/-- A client after an occurrence has changed its bytes or its queue, before the loop offers it any
line. -/
def touched : Occurrence σ → Client → Client
  | reported (.data sender bytes), client =>
    if client.id = sender then { client with frames := (client.frames.feed bytes).2 } else client
  | wrote taken ends, client => Watched.relieved taken ends client
  | _, client => client

/-- Whether an occurrence is a reason of its own to disconnect a client: the client breaks framing,
or sends a frame that is no command, or its connection ends. -/
def expels (config : Config) (client : Client) : Occurrence σ → Prop
  | reported (.data sender bytes) =>
    let fed := (client.frames.feed bytes).1
    sender = client.id ∧
      (fed.error.isSome = true ∨ ∃ frame ∈ fed.frames, ∃ e, recognize config frame = .error e)
  | reported (.closed sender) => sender = client.id
  | _ => False

end Occurrence

namespace Watched

variable {σ : Type} {orchestrator : Orchestrator σ} {config : Config} {watched : Watched σ}
  {id : ClientId} {client : Client}

/-- Bytes of a sender decide the fate of a client: what it is offered is what the deeds tell it. -/
theorem exists_fate_receive (h : watched.loop.clients.Numbered)
    (hclient : watched.client? id = some client) (sender : ClientId) (bytes : List UInt8) :
    let occurrence : Occurrence σ := .reported (.data sender bytes)
    let happened := watched.happen orchestrator config occurrence
    ∃ taken, Fate (occurrence.touched client) (wires (happened.1.flatMap (Deed.messagesTo id)))
      (occurrence.expels config client) taken (happened.2.client? id) := by
  intro occurrence happened
  let fed := watched.loop.clients.feed sender bytes
  let touched := occurrence.touched client
  have hid : client.id = id := Registry.id_of_find? hclient
  have hnumbered : fed.2.Numbered := h.shrink (watched.loop.clients.shrinks_feed sender bytes)
  have htouched : fed.2.find? id = some touched := by
    have hfeed := watched.loop.clients.find?_feed sender bytes id
    have hbefore : watched.loop.clients.find? id = some client := hclient
    rw [hbefore, ← hid] at hfeed
    rw [← hid]
    exact hfeed
  obtain ⟨taken, hfate⟩ := Loop.exists_fate_serve orchestrator config sender fed.1.error
    { watched.loop with clients := fed.2 } hnumbered fed.1.frames htouched
  refine ⟨taken, hfate.imp ?_⟩
  rintro ⟨rfl, hbroken⟩
  have hfed : fed.1 = (client.frames.feed bytes).1 := Registry.feed_fst hclient bytes
  rw [hfed] at hbroken
  exact ⟨hid.symm, hbroken⟩

/-- What becomes of a connected client when something happens. -/
theorem exists_fate_happen (h : watched.loop.clients.Numbered)
    (hclient : watched.client? id = some client) (occurrence : Occurrence σ) :
    let happened := watched.happen orchestrator config occurrence
    ∃ taken, Fate (occurrence.touched client) (wires (happened.1.flatMap (Deed.messagesTo id)))
      (occurrence.expels config client) taken (happened.2.client? id) := by
  have hbefore : watched.loop.clients.find? id = some client := hclient
  have hid : client.id = id := Registry.id_of_find? hclient
  -- Whatever is told to everybody is offered to each by itself.
  have htold : ∀ (host : Host σ) (events : List Notification),
      ∃ taken, Fate client (wires ([Deed.told events].flatMap (Deed.messagesTo id))) False taken
        (({ watched.loop with host }.broadcast events).clients.find? id) := by
    intro host events
    have hfind := Loop.find?_broadcast_eq { watched.loop with host } h events id
    have hlines : [Deed.told events].flatMap (Deed.messagesTo id) =
        events.map .notification := by
      simp [Deed.messagesTo, Deed.events, Deed.answersTo]
    rw [hfind, hbefore, hlines]
    exact Fate.of_takeAll client _ False
  intro happened
  cases occurrence with
  | accepted socket =>
    have hfind : happened.2.client? id = some client :=
      (watched.loop.find?_register (.inl (h.lt_nextId hbefore))).trans hbefore
    rw [hfind]
    exact Fate.of_takeAll client [] _
  | reported event =>
    cases event with
    | data sender bytes => exact exists_fate_receive h hclient sender bytes
    | closed removed =>
      exact watched.loop.exists_fate_remove hbefore fun hremoved => hremoved.trans hid.symm
  | observed items =>
    obtain ⟨host, hobserve⟩ := watched.loop.observe_eq orchestrator items
    have hnext : happened.2.client? id =
        ({ watched.loop with host }.broadcast (watched.loop.news orchestrator items)).clients.find?
          id := by
      rw [← hobserve]
      rfl
    rw [hnext]
    exact htold host _
  | ticked =>
    obtain ⟨host, hpoll⟩ := watched.loop.poll_eq orchestrator
    have hnext : happened.2.client? id =
        ({ watched.loop with host }.broadcast (watched.loop.reconcile orchestrator).1).clients.find?
          id := by
      rw [← hpoll]
      rfl
    rw [hnext]
    exact htold host _
  | wrote taken ends =>
    have hfind : happened.2.client? id = some (relieved taken ends client) := by
      have hmap : happened.2.client? id = (watched.client? id).map (relieved taken ends) :=
        Registry.find?_of_map (f := relieved taken ends) (fun _ => rfl) rfl id
      rw [hmap, hclient]
      rfl
    rw [hfind]
    exact Fate.of_takeAll (relieved taken ends client) [] _
  | interfered files mounts =>
    have hfind : happened.2.client? id = some client := hclient
    rw [hfind]
    exact Fate.of_takeAll client [] _

/-- Nothing comes from a client that is not connected. -/
theorem happen_of_absent (orchestrator : Orchestrator σ) (config : Config)
    (h : watched.client? id = none) :
    (∀ bytes, watched.happen orchestrator config (.reported (.data id bytes)) = ([], watched)) ∧
      watched.happen orchestrator config (.reported (.closed id)) = ([], watched) := by
  have hfind : watched.loop.clients.find? id = none := h
  constructor
  · intro bytes
    simp [happen, Loop.receive, Registry.feed, hfind, Loop.deeds, Loop.serve]
  · simp [happen, Loop.remove, Registry.remove_of_find?_eq_none hfind]

/-- A client whose number was given and who is not connected never comes back. -/
theorem run_of_absent {occurrences : List (Occurrence σ)} (hid : id < watched.nextId)
    (h : watched.client? id = none) :
    let final := (watched.run orchestrator config occurrences).2
    final.client? id = none ∧ final.queued id = watched.queued id := by
  induction occurrences generalizing watched with
  | nil => exact ⟨h, rfl⟩
  | cons occurrence rest ih =>
    let next := (watched.happen orchestrator config occurrence).2
    have hnone : next.client? id = none := by
      rw [← Option.not_isSome_iff_eq_none]
      intro hsome
      have hconnected := (happen_stays (.inl hid) hsome).connected
      rw [h] at hconnected
      cases hconnected
    have hqueued : next.queued id = watched.queued id := by
      simp only [queued, hnone, h, next, written_happen h]
    obtain ⟨hgone, hsame⟩ := ih (Nat.lt_of_lt_of_le hid (nextId_le_happen occurrence)) hnone
    exact ⟨hgone, hsame.trans hqueued⟩

/-- A connected client was accepted before, and has got all that was meant for it since then. -/
theorem exists_queued_since {host : Host σ} {before : List (Occurrence σ)}
    (h : (((start host).run orchestrator config before).2.client? id).isSome = true) :
    ∃ earlier socket between, before = earlier ++ .accepted socket :: between ∧
      let waiting := ((start host).run orchestrator config earlier).2
      let accepted := (waiting.happen orchestrator config (.accepted socket)).2
      let now := ((start host).run orchestrator config before).2
      waiting.nextId = id ∧ now = (accepted.run orchestrator config between).2 ∧ id < now.nextId ∧
        now.queued id = wires
          ((accepted.run orchestrator config between).1.flatMap (Deed.messagesTo id)) := by
  obtain ⟨earlier, socket, between, rfl, hid, hfree⟩ :=
    exists_accepted (tidy_start host) (Nat.zero_le id) h
  let waiting := ((start host).run orchestrator config earlier).2
  let accepted := (waiting.happen orchestrator config (.accepted socket)).2
  have hnow : ((start host).run orchestrator config (earlier ++ .accepted socket :: between)).2 =
      (accepted.run orchestrator config between).2 := by
    simp only [accepted, waiting, run_append, Watched.run]
  have hwaiting : waiting.Tidy := (tidy_start host).run earlier
  obtain ⟨-, hempty, hnext⟩ := hwaiting.accepted orchestrator config hfree
  have hgiven : id < accepted.nextId := hid ▸ hnext ▸ Nat.lt_succ_self waiting.nextId
  rw [hid] at hempty
  rw [hnow] at h
  have hbetween := run_stays hgiven h
  refine ⟨earlier, socket, between, rfl, hid, hnow, ?_, ?_⟩
  · rw [hnow]
    exact Nat.lt_of_lt_of_le hgiven (nextId_le_run between)
  · rw [hnow, hbetween.queued, hempty, List.nil_append]

/-- At any occurrence of a run a connected client meets its own fate, and what was ever put on its
queue until then is the beginning of what is ever meant for it. -/
theorem exists_fate_in_run (orchestrator : Orchestrator σ) (config : Config) (host : Host σ)
    (before : List (Occurrence σ)) (occurrence : Occurrence σ) (after : List (Occurrence σ)) :
    let now := ((start host).run orchestrator config before).2
    let deeds := (now.happen orchestrator config occurrence).1
    let next := (now.happen orchestrator config occurrence).2
    now.client? id = some client →
      ∃ earlier socket between taken, before = earlier ++ .accepted socket :: between ∧
        let waiting := ((start host).run orchestrator config earlier).2
        let accepted := (waiting.happen orchestrator config (.accepted socket)).2
        let allDeeds := (accepted.run orchestrator config (between ++ occurrence :: after)).1
        waiting.nextId = id ∧
          Fate (occurrence.touched client) (wires (deeds.flatMap (Deed.messagesTo id)))
            (occurrence.expels config client) taken (next.client? id) ∧
          ((next.client? id).isSome = true → next.queued id = now.queued id ++ taken) ∧
          now.queued id ++ taken <+: wires (allDeeds.flatMap (Deed.messagesTo id)) := by
  intro now deeds next hclient
  have hnumbered : now.loop.clients.Numbered := numbered_run Registry.numbered_empty before
  have hconnected : (now.client? id).isSome = true := by
    rw [hclient]
    rfl
  -- what was meant for it before the occurrence is all on its queue, since it stayed
  obtain ⟨earlier, socket, between, hbefore, hid, hnow, hgiven, hqueued⟩ :=
    exists_queued_since hconnected
  let waiting := ((start host).run orchestrator config earlier).2
  let accepted := (waiting.happen orchestrator config (.accepted socket)).2
  have hall : (accepted.run orchestrator config (between ++ occurrence :: after)).1 =
      (accepted.run orchestrator config between).1 ++
        (deeds ++ (next.run orchestrator config after).1) := by
    have hbetween : (accepted.run orchestrator config between).2 = now := hnow.symm
    simp only [run_append, Watched.run, hbetween, deeds, next]
  obtain ⟨taken, hfate⟩ := exists_fate_happen hnumbered hclient occurrence
  refine ⟨earlier, socket, between, taken, hbefore, hid, hfate, ?_, ?_⟩
  · intro hstays
    have hlast := happen_stays (.inl hgiven) hstays
    rw [hfate.taken_eq_of_stays hstays]
    exact hlast.queued
  · obtain ⟨rest, hrest⟩ := hfate.taken_prefix
    refine ⟨rest ++ wires ((next.run orchestrator config after).1.flatMap (Deed.messagesTo id)),
      ?_⟩
    rw [hqueued, hall, List.flatMap_append, List.flatMap_append, wires_append, wires_append]
    rw [← hrest, List.append_assoc, List.append_assoc]

/-- A client that comes on a registered socket is refused without a trace.  Any other one is connected
then, with a number below all that are given later. -/
theorem happen_accepted (h : watched.Tidy) (socket : Nat) (after : List (Occurrence σ)) :
    let next := (watched.happen orchestrator config (.accepted socket)).2
    let final := (next.run orchestrator config after).2
    (∀ refusal, watched.loop.clients.register socket = .error refusal → next = watched) ∧
      ∀ id clients, watched.loop.clients.register socket = .ok (id, clients) →
        next.client? id = some (.accepted id socket) ∧
        ∀ other later clients, final.loop.clients.register other = .ok (later, clients) →
          id < later := by
  intro next final
  obtain ⟨htaken, hregister⟩ | ⟨hfree, -⟩ := watched.loop.register_cases socket
  · have hsame : next = watched := by
      simp only [next, happen, hregister]
    refine ⟨fun _ _ => hsame, fun id clients hid => ?_⟩
    rw [Registry.register, htaken] at hid
    cases hid
  · obtain ⟨hclient, -, hnext⟩ := h.accepted orchestrator config hfree
    have hregistered : watched.loop.clients.register socket =
        .ok (watched.loop.clients.enroll socket) := by
      rw [Registry.register, hfree, if_neg Bool.false_ne_true]
    rw [hregistered]
    refine ⟨?_, fun id clients hid => ?_⟩
    · rintro refusal ⟨⟩
    obtain rfl : watched.nextId = id := congrArg Prod.fst (Except.ok.inj hid)
    refine ⟨hclient, fun other later clients hlater => ?_⟩
    obtain rfl : later = final.nextId := Registry.fst_of_register hlater
    have hle : next.nextId ≤ final.nextId := nextId_le_run after
    exact Nat.lt_of_lt_of_le (hnext ▸ Nat.lt_succ_self watched.nextId) hle

/-- Whatever happens in a run, a connected client was accepted before and meets its own fate: it
takes what is meant for it up to the first line that it refuses, so that what was ever put on its
queue is the beginning of what was ever meant for it, and else it is disconnected for a violation of
its own or when its connection ends.  A client that is disconnected gets nothing more, whatever
follows.  An event is offered to everybody who is connected.  A client whose socket is still
registered changes nothing, any other one is connected when it comes, and numbers that are given later
are greater.  What arrives from a client that is not connected changes nothing. -/
theorem clients_leave_without_gaps (orchestrator : Orchestrator σ) (config : Config)
    (host : Host σ) (before : List (Occurrence σ)) (occurrence : Occurrence σ)
    (after : List (Occurrence σ)) :
    let now := ((start host).run orchestrator config before).2
    let deeds := (now.happen orchestrator config occurrence).1
    let next := (now.happen orchestrator config occurrence).2
    let final := (next.run orchestrator config after).2
    (∀ id client, now.client? id = some client →
      ∃ earlier socket between taken, before = earlier ++ .accepted socket :: between ∧
        let waiting := ((start host).run orchestrator config earlier).2
        let accepted := (waiting.happen orchestrator config (.accepted socket)).2
        let allDeeds := (accepted.run orchestrator config (between ++ occurrence :: after)).1
        waiting.nextId = id ∧
          Fate (occurrence.touched client) (wires (deeds.flatMap (Deed.messagesTo id)))
            (occurrence.expels config client) taken (next.client? id) ∧
          ((next.client? id).isSome = true → next.queued id = now.queued id ++ taken) ∧
          now.queued id ++ taken <+: wires (allDeeds.flatMap (Deed.messagesTo id))) ∧
    (∀ id, id < next.nextId → next.client? id = none →
      final.client? id = none ∧ final.queued id = next.queued id) ∧
    (∀ event id, (now.loop.announce event).clients.find? id =
      (now.client? id).bind fun client => client.takeAll [event.line.wire]) ∧
    (∀ socket, occurrence = .accepted socket →
      (∀ refusal, now.loop.clients.register socket = .error refusal → next = now) ∧
      ∀ id clients, now.loop.clients.register socket = .ok (id, clients) →
        next.client? id = some (.accepted id socket) ∧
        ∀ other later clients, final.loop.clients.register other = .ok (later, clients) →
          id < later) ∧
    ∀ id, now.client? id = none →
      (∀ bytes, now.happen orchestrator config (.reported (.data id bytes)) = ([], now)) ∧
        now.happen orchestrator config (.reported (.closed id)) = ([], now) := by
  intro now deeds next final
  have hnumbered : now.loop.clients.Numbered := numbered_run Registry.numbered_empty before
  refine ⟨?_, ?_, ?_, ?_, ?_⟩
  · intro id client hclient
    exact exists_fate_in_run orchestrator config host before occurrence after hclient
  · intro id hid hnone
    exact run_of_absent hid hnone
  · intro event id
    exact Loop.find?_announce_eq hnumbered event id
  · rintro socket rfl
    exact happen_accepted ((tidy_start host).run before) socket after
  · intro id hnone
    exact happen_of_absent orchestrator config hnone

/-- The writer of the first of two clients ends before the second one mounts a partition. -/
theorem clients_leave_without_gaps_of_lost_writer :
    let tree := ((Tree.empty.apply .usbStick .add).1.apply .usbPartition .online).1
    let before : List (Occurrence Mount.Rehearsal) :=
      [.accepted 8, .accepted 9, .wrote (fun _ => 0) fun client => client.id == 0]
    let mount : Occurrence Mount.Rehearsal :=
      .reported (.data 1 (Text.Utf8.encode "mount(\"/dev/sdb1\", nil)\n"))
    let now := ((start ⟨tree, .empty, .start true⟩).run Mount.Rehearsal.orchestrator .standard
      before).2
    let next := (now.happen Mount.Rehearsal.orchestrator .standard mount).2
    let final := (next.run Mount.Rehearsal.orchestrator .standard [.ticked, .accepted 9]).2
    (now.client? 0).isSome = true ∧ (0 < next.nextId ∧ next.client? 0 = none) ∧
      (final.client? 0 = none ∧ final.queued 0 = []) ∧
      next.queued 1 =
        ["removable_device_mounted(\"/dev/sdb1\", \"/media/sdb1\", \"rw,nosuid,nodev,flush\")\n",
          "succeeded(\"mount\", \"/dev/sdb1\", nil)\n"] := by
  intro tree before mount now next final
  have hconnected : (now.client? 0).isSome = true := by
    decide +kernel
  have hgone : 0 < next.nextId ∧ next.client? 0 = none := by
    decide +kernel
  have hqueued : next.queued 0 = [] := by
    decide +kernel
  have hother : next.queued 1 =
      ["removable_device_mounted(\"/dev/sdb1\", \"/media/sdb1\", \"rw,nosuid,nodev,flush\")\n",
        "succeeded(\"mount\", \"/dev/sdb1\", nil)\n"] := by
    decide +kernel
  obtain ⟨-, hlater, -⟩ := clients_leave_without_gaps Mount.Rehearsal.orchestrator .standard
    ⟨tree, .empty, .start true⟩ before mount [.ticked, .accepted 9]
  obtain ⟨hnever, hsame⟩ := hlater 0 hgone.1 hgone.2
  exact ⟨hconnected, hgone, ⟨hnever, hsame.trans hqueued⟩, hother⟩

end Watched

end RemovableMedia.Server
