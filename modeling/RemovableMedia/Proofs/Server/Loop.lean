import RemovableMedia.Proofs.Server.Answer
import RemovableMedia.Proofs.Server.Registry
import RemovableMedia.Server.Loop

/-!
# What the event loop does to its clients

The loop does two kinds of things: it tells all clients of what happened, and it answers a frame.
The history of these deeds fixes what is put on the queue of every client that stays connected
(`find?_serve`).
-/

set_option autoImplicit false

namespace RemovableMedia.Server

open RemovableMedia.Mount (Host Orchestrator)

/-- Messages as they are put on a queue. -/
def wires (messages : List Message) : List String :=
  messages.map fun message => message.line.wire

/-- Messages in a row go on the wire in a row. -/
theorem wires_append (first later : List Message) :
    wires (first ++ later) = wires first ++ wires later :=
  List.map_append

/-- Whether messages answer a frame. -/
def Answers (config : Config) (frame : String) (replies : List Message) : Prop :=
  ∃ command, recognize config frame = .ok command ∧ Answer command replies

/-- A thing that the event loop does. -/
inductive Deed where
  /-- It tells every client of what happened. -/
  | told (events : List Notification)
  /-- It carries out a frame of a client. -/
  | answered (id : ClientId) (frame : String) (outcome : Outcome)

namespace Deed

/-- What every client is told. -/
def events : Deed → List Notification
  | told events => events
  | answered _ _ outcome => outcome.events

/-- The frame of a client that is answered, if there is one, with its answer. -/
def answersTo (id : ClientId) : Deed → List (String × List Message)
  | told _ => []
  | answered other frame outcome => if id = other then [(frame, outcome.replies)] else []

/-- Whether the frame that is answered states a command, and the answer is one to this command. -/
def Proper (config : Config) : Deed → Prop
  | told _ => True
  | answered _ frame outcome => Answers config frame outcome.replies

/-- Everything that a client is told: first of what happened, then the answer to its frame. -/
def messagesTo (id : ClientId) (deed : Deed) : List Message :=
  deed.events.map .notification ++ (deed.answersTo id).flatMap Prod.snd

/-- Each answer of a proper deed answers its frame. -/
theorem Proper.answers {config : Config} {deed : Deed} (h : deed.Proper config) (id : ClientId) :
    ∀ answer ∈ deed.answersTo id, Answers config answer.1 answer.2 := by
  intro answer hmem
  cases deed with
  | told events => cases hmem
  | answered other frame outcome =>
    rw [answersTo] at hmem
    split at hmem
    · obtain rfl := List.mem_singleton.1 hmem
      exact h
    · cases hmem

/-- No answer of a proper deed is a notification. -/
theorem Proper.notification?_eq_none {config : Config} {deed : Deed} (h : deed.Proper config)
    (id : ClientId) :
    ∀ message ∈ (deed.answersTo id).flatMap Prod.snd, message.notification? = none := by
  intro message hmem
  obtain ⟨answer, hanswer, hmessage⟩ := List.mem_flatMap.1 hmem
  obtain ⟨command, -, hreplies⟩ := h.answers id answer hanswer
  exact hreplies.notification?_eq_none message hmessage

/-- The notifications among the messages of a proper deed are its events. -/
theorem Proper.notifications_messagesTo {config : Config} {deed : Deed} (h : deed.Proper config)
    (id : ClientId) : (deed.messagesTo id).filterMap Message.notification? = deed.events := by
  have hevents : (deed.events.map Message.notification).filterMap Message.notification? =
      deed.events := by
    simp [List.filterMap_map, Function.comp_def, Message.notification?]
  have hanswers := List.filterMap_eq_nil_iff.2 (h.notification?_eq_none id)
  rw [messagesTo, List.filterMap_append, hevents, hanswers, List.append_nil]

/-- The replies among the messages of a proper deed are its answers. -/
theorem Proper.replies_messagesTo {config : Config} {deed : Deed} (h : deed.Proper config)
    (id : ClientId) :
    (deed.messagesTo id).filter Message.isReply = (deed.answersTo id).flatMap Prod.snd := by
  have hevents : (deed.events.map Message.notification).filter Message.isReply = [] := by
    simp [List.filter_eq_nil_iff, Message.isReply, Message.notification?]
  have hanswers : ∀ message ∈ (deed.answersTo id).flatMap Prod.snd, message.isReply = true :=
    fun message hmem => Option.isNone_iff_eq_none.2 (h.notification?_eq_none id message hmem)
  rw [messagesTo, List.filter_append, hevents, List.filter_eq_self.2 hanswers, List.nil_append]

end Deed

namespace Loop

variable {σ : Type}

/-- What is done when the frames of a client are carried out. -/
def deeds (orchestrator : Orchestrator σ) (config : Config) (id : ClientId) (loop : Loop σ) :
    List String → List Deed
  | [] => []
  | frame :: rest =>
    if loop.clients.contains id then
      match dispatch orchestrator config frame loop.host with
      | (.ok outcome, host) =>
        .answered id frame outcome ::
          (({ loop with host }.broadcast outcome.events).reply id outcome.replies).deeds
            orchestrator config id rest
      | (.error _, _) => []
    else []

/-- What every client is told after a batch of the monitor's items. -/
def news (orchestrator : Orchestrator σ) (items : List Monitor.Item) (loop : Loop σ) :
    List Notification :=
  let (tree, events, ended) := applyItems loop.host.tree items
  if ended then events
  else events ++ ({ loop with host := { loop.host with tree } }.reconcile orchestrator).1

/-! ## Queues -/

/-- A socket that is still registered is dropped, and any other one brings a client in. -/
theorem register_cases (loop : Loop σ) (socket : Nat) :
    (loop.clients.hasSocket socket = true ∧ loop.register socket = loop) ∨
      loop.clients.hasSocket socket = false ∧
        loop.register socket = { loop with clients := (loop.clients.enroll socket).2 } := by
  unfold register Registry.register
  cases loop.clients.hasSocket socket with
  | true => exact .inl ⟨rfl, rfl⟩
  | false => exact .inr ⟨rfl, rfl⟩

/-- A socket that no client has is not dropped. -/
theorem register_freeSocket (loop : Loop σ) :
    loop.register loop.clients.freeSocket = loop.accept.2 := by
  rw [register, Registry.register_freeSocket]
  rfl

/-- A client that comes makes no difference to any other one. -/
theorem find?_register (loop : Loop σ) {socket : Nat} {id : ClientId}
    (h : id < loop.clients.nextId ∨ (loop.register socket).clients.nextId ≤ id) :
    (loop.register socket).clients.find? id = loop.clients.find? id := by
  obtain ⟨-, hregister⟩ | ⟨-, hregister⟩ := loop.register_cases socket
  · rw [hregister]
  · rw [hregister] at h ⊢
    have hother : id ≠ loop.clients.nextId := by
      rcases h with h | h
      · exact Nat.ne_of_lt h
      · exact Nat.ne_of_gt h
    refine (loop.clients.find?_enroll socket id).trans ?_
    rw [if_neg hother, Option.or_none]

/-- Who is there after a removal was there and is another one. -/
theorem find?_remove {loop : Loop σ} {removed id : ClientId} {after : Client}
    (h : (loop.remove removed).clients.find? id = some after) :
    id ≠ removed ∧ loop.clients.find? id = some after := by
  change (loop.clients.remove removed).find? id = some after at h
  rw [Registry.find?_remove] at h
  split at h
  · cases h
  · rename_i hid
    exact ⟨hid, h⟩

/-- Who is there after an announcement was told of it. -/
theorem find?_announce {loop : Loop σ} {event : Notification} {id : ClientId} {after : Client}
    (h : (loop.announce event).clients.find? id = some after) :
    ∃ before, loop.clients.find? id = some before ∧ after = before.told [event.line.wire] :=
  Registry.find?_broadcast h

/-- Who is there after events were told of was told of all of them. -/
theorem find?_broadcast {loop : Loop σ} {events : List Notification} {id : ClientId}
    {after : Client} (h : (loop.broadcast events).clients.find? id = some after) :
    ∃ before, loop.clients.find? id = some before ∧
      after = before.told (wires (events.map .notification)) := by
  induction events generalizing loop with
  | nil => exact ⟨after, h, after.told_nil.symm⟩
  | cons event rest ih =>
    have hrest : ((loop.announce event).broadcast rest).clients.find? id = some after := h
    obtain ⟨between, hbetween, rfl⟩ := ih hrest
    obtain ⟨before, hbefore, rfl⟩ := find?_announce hbetween
    exact ⟨before, hbefore, before.told_told _ _⟩

/-- Who is there after a reply was told of it if it is the receiver, and nothing otherwise. -/
theorem find?_reply {loop : Loop σ} {receiver : ClientId} {messages : List Message}
    {id : ClientId} {after : Client}
    (h : (loop.reply receiver messages).clients.find? id = some after) :
    ∃ before, loop.clients.find? id = some before ∧
      after = if id = receiver then before.told (wires messages) else before := by
  induction messages generalizing loop with
  | nil => exact ⟨after, h, by simp [wires]⟩
  | cons message rest ih =>
    unfold reply at h
    split at h
    · rename_i clients hsend
      obtain ⟨between, hbetween, rfl⟩ := ih h
      rw [Registry.find?_send hsend] at hbetween
      obtain ⟨before, hbefore, rfl⟩ := Option.map_eq_some_iff.1 hbetween
      refine ⟨before, hbefore, ?_⟩
      split
      · exact before.told_told _ _
      · rfl
    · obtain ⟨hid, hafter⟩ := find?_remove h
      exact ⟨after, hafter, (if_neg hid).symm⟩

/-- Whoever is still connected after the frames of a client were carried out has been told exactly
of what was done, and the client itself has an answer to each frame. -/
theorem find?_serve {orchestrator : Orchestrator σ} {config : Config} {sender : ClientId}
    {violation : Option FrameError} {loop : Loop σ} {frames : List String} {id : ClientId}
    {after : Client}
    (h : (loop.serve orchestrator config sender violation frames).clients.find? id = some after) :
    let done := loop.deeds orchestrator config sender frames
    ∃ before, loop.clients.find? id = some before ∧
      after = before.told (wires (done.flatMap (Deed.messagesTo id))) ∧
      (done.flatMap (Deed.answersTo id)).map Prod.fst = if id = sender then frames else [] := by
  induction frames generalizing loop with
  | nil =>
    have hafter : loop.clients.find? id = some after := by
      unfold serve at h
      split at h
      · exact (find?_remove h).2
      · exact h
    exact ⟨after, hafter, after.told_nil.symm, (ite_self []).symm⟩
  | cons frame rest ih =>
    unfold serve at h
    unfold deeds
    by_cases hsender : loop.clients.contains sender = true
    · rw [if_pos hsender] at h ⊢
      cases hdispatch : dispatch orchestrator config frame loop.host with
      | mk result host =>
        rw [hdispatch] at h
        cases result with
        | ok outcome =>
          obtain ⟨answered, hanswered, hafter, hframes⟩ := ih h
          obtain ⟨told, htold, rfl⟩ := find?_reply hanswered
          obtain ⟨before, hbefore, rfl⟩ := find?_broadcast htold
          refine ⟨before, hbefore, ?_, ?_⟩
          · rw [hafter]
            by_cases hid : id = sender <;>
              simp [Client.told_told, wires, Deed.messagesTo, Deed.events, Deed.answersTo, hid]
          · rw [List.flatMap_cons, List.map_append, hframes]
            by_cases hid : id = sender <;> simp [Deed.answersTo, hid]
        | error e =>
          -- Only the sender is disconnected, and nobody is told.
          obtain ⟨hid, hafter⟩ := find?_remove h
          exact ⟨after, hafter, after.told_nil.symm, (if_neg hid).symm⟩
    · rw [if_neg hsender] at h ⊢
      refine ⟨after, h, after.told_nil.symm, (if_neg ?_).symm⟩
      rintro rfl
      exact hsender (Option.isSome_iff_exists.2 ⟨after, h⟩)

/-! ## Deeds -/

/-- All deeds of the loop are proper. -/
theorem proper_of_mem_deeds {orchestrator : Orchestrator σ} {config : Config} {sender : ClientId}
    {loop : Loop σ} {frames : List String} :
    ∀ deed ∈ loop.deeds orchestrator config sender frames, deed.Proper config := by
  induction frames generalizing loop with
  | nil => simp [deeds]
  | cons frame rest ih =>
    unfold deeds
    split
    · split
      · rename_i outcome host hdispatch
        have hanswer : Answers config frame outcome.replies := dispatch_eq_ok (by rw [hdispatch])
        exact List.forall_mem_cons.2 ⟨hanswer, ih⟩
      · simp
    · simp

/-- Reconciliation changes only the host. -/
theorem reconcile_snd (orchestrator : Orchestrator σ) (loop : Loop σ) :
    ∃ host, (loop.reconcile orchestrator).2 = { loop with host } := by
  unfold reconcile
  split <;> exact ⟨_, rfl⟩

/-- A poll tells all clients what reconciliation has found. -/
theorem poll_eq (orchestrator : Orchestrator σ) (loop : Loop σ) :
    ∃ host, loop.poll orchestrator =
      { loop with host }.broadcast (loop.reconcile orchestrator).1 := by
  obtain ⟨host, hhost⟩ := loop.reconcile_snd orchestrator
  exact ⟨host, by rw [← hhost]; rfl⟩

/-- Whatever is observed, all clients are told just the news. -/
theorem observe_eq (orchestrator : Orchestrator σ) (items : List Monitor.Item) (loop : Loop σ) :
    ∃ host, (loop.observe orchestrator items).2 =
      { loop with host }.broadcast (loop.news orchestrator items) := by
  unfold observe news
  obtain ⟨tree, events, ended⟩ := applyItems loop.host.tree items
  cases ended with
  | true => exact ⟨_, rfl⟩
  | false =>
    let applied : Loop σ := { loop with host := { loop.host with tree } }
    obtain ⟨host, hhost⟩ := applied.reconcile_snd orchestrator
    refine ⟨host, ?_⟩
    change (applied.reconcile orchestrator).2.broadcast _ = _
    rw [hhost]
    rfl

/-! ## Numbers -/

/-- No client comes while events are told of. -/
theorem shrinks_broadcast (loop : Loop σ) (events : List Notification) :
    loop.clients.Shrinks (loop.broadcast events).clients := by
  induction events generalizing loop with
  | nil => exact .refl _
  | cons event rest ih =>
    have hannounce : loop.clients.Shrinks (loop.announce event).clients :=
      (loop.clients.shrinks_broadcast _).trans (Registry.shrinks_removeAll _ _)
    exact hannounce.trans (ih (loop.announce event))

/-- No client comes while a reply is made. -/
theorem shrinks_reply (loop : Loop σ) (id : ClientId) (messages : List Message) :
    loop.clients.Shrinks (loop.reply id messages).clients := by
  induction messages generalizing loop with
  | nil => exact .refl _
  | cons message rest ih =>
    unfold reply
    split
    · rename_i clients hsend
      exact (Registry.shrinks_send hsend).trans (ih { loop with clients })
    · exact loop.clients.shrinks_remove id

/-- No client comes while frames are served. -/
theorem shrinks_serve (orchestrator : Orchestrator σ) (config : Config) (id : ClientId)
    (violation : Option FrameError) (loop : Loop σ) (frames : List String) :
    loop.clients.Shrinks (loop.serve orchestrator config id violation frames).clients := by
  induction frames generalizing loop with
  | nil =>
    unfold serve
    split
    · exact loop.clients.shrinks_remove id
    · exact .refl _
  | cons frame rest ih =>
    unfold serve
    split
    · split
      · rename_i outcome host _
        let told := { loop with host }.broadcast outcome.events
        have htold : loop.clients.Shrinks told.clients :=
          { loop with host }.shrinks_broadcast outcome.events
        exact (htold.trans (told.shrinks_reply id outcome.replies)).trans (ih _)
      · exact loop.clients.shrinks_remove id
    · exact .refl _

/-- No client comes while bytes are received. -/
theorem shrinks_receive (orchestrator : Orchestrator σ) (config : Config) (id : ClientId)
    (bytes : List UInt8) (loop : Loop σ) :
    loop.clients.Shrinks (loop.receive orchestrator config id bytes).clients := by
  let fed := loop.clients.feed id bytes
  have hserve := shrinks_serve orchestrator config id fed.1.error { loop with clients := fed.2 }
    fed.1.frames
  exact (loop.clients.shrinks_feed id bytes).trans hserve

/-- No client comes while items are observed. -/
theorem shrinks_observe (orchestrator : Orchestrator σ) (items : List Monitor.Item)
    (loop : Loop σ) : loop.clients.Shrinks (loop.observe orchestrator items).2.clients := by
  obtain ⟨host, hobserve⟩ := loop.observe_eq orchestrator items
  rw [hobserve]
  exact { loop with host }.shrinks_broadcast _

/-- No client comes while the loop polls. -/
theorem shrinks_poll (orchestrator : Orchestrator σ) (loop : Loop σ) :
    loop.clients.Shrinks (loop.poll orchestrator).clients := by
  obtain ⟨host, hpoll⟩ := loop.poll_eq orchestrator
  rw [hpoll]
  exact { loop with host }.shrinks_broadcast _

end Loop

end RemovableMedia.Server
