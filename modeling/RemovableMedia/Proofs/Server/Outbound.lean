import RemovableMedia.Proofs.Device.Record
import RemovableMedia.Proofs.Server.Frame
import RemovableMedia.Proofs.Server.Loop
import RemovableMedia.Server.Peer

/-!
# What a client is told while it is connected

The event loop is watched together with what the writers take from the queues, so that all lines
that were ever put on the queue of a client are known.  Whatever happens, in whatever order, the
lines of a client that stays connected are those that the deeds of the loop call for
(`connected_client_hears`): every event, and the answers to the client's own frames.

What carries the proof is what one occurrence does to a client that is connected after it
(`happen_stays`).  Such facts are put together along a run (`Stays.trans`).
-/

set_option autoImplicit false

namespace RemovableMedia.Server

open RemovableMedia.Mount (Host Orchestrator)

/-- Something that happens to the event loop or beside it. -/
inductive Occurrence (σ : Type) where
  /-- A new client comes on a socket. -/
  | accepted (socket : Nat)
  /-- A connection reports bytes or its end. -/
  | reported (event : ClientEvent)
  /-- The monitor has items. -/
  | observed (items : List Monitor.Item)
  /-- The mount table may have changed. -/
  | ticked
  /-- Writers take some lines from the queues of their clients, and some of them end. -/
  | wrote (taken : Client → Nat) (ends : Client → Bool)
  /-- Somebody else changes files and mounts. -/
  | interfered (files : FileTree) (mounts : σ)

/-- The bytes that a client sends. -/
def Occurrence.bytesOf {σ : Type} (id : ClientId) : Occurrence σ → List (List UInt8)
  | reported (.data sender bytes) => if id = sender then [bytes] else []
  | _ => []

/-- The event loop together with the lines that the writers have taken. -/
structure Watched (σ : Type) where
  loop : Loop σ
  written : ClientId → List String

namespace Watched

variable {σ : Type}

/-- Nobody was accepted yet. -/
def start (host : Host σ) : Watched σ :=
  ⟨⟨host, .empty⟩, fun _ => []⟩

/-- The client of a number. -/
def client? (watched : Watched σ) (id : ClientId) : Option Client :=
  watched.loop.clients.find? id

/-- The number of the next client. -/
def nextId (watched : Watched σ) : ClientId :=
  watched.loop.clients.nextId

/-- All lines that were ever put on the queue of a client. -/
def queued (watched : Watched σ) (id : ClientId) : List String :=
  watched.written id ++ ((watched.client? id).map Client.queue).getD []

/-- The bytes of a client that are not yet part of a frame. -/
def buffer (watched : Watched σ) (id : ClientId) : FrameBuffer :=
  ((watched.client? id).map Client.frames).getD .empty

/-- The client after its writer took some lines and perhaps ended. -/
def relieved (taken : Client → Nat) (ends : Client → Bool) (client : Client) : Client :=
  { client with
    queue := client.queue.drop (taken client)
    hasWriter := client.hasWriter && !ends client }

/-- Lets the writers take some lines, and some of them end. -/
def write (watched : Watched σ) (taken : Client → Nat) (ends : Client → Bool) : Watched σ where
  loop :=
    { watched.loop with
      clients :=
        { watched.loop.clients with
          clients := watched.loop.clients.clients.map (relieved taken ends) } }
  written id :=
    watched.written id ++
      ((watched.client? id).map fun client => client.queue.take (taken client)).getD []

/-- The writers of all far ends take whatever waits. -/
theorem flush_eq_write (watched : Watched σ) (peers : Peers) :
    (peers.flush watched.loop.clients).1 =
      (watched.write (fun client => client.queue.length)
        fun client => !(peers.drained client).hasWriter).loop.clients := by
  simp [Peers.flush, write, relieved, Peers.drained]

/-- Lets something happen, and tells what the loop does. -/
def happen (orchestrator : Orchestrator σ) (config : Config) (watched : Watched σ) :
    Occurrence σ → List Deed × Watched σ
  | .accepted socket => ([], { watched with loop := watched.loop.register socket })
  | .reported (.data id bytes) =>
    let (fed, clients) := watched.loop.clients.feed id bytes
    ({ watched.loop with clients }.deeds orchestrator config id fed.frames,
      { watched with loop := watched.loop.receive orchestrator config id bytes })
  | .reported (.closed id) => ([], { watched with loop := watched.loop.remove id })
  | .observed items =>
    ([.told (watched.loop.news orchestrator items)],
      { watched with loop := (watched.loop.observe orchestrator items).2 })
  | .ticked =>
    ([.told (watched.loop.reconcile orchestrator).1],
      { watched with loop := watched.loop.poll orchestrator })
  | .wrote taken ends => ([], watched.write taken ends)
  | .interfered files mounts =>
    ([], { watched with loop.host.files := files, loop.host.mounts := mounts })

/-- Lets things happen one after another, and tells what the loop does. -/
def run (orchestrator : Orchestrator σ) (config : Config) (watched : Watched σ) :
    List (Occurrence σ) → List Deed × Watched σ
  | [] => ([], watched)
  | occurrence :: rest =>
    let (first, watched) := watched.happen orchestrator config occurrence
    let (later, watched) := watched.run orchestrator config rest
    (first ++ later, watched)

/-- The loop's deeds during a part of a run, in which a client sends pieces, account for what was
put on the queue of the client. -/
structure Stays (id : ClientId) (pieces : List (List UInt8)) (deeds : List Deed)
    (before after : Watched σ) : Prop where
  connected : (before.client? id).isSome = true
  queued : after.queued id = before.queued id ++ wires (deeds.flatMap (Deed.messagesTo id))
  buffer : after.buffer id = ((before.buffer id).feedAll pieces).2
  frames : (deeds.flatMap (Deed.answersTo id)).map Prod.fst =
    ((before.buffer id).feedAll pieces).1.flatMap Fed.frames

variable {id : ClientId} {before between after : Watched σ} {client : Client}
  {pieces more : List (List UInt8)} {deeds done : List Deed}

/-- Parts of a run in a row account for what was put on the queue in both. -/
theorem Stays.trans (hfirst : Stays id pieces deeds before between)
    (hlater : Stays id more done between after) :
    Stays id (pieces ++ more) (deeds ++ done) before after where
  connected := hfirst.connected
  queued := by
    rw [hlater.queued, hfirst.queued]
    simp [wires]
  buffer := by
    rw [hlater.buffer, hfirst.buffer, FrameBuffer.feedAll_append]
  frames := by
    rw [FrameBuffer.feedAll_append, ← hfirst.buffer, List.flatMap_append, List.map_append,
      List.flatMap_append, hfirst.frames, hlater.frames]

/-- A client stays if all that changes is that it was fed pieces and told what was done. -/
theorem Stays.of_client (hbefore : before.client? id = some client)
    (hafter : after.client? id = some
      (({ client with frames := (client.frames.feedAll pieces).2 } : Client).told
        (wires (deeds.flatMap (Deed.messagesTo id)))))
    (hwritten : after.written id = before.written id)
    (hframes : (deeds.flatMap (Deed.answersTo id)).map Prod.fst =
      (client.frames.feedAll pieces).1.flatMap Fed.frames) :
    Stays id pieces deeds before after where
  connected := by simp [hbefore]
  queued := by
    simp [Watched.queued, hbefore, hafter, hwritten, Client.told]
  buffer := by
    simp [Watched.buffer, hbefore, hafter, Client.told]
  frames := by
    simp [Watched.buffer, hbefore, hframes]

/-- Where nothing happens to a client, nothing was put on its queue. -/
theorem Stays.of_unchanged (h : (after.client? id).isSome = true)
    (hclient : after.client? id = before.client? id)
    (hwritten : after.written id = before.written id) :
    Stays id [] [] before after := by
  obtain ⟨client, hafter⟩ := Option.isSome_iff_exists.1 h
  refine .of_client (hclient ▸ hafter) ?_ hwritten rfl
  rw [hafter]
  exact congrArg some client.told_nil.symm

/-! ## One occurrence -/

section

variable {orchestrator : Orchestrator σ} {config : Config} {watched : Watched σ}

/-- An event that is told to everybody. -/
theorem stays_broadcast {host : Host σ} {events : List Notification}
    (h : ((({ watched.loop with host }).broadcast events).clients.find? id).isSome = true) :
    Stays id [] [.told events] watched
      { watched with loop := { watched.loop with host }.broadcast events } := by
  obtain ⟨after, hafter⟩ := Option.isSome_iff_exists.1 h
  obtain ⟨client, hclient, rfl⟩ := Loop.find?_broadcast hafter
  refine .of_client hclient ?_ rfl rfl
  simpa [client?, Deed.messagesTo, Deed.events, Deed.answersTo, FrameBuffer.feedAll] using hafter

/-- What a writer takes was put on the queue before. -/
theorem stays_write (taken : Client → Nat) (ends : Client → Bool)
    (h : ((watched.write taken ends).client? id).isSome = true) :
    Stays id [] [] watched (watched.write taken ends) := by
  have hclient : (watched.write taken ends).client? id =
      (watched.client? id).map (relieved taken ends) :=
    Registry.find?_of_map (f := relieved taken ends) (fun _ => rfl) rfl id
  rw [hclient, Option.isSome_map] at h
  obtain ⟨client, hbefore⟩ := Option.isSome_iff_exists.1 h
  rw [hbefore] at hclient
  have hwritten : (watched.write taken ends).written id =
      watched.written id ++ client.queue.take (taken client) := by
    simp [write, hbefore]
  constructor
  · exact h
  · simp [queued, hclient, hbefore, hwritten, relieved, wires]
  · simp [buffer, hclient, hbefore, relieved, FrameBuffer.feedAll]
  · simp [FrameBuffer.feedAll]

/-- What is received from anybody accounts for what is put on the queue of a client that stays. -/
theorem stays_receive {sender : ClientId} {bytes : List UInt8}
    (h : ((watched.loop.receive orchestrator config sender bytes).clients.find? id).isSome =
      true) :
    let fed := watched.loop.clients.feed sender bytes
    Stays id (if id = sender then [bytes] else [])
      ({ watched.loop with clients := fed.2 }.deeds orchestrator config sender fed.1.frames)
      watched { watched with loop := watched.loop.receive orchestrator config sender bytes } := by
  intro fed
  obtain ⟨after, hafter⟩ := Option.isSome_iff_exists.1 h
  obtain ⟨between, hbetween, rfl, hframes⟩ := Loop.find?_serve hafter
  have hfeed := watched.loop.clients.find?_feed sender bytes id
  obtain ⟨client, hclient, rfl⟩ := Option.map_eq_some_iff.1 (hfeed.symm.trans hbetween)
  by_cases hid : id = sender
  · rw [if_pos hid] at hafter hframes ⊢
    have hfed : fed.1 = (client.frames.feed bytes).1 :=
      Registry.feed_fst (hid ▸ hclient) bytes
    have hfeed : fed.1.frames = (client.frames.feedAll [bytes]).1.flatMap Fed.frames := by
      simp [hfed, FrameBuffer.feedAll]
    exact .of_client hclient hafter rfl (hframes.trans hfeed)
  · rw [if_neg hid] at hafter hframes ⊢
    exact .of_client hclient hafter rfl hframes

/-- What a client that is connected after an occurrence was told by it, unless it is new. -/
theorem happen_stays {occurrence : Occurrence σ}
    (hid : id < watched.nextId ∨
      (watched.happen orchestrator config occurrence).2.nextId ≤ id)
    (h : ((watched.happen orchestrator config occurrence).2.client? id).isSome = true) :
    let (deeds, after) := watched.happen orchestrator config occurrence
    Stays id (occurrence.bytesOf id) deeds watched after := by
  cases occurrence with
  | accepted socket =>
    exact .of_unchanged h (watched.loop.find?_register hid) rfl
  | reported event =>
    cases event with
    | data sender bytes => exact stays_receive h
    | closed removed =>
      obtain ⟨client, hclient⟩ := Option.isSome_iff_exists.1 h
      have hbefore := (Loop.find?_remove hclient).2
      exact .of_unchanged h (hclient.trans hbefore.symm) rfl
  | observed items =>
    obtain ⟨host, hobserve⟩ := watched.loop.observe_eq orchestrator items
    unfold happen at h ⊢
    dsimp only at h ⊢
    rw [hobserve] at h ⊢
    exact stays_broadcast h
  | ticked =>
    obtain ⟨host, hpoll⟩ := watched.loop.poll_eq orchestrator
    unfold happen at h ⊢
    dsimp only at h ⊢
    rw [hpoll] at h ⊢
    exact stays_broadcast h
  | wrote taken ends => exact stays_write taken ends h
  | interfered files mounts => exact .of_unchanged h rfl rfl

/-- All deeds of an occurrence are proper. -/
theorem proper_of_mem_happen {occurrence : Occurrence σ} :
    ∀ deed ∈ (watched.happen orchestrator config occurrence).1, deed.Proper config := by
  intro deed hmem
  cases occurrence with
  | reported event =>
    cases event with
    | data sender bytes => exact Loop.proper_of_mem_deeds deed hmem
    | closed removed => cases hmem
  | observed items | ticked =>
    obtain rfl := List.mem_singleton.1 hmem
    trivial
  | accepted | wrote | interfered => cases hmem

/-- Only a client that is accepted uses a number up; nothing else brings in a client. -/
theorem shrinks_happen {occurrence : Occurrence σ} (h : ∀ socket, occurrence ≠ .accepted socket) :
    watched.loop.clients.Shrinks
      (watched.happen orchestrator config occurrence).2.loop.clients := by
  cases occurrence with
  | accepted socket => exact absurd rfl (h socket)
  | reported event =>
    cases event with
    | data sender bytes => exact Loop.shrinks_receive orchestrator config sender bytes _
    | closed removed => exact Registry.shrinks_remove _ removed
  | observed items => exact Loop.shrinks_observe orchestrator items _
  | ticked => exact Loop.shrinks_poll orchestrator _
  | wrote taken ends =>
    exact Registry.shrinks_of_map (f := relieved taken ends) (fun _ => rfl) rfl rfl
  | interfered files mounts => exact .refl _

/-- A number is used up just when a client comes on a socket that is not registered any more. -/
theorem nextId_happen (occurrence : Occurrence σ) :
    (watched.happen orchestrator config occurrence).2.nextId = watched.nextId ∨
      ∃ socket, occurrence = .accepted socket ∧
        watched.loop.clients.hasSocket socket = false ∧
        (watched.happen orchestrator config occurrence).2.nextId = watched.nextId + 1 := by
  cases occurrence with
  | accepted socket =>
    obtain ⟨-, hregister⟩ | ⟨hfree, hregister⟩ := watched.loop.register_cases socket
    · exact .inl (congrArg (fun loop => loop.clients.nextId) hregister)
    · exact .inr ⟨socket, rfl, hfree, congrArg (fun loop => loop.clients.nextId) hregister⟩
  | reported | observed | ticked | wrote | interfered =>
    exact .inl (shrinks_happen (fun _ h => by cases h)).nextId

/-- Clients keep their own numbers, below the next one, whatever happens. -/
theorem numbered_happen (h : watched.loop.clients.Numbered) (occurrence : Occurrence σ) :
    (watched.happen orchestrator config occurrence).2.loop.clients.Numbered := by
  cases occurrence with
  | accepted socket =>
    have hnext : (watched.loop.register socket).clients.Numbered := by
      obtain ⟨-, hregister⟩ | ⟨-, hregister⟩ := watched.loop.register_cases socket
      · rwa [hregister]
      · rw [hregister]
        exact h.enroll socket
    exact hnext
  | reported | observed | ticked | wrote | interfered =>
    exact h.shrink (shrinks_happen fun _ h => by cases h)

/-- No number of a client is taken back. -/
theorem nextId_le_happen (occurrence : Occurrence σ) :
    watched.nextId ≤ (watched.happen orchestrator config occurrence).2.nextId := by
  rcases nextId_happen occurrence with h | ⟨-, -, -, h⟩
  · exact Nat.le_of_eq h.symm
  · rw [h]
    exact Nat.le_succ _

/-- Nothing is known of a number that was not given to a client yet. -/
def Tidy (watched : Watched σ) : Prop :=
  ∀ id, watched.nextId ≤ id → watched.client? id = none ∧ watched.written id = []

/-- Before anybody was accepted there is nothing to know of any number. -/
theorem tidy_start (host : Host σ) : (start host).Tidy :=
  fun _ _ => ⟨rfl, rfl⟩

/-- Nothing is written for a number without a client. -/
theorem written_happen {occurrence : Occurrence σ} (h : watched.client? id = none) :
    (watched.happen orchestrator config occurrence).2.written id = watched.written id := by
  cases occurrence with
  | wrote taken ends => simp [happen, write, h]
  | reported event => cases event <;> rfl
  | accepted | observed | ticked | interfered => rfl

/-- Whatever happens, nothing is known of numbers that were not given. -/
theorem Tidy.happen (htidy : watched.Tidy) (occurrence : Occurrence σ) :
    (watched.happen orchestrator config occurrence).2.Tidy := by
  intro id hid
  have hle := Nat.le_trans (nextId_le_happen occurrence) hid
  obtain ⟨hnone, hwritten⟩ := htidy id hle
  refine ⟨?_, (written_happen hnone).trans hwritten⟩
  rw [← Option.not_isSome_iff_eq_none]
  intro hsome
  have hconnected := (happen_stays (.inr hid) hsome).connected
  rw [hnone] at hconnected
  cases hconnected

/-- A client that comes on a free socket starts with nothing. -/
theorem Tidy.accepted (orchestrator : Orchestrator σ) (config : Config) (htidy : watched.Tidy)
    {socket : Nat} (hfree : watched.loop.clients.hasSocket socket = false) :
    let after := (watched.happen orchestrator config (.accepted socket)).2
    after.client? watched.nextId = some (.accepted watched.nextId socket) ∧
      after.queued watched.nextId = [] ∧ after.nextId = watched.nextId + 1 := by
  intro after
  obtain ⟨hnone, hwritten⟩ := htidy watched.nextId (Nat.le_refl _)
  have hloop : after.loop =
      { watched.loop with clients := (watched.loop.clients.enroll socket).2 } := by
    obtain ⟨htaken, -⟩ | ⟨-, hregister⟩ := watched.loop.register_cases socket
    · rw [hfree] at htaken
      cases htaken
    · exact hregister
  have hclient : after.client? watched.nextId = some (.accepted watched.nextId socket) := by
    have hfind : watched.loop.clients.find? watched.nextId = none := hnone
    rw [client?, hloop]
    refine (watched.loop.clients.find?_enroll socket _).trans ?_
    rw [hfind]
    exact if_pos rfl
  refine ⟨hclient, ?_, ?_⟩
  · have hkept : after.written watched.nextId = [] := hwritten
    rw [queued, hclient, hkept]
    rfl
  · rw [nextId, hloop]
    rfl

/-! ## Runs -/

/-- A run goes on where an earlier one ended. -/
theorem run_append (first later : List (Occurrence σ)) :
    watched.run orchestrator config (first ++ later) =
      let (deeds, between) := watched.run orchestrator config first
      let (more, after) := between.run orchestrator config later
      (deeds ++ more, after) := by
  induction first generalizing watched with
  | nil => rfl
  | cons occurrence rest ih => simp [run, ih]

/-- No run takes a number back. -/
theorem nextId_le_run (occurrences : List (Occurrence σ)) :
    watched.nextId ≤ (watched.run orchestrator config occurrences).2.nextId := by
  induction occurrences generalizing watched with
  | nil => exact Nat.le_refl _
  | cons occurrence rest ih => exact Nat.le_trans (nextId_le_happen occurrence) ih

/-- The clients of a run that starts with nobody always have different numbers. -/
theorem numbered_run (h : watched.loop.clients.Numbered) (occurrences : List (Occurrence σ)) :
    (watched.run orchestrator config occurrences).2.loop.clients.Numbered := by
  induction occurrences generalizing watched with
  | nil => exact h
  | cons occurrence rest ih => exact ih (numbered_happen h occurrence)

/-- After any run nothing is known of numbers that were not given. -/
theorem Tidy.run (htidy : watched.Tidy) (occurrences : List (Occurrence σ)) :
    (watched.run orchestrator config occurrences).2.Tidy := by
  induction occurrences generalizing watched with
  | nil => exact htidy
  | cons occurrence rest ih => exact ih (htidy.happen occurrence)

/-- All deeds of a run are proper. -/
theorem proper_of_mem_run {occurrences : List (Occurrence σ)} :
    ∀ deed ∈ (watched.run orchestrator config occurrences).1, deed.Proper config := by
  induction occurrences generalizing watched with
  | nil => simp [Watched.run]
  | cons occurrence rest ih =>
    intro deed hmem
    rcases List.mem_append.1 hmem with hmem | hmem
    · exact proper_of_mem_happen deed hmem
    · exact ih deed hmem

/-- The deeds of a run account for all that was put on the queue of a client that stays to its end.
-/
theorem run_stays {occurrences : List (Occurrence σ)} (hid : id < watched.nextId)
    (h : ((watched.run orchestrator config occurrences).2.client? id).isSome = true) :
    let (deeds, after) := watched.run orchestrator config occurrences
    Stays id (occurrences.flatMap (Occurrence.bytesOf id)) deeds watched after := by
  induction occurrences generalizing watched with
  | nil => exact .of_unchanged h rfl rfl
  | cons occurrence rest ih =>
    have hlater := ih (Nat.lt_of_lt_of_le hid (nextId_le_happen occurrence)) h
    have hfirst := happen_stays (.inl hid) hlater.connected
    exact hfirst.trans hlater

/-- A client that is connected in the end came on the way, on a socket that was free then. -/
theorem exists_accepted {occurrences : List (Occurrence σ)} (htidy : watched.Tidy)
    (hid : watched.nextId ≤ id)
    (h : ((watched.run orchestrator config occurrences).2.client? id).isSome = true) :
    ∃ before socket after, occurrences = before ++ .accepted socket :: after ∧
      (watched.run orchestrator config before).2.nextId = id ∧
      (watched.run orchestrator config before).2.loop.clients.hasSocket socket = false := by
  induction occurrences generalizing watched with
  | nil =>
    have hnone : (watched.run orchestrator config []).2.client? id = none := (htidy id hid).1
    rw [hnone] at h
    cases h
  | cons occurrence rest ih =>
    -- The number is given either later in the run or right now.
    let next := (watched.happen orchestrator config occurrence).2
    by_cases hlater : next.nextId ≤ id
    · obtain ⟨before, socket, after, rfl, hbefore, hfree⟩ := ih (htidy.happen occurrence) hlater h
      exact ⟨occurrence :: before, socket, after, rfl, hbefore, hfree⟩
    · rcases nextId_happen occurrence with hnext | ⟨socket, rfl, hfree, hnext⟩
      · exact absurd (Nat.le_trans (Nat.le_of_eq hnext) hid) hlater
      · have hlt : id < watched.nextId + 1 := hnext ▸ Nat.lt_of_not_le hlater
        exact ⟨[], socket, rest, rfl, Nat.le_antisymm hid (Nat.le_of_lt_succ hlt), hfree⟩

/-! ## Deeds -/

/-- The notifications among the messages of proper deeds are their events. -/
theorem notifications_messagesTo (h : ∀ deed ∈ deeds, deed.Proper config) (id : ClientId) :
    (deeds.flatMap (Deed.messagesTo id)).filterMap Message.notification? =
      deeds.flatMap Deed.events := by
  rw [List.filterMap_flatMap]
  exact List.flatMap_congr fun deed hmem => (h deed hmem).notifications_messagesTo id

/-- The replies among the messages of proper deeds are their answers. -/
theorem replies_messagesTo (h : ∀ deed ∈ deeds, deed.Proper config) (id : ClientId) :
    (deeds.flatMap (Deed.messagesTo id)).filter Message.isReply =
      (deeds.flatMap (Deed.answersTo id)).flatMap Prod.snd := by
  rw [List.filter_flatMap, List.flatMap_assoc]
  exact List.flatMap_congr fun deed hmem => (h deed hmem).replies_messagesTo id

/-- Each answer of proper deeds answers its frame. -/
theorem answers_of_proper (h : ∀ deed ∈ deeds, deed.Proper config) (id : ClientId) :
    ∀ answer ∈ deeds.flatMap (Deed.answersTo id), Answers config answer.1 answer.2 := by
  intro answer hmem
  obtain ⟨deed, hdeed, hanswer⟩ := List.mem_flatMap.1 hmem
  exact (h deed hdeed).answers id answer hanswer

end

/-- Whoever is connected in the end was accepted on the way, with nothing on its queue.  Over any
later part of the run it was told of every event of this part, the same as everybody else, and
between events it got one whole answer to each of its own frames that became complete, in their
order; if there was an event of a command, it came right before the answer. -/
theorem connected_client_hears (orchestrator : Orchestrator σ) (config : Config) (host : Host σ)
    (occurrences : List (Occurrence σ)) (id : ClientId)
    (hconnected :
      (((start host).run orchestrator config occurrences).2.client? id).isSome = true) :
    ∃ before socket after, occurrences = before ++ .accepted socket :: after ∧
      let final := ((start host).run orchestrator config occurrences).2
      let waiting := ((start host).run orchestrator config before).2
      let accepted := (waiting.happen orchestrator config (.accepted socket)).2
      waiting.client? id = none ∧ accepted.client? id = some (.accepted id socket) ∧
        accepted.queued id = [] ∧
      ∀ earlier later, after = earlier ++ later →
        let middle := (accepted.run orchestrator config earlier).2
        let deeds := (middle.run orchestrator config later).1
        let messages := deeds.flatMap fun deed =>
          deed.events.map .notification ++ (deed.answersTo id).flatMap Prod.snd
        let answers := deeds.flatMap (Deed.answersTo id)
        final.queued id = middle.queued id ++ wires messages ∧
          messages.filterMap Message.notification? = deeds.flatMap Deed.events ∧
          messages.filter Message.isReply = answers.flatMap Prod.snd ∧
          answers.map Prod.fst = ((middle.buffer id).feedAll
            (later.flatMap (Occurrence.bytesOf id))).1.flatMap Fed.frames ∧
          ∀ answer ∈ answers, Answers config answer.1 answer.2 := by
  -- the client came at some moment, and nothing was known of its number before
  obtain ⟨before, socket, after, rfl, hid, hfree⟩ :=
    exists_accepted (tidy_start host) (Nat.zero_le id) hconnected
  have htidy : ((start host).run orchestrator config before).2.Tidy := (tidy_start host).run before
  obtain ⟨hclient, hqueued, haccepted⟩ := htidy.accepted orchestrator config hfree
  rw [hid] at hclient hqueued haccepted
  refine ⟨before, socket, after, rfl, (htidy id (Nat.le_of_eq hid)).1, hclient, hqueued, ?_⟩
  rintro earlier later rfl
  let accepted := (((start host).run orchestrator config before).2.happen orchestrator config
    (.accepted socket)).2
  let middle := (accepted.run orchestrator config earlier).2
  have hsplit : ((start host).run orchestrator config
      (before ++ .accepted socket :: (earlier ++ later))).2 =
        (middle.run orchestrator config later).2 := by
    simp [run_append, Watched.run, middle, accepted]
  have hgiven : id < middle.nextId := by
    have hle : accepted.nextId ≤ middle.nextId := nextId_le_run earlier
    rw [haccepted] at hle
    exact Nat.lt_of_succ_le hle
  rw [hsplit] at hconnected ⊢
  have hstays := run_stays hgiven hconnected
  have hproper : ∀ deed ∈ (middle.run orchestrator config later).1, deed.Proper config :=
    proper_of_mem_run
  exact ⟨hstays.queued, notifications_messagesTo hproper id, replies_messagesTo hproper id,
    hstays.frames, answers_of_proper hproper id⟩

/-- A client mounts a partition with a command that arrives in two pieces, between which another
client is accepted. -/
theorem connected_client_hears_of_stick :
    let tree := ((Tree.empty.apply .usbStick .add).1.apply .usbPartition .online).1
    let rest := "b1\", nil)\nlist_supported_filesystem_options(\"\")\n"
    let occurrences : List (Occurrence Mount.Rehearsal) := [.accepted 8,
      .reported (.data 0 (Text.Utf8.encode "mount(\"/dev/sd")), .accepted 9,
      .reported (.data 0 (Text.Utf8.encode rest)),
      .wrote (fun _ => 1) (fun _ => false), .reported (.closed 1)]
    let watched := ((start ⟨tree, .empty, .start true⟩).run Mount.Rehearsal.orchestrator .standard
      occurrences).2
    (watched.client? 0).isSome = true ∧
      watched.queued 0 =
        ["removable_device_mounted(\"/dev/sdb1\", \"/media/sdb1\", \"rw,nosuid,nodev,flush\")\n",
          "succeeded(\"mount\", \"/dev/sdb1\", nil)\n",
          "failed(\"list_supported_filesystem_options\", \"\", \"unsupported_fstype\")\n"] ∧
      ∃ messages, watched.queued 0 = wires messages ∧
        ∃ answers : List (String × List Message),
          messages.filter Message.isReply = answers.flatMap Prod.snd ∧
            ∀ answer ∈ answers, Answers .standard answer.1 answer.2 := by
  intro tree rest occurrences watched
  have hconnected : (watched.client? 0).isSome = true := by
    decide +kernel
  have hqueue : watched.queued 0 =
      ["removable_device_mounted(\"/dev/sdb1\", \"/media/sdb1\", \"rw,nosuid,nodev,flush\")\n",
        "succeeded(\"mount\", \"/dev/sdb1\", nil)\n",
        "failed(\"list_supported_filesystem_options\", \"\", \"unsupported_fstype\")\n"] := by
    decide +kernel
  obtain ⟨before, socket, after, -, -, -, hqueued, hlater⟩ :=
    connected_client_hears Mount.Rehearsal.orchestrator .standard ⟨tree, .empty, .start true⟩
      occurrences 0 hconnected
  obtain ⟨hlines, -, hreplies, -, hanswers⟩ := hlater [] after rfl
  have hall : watched.queued 0 = wires _ := hlines.trans (congrArg (· ++ wires _) hqueued)
  exact ⟨hconnected, hqueue, _, hall, _, hreplies, hanswers⟩

end Watched

end RemovableMedia.Server
