import RemovableMedia.Proofs.Server.Departure

/-!
# How a client's bytes are cut

A client's bytes arrive in pieces, and nothing is promised about where they are cut.  The cuts make
no difference to anybody: not to the devices and whoever carries out mounts, not to the lines that
are queued, and not to who stays connected (`pieces_make_no_difference`).

The frames of a piece are all taken out before the first of them is carried out, so that the rest
of the piece is already put away while they are served.  But the bytes that are put away are looked
at by nobody else, and may as well be put away afterwards (`serve_withFrames`).  Then the frames of
two pieces are served one after the other in either case (`serve_append`), and after a violation
the client is gone, whatever it sends later (`find?_serve_violation`).
-/

set_option autoImplicit false

namespace RemovableMedia.Server

open RemovableMedia.Mount (Host Orchestrator)

/-! ## Bytes that are put away -/

/-- A buffer takes later bytes where it has stopped, and after an error it only keeps them. -/
theorem FrameBuffer.feed_append (buffer : FrameBuffer) (first later : List UInt8) :
    buffer.feed (first ++ later) =
      match buffer.feed first with
      | (⟨texts, some e⟩, rest) => (⟨texts, some e⟩, rest.push later)
      | (⟨texts, none⟩, rest) =>
        (⟨texts ++ (rest.feed later).1.frames, (rest.feed later).1.error⟩,
          (rest.feed later).2) := by
  rw [feed, ← push_push, drain_push]
  rfl

namespace Client

variable (id : ClientId) (frames : FrameBuffer) (client : Client) (line : String)

/-- The client with other bytes put away, if it has the given number. -/
def withFrames : Client :=
  if client.id = id then { client with frames } else client

/-- The bytes that are put away do not change the number of a client. -/
theorem id_withFrames : (client.withFrames id frames).id = client.id := by
  unfold withFrames
  split <;> rfl

/-- The bytes that are put away do not matter for sending. -/
theorem send_withFrames :
    (client.withFrames id frames).send line = (client.send line).map (withFrames id frames) := by
  by_cases hid : client.id = id
  · simp only [withFrames, if_pos hid, send]
    split
    · rfl
    · split
      · rfl
      · simp [Except.map, withFrames, hid]
  · have hsame : ∀ other : Client, other.id = client.id → other.withFrames id frames = other := by
      intro other hother
      exact if_neg (hother ▸ hid)
    rw [hsame client rfl]
    cases hsend : client.send line with
    | ok sent =>
      have hsent : sent.id = client.id := by
        rw [send_eq_ok hsend]
        rfl
      exact congrArg Except.ok (hsame sent hsent).symm
    | error e => rfl

/-- The bytes that are put away do not matter for what is refused. -/
theorem refuses_withFrames : (client.withFrames id frames).refuses line = client.refuses line := by
  unfold refuses
  rw [send_withFrames]
  cases client.send line <;> rfl

/-- The bytes that are put away do not matter for what is offered. -/
theorem offered_withFrames :
    (client.withFrames id frames).offered line = (client.offered line).withFrames id frames := by
  unfold offered
  rw [send_withFrames]
  cases client.send line <;> rfl

end Client

namespace Registry

variable (registry : Registry) (id : ClientId) (frames : FrameBuffer)

/-- The registry with other bytes put away for one of its clients. -/
def withFrames : Registry :=
  { registry with clients := registry.clients.map (Client.withFrames id frames) }

/-- Each client is found with its bytes replaced if it is the one. -/
theorem find?_withFrames (other : ClientId) :
    (registry.withFrames id frames).find? other =
      (registry.find? other).map (Client.withFrames id frames) :=
  find?_of_map (Client.id_withFrames id frames) rfl other

/-- A client whose bytes were replaced is found with the new ones. -/
theorem frames_of_find?_withFrames {client : Client}
    (h : (registry.withFrames id frames).find? id = some client) : client.frames = frames := by
  rw [find?_withFrames] at h
  obtain ⟨before, hbefore, rfl⟩ := Option.map_eq_some_iff.1 h
  simp [Client.withFrames, id_of_find? hbefore]

/-- The bytes that are put away do not matter for who is there. -/
theorem contains_withFrames (other : ClientId) :
    (registry.withFrames id frames).contains other = registry.contains other := by
  rw [contains, find?_withFrames, Option.isSome_map, contains]

/-- The bytes that are put away do not matter for sending to a client. -/
theorem send_withFrames (receiver : ClientId) (line : String) :
    (registry.withFrames id frames).send receiver line =
      (registry.send receiver line).map fun sent => sent.withFrames id frames := by
  have hreplace : ∀ client : Client,
      (registry.withFrames id frames).replace (client.withFrames id frames) =
        (registry.replace client).withFrames id frames := by
    intro client
    simp only [replace, withFrames, List.map_map, Client.id_withFrames]
    congr 1
    refine List.map_congr_left fun other _ => ?_
    simp only [Function.comp_apply, Client.id_withFrames]
    split <;> rfl
  unfold send
  rw [find?_withFrames]
  cases registry.find? receiver with
  | none => rfl
  | some client =>
    simp only [Option.map_some, Client.send_withFrames]
    cases client.send line with
    | ok sent => exact congrArg Except.ok (hreplace sent)
    | error e => rfl

/-- The bytes that are put away do not matter for telling all clients. -/
theorem broadcast_withFrames (line : String) :
    (registry.withFrames id frames).broadcast line =
      ((registry.broadcast line).1, (registry.broadcast line).2.withFrames id frames) := by
  have hid : Client.id ∘ Client.withFrames id frames = Client.id :=
    funext (Client.id_withFrames id frames)
  have hrefuses : (fun client => Client.refuses client line) ∘ Client.withFrames id frames =
      fun client => client.refuses line :=
    funext fun client => client.refuses_withFrames id frames line
  have hoffered : (fun client => Client.offered client line) ∘ Client.withFrames id frames =
      Client.withFrames id frames ∘ fun client => client.offered line :=
    funext fun client => client.offered_withFrames id frames line
  simp only [broadcast, withFrames, List.filter_map, List.map_map, hrefuses, hid, hoffered]

/-- The bytes that are put away do not matter for who is removed. -/
theorem remove_withFrames (removed : ClientId) :
    (registry.withFrames id frames).remove removed =
      (registry.remove removed).withFrames id frames := by
  have hid : (fun client : Client => decide (client.id ≠ removed)) ∘ Client.withFrames id frames =
      fun client => decide (client.id ≠ removed) := by
    funext client
    rw [Function.comp_apply, Client.id_withFrames]
  simp only [remove, withFrames, List.filter_map, hid]

/-- The bytes that are put away do not matter for removing some clients. -/
theorem removeAll_withFrames (removed : List ClientId) :
    (registry.withFrames id frames).removeAll removed =
      (registry.removeAll removed).withFrames id frames := by
  induction removed generalizing registry with
  | nil => rfl
  | cons first rest ih =>
    have hfirst : (registry.withFrames id frames).removeAll (first :: rest) =
        ((registry.withFrames id frames).remove first).removeAll rest := rfl
    rw [hfirst, remove_withFrames]
    exact ih (registry.remove first)

/-- Of bytes that are put away twice, the later ones count. -/
theorem withFrames_withFrames (first : FrameBuffer) :
    (registry.withFrames id first).withFrames id frames = registry.withFrames id frames := by
  simp only [withFrames, List.map_map]
  congr 1
  refine List.map_congr_left fun client _ => ?_
  by_cases hid : client.id = id <;> simp [Client.withFrames, hid]

variable {registry id}

/-- Nothing is put away for a client that is not there. -/
theorem withFrames_of_find?_eq_none (h : registry.find? id = none) :
    registry.withFrames id frames = registry := by
  have hsame : registry.clients.map (Client.withFrames id frames) = registry.clients.map fun
      client => client := by
    refine List.map_congr_left fun client hmem => ?_
    have hid := List.find?_eq_none.1 h client hmem
    have hne : client.id ≠ id := by simpa using hid
    exact if_neg hne
  rw [withFrames, hsame, List.map_id']

/-- Feeding a client replaces its bytes and nothing else. -/
theorem feed_eq (h : registry.ids.Nodup) {client : Client}
    (hclient : registry.find? id = some client) (bytes : List UInt8) :
    registry.feed id bytes =
      ((client.frames.feed bytes).1, registry.withFrames id (client.frames.feed bytes).2) := by
  have hmem := List.mem_of_find?_eq_some hclient
  have hid := id_of_find? hclient
  let after : FrameBuffer := (client.frames.feed bytes).2
  have hreplace : registry.replace { client with frames := after } =
      registry.withFrames id after := by
    unfold replace withFrames
    congr 1
    refine List.map_congr_left fun other hother => ?_
    by_cases hsame : other.id = id
    · have heq : other = client := Keyed.eq_of_key_eq h hother hmem (hsame.trans hid.symm)
      simp [Client.withFrames, heq, hid]
    · simp [Client.withFrames, hsame, hid]
  rw [feed, hclient]
  exact congrArg (Prod.mk (client.frames.feed bytes).1) hreplace

end Registry

namespace Loop

variable {σ : Type}

/-- The loop with other bytes put away for one of its clients. -/
def withFrames (id : ClientId) (frames : FrameBuffer) (loop : Loop σ) : Loop σ :=
  { loop with clients := loop.clients.withFrames id frames }

section

variable (id : ClientId) (frames : FrameBuffer) (loop : Loop σ)

/-- The bytes that are put away do not matter for what the loop tells. -/
theorem broadcast_withFrames (events : List Notification) :
    (loop.withFrames id frames).broadcast events =
      (loop.broadcast events).withFrames id frames := by
  have hannounce : ∀ (loop : Loop σ) (event : Notification),
      (loop.withFrames id frames).announce event = (loop.announce event).withFrames id frames := by
    intro loop event
    simp only [announce, withFrames, Registry.broadcast_withFrames, Registry.removeAll_withFrames]
  induction events generalizing loop with
  | nil => rfl
  | cons event rest ih =>
    have hrest := ih (loop.announce event)
    rw [← hannounce] at hrest
    exact hrest

/-- The bytes that are put away do not matter for whom the loop removes. -/
theorem remove_withFrames (removed : ClientId) :
    (loop.withFrames id frames).remove removed = (loop.remove removed).withFrames id frames := by
  simp only [remove, withFrames, Registry.remove_withFrames]

/-- The bytes that are put away do not matter for what the loop replies. -/
theorem reply_withFrames (receiver : ClientId) (messages : List Message) :
    (loop.withFrames id frames).reply receiver messages =
      (loop.reply receiver messages).withFrames id frames := by
  induction messages generalizing loop with
  | nil => rfl
  | cons message rest ih =>
    have hsend : (loop.withFrames id frames).clients.send receiver message.line.wire =
        (loop.clients.send receiver message.line.wire).map fun sent =>
          sent.withFrames id frames :=
      loop.clients.send_withFrames id frames receiver message.line.wire
    unfold reply
    rw [hsend]
    cases loop.clients.send receiver message.line.wire with
    | ok clients => exact ih { loop with clients }
    | error e => exact loop.remove_withFrames id frames receiver

/-- For a client that is not there the loop puts nothing away. -/
theorem withFrames_of_find?_eq_none {loop : Loop σ} {id : ClientId}
    (h : loop.clients.find? id = none) (frames : FrameBuffer) :
    loop.withFrames id frames = loop := by
  rw [withFrames, Registry.withFrames_of_find?_eq_none frames h]

/-- Of bytes that the loop puts away twice, the later ones count. -/
theorem withFrames_withFrames (first : FrameBuffer) :
    (loop.withFrames id first).withFrames id frames = loop.withFrames id frames := by
  simp only [withFrames, Registry.withFrames_withFrames]

variable (orchestrator : Orchestrator σ) (config : Config) (sender : ClientId)

/-- The frames of a client are carried out in the same way whatever is put away. -/
theorem serve_withFrames (violation : Option FrameError) (texts : List String) :
    (loop.withFrames id frames).serve orchestrator config sender violation texts =
        (loop.serve orchestrator config sender violation texts).withFrames id frames ∧
      (loop.withFrames id frames).deeds orchestrator config sender texts =
        loop.deeds orchestrator config sender texts := by
  have hhost : ∀ (loop : Loop σ) (host : Host σ),
      { loop.withFrames id frames with host } =
        ({ loop with host } : Loop σ).withFrames id frames := fun _ _ => rfl
  induction texts generalizing loop with
  | nil =>
    unfold serve
    split
    · exact ⟨loop.remove_withFrames id frames sender, rfl⟩
    · exact ⟨rfl, rfl⟩
  | cons text rest ih =>
    have hcontains : (loop.withFrames id frames).clients.contains sender =
        loop.clients.contains sender := loop.clients.contains_withFrames id frames sender
    unfold serve deeds
    rw [hcontains]
    by_cases hsender : loop.clients.contains sender = true
    · simp only [if_pos hsender]
      have hdispatch : dispatch orchestrator config text (loop.withFrames id frames).host =
          dispatch orchestrator config text loop.host := rfl
      rw [hdispatch]
      cases dispatch orchestrator config text loop.host with
      | mk result host =>
        cases result with
        | ok outcome =>
          simp only [hhost, broadcast_withFrames, reply_withFrames, ih, and_self]
        | error e =>
          simp only [hhost, remove_withFrames, and_self]
    · simp only [if_neg hsender, and_self]

end

/-! ## Frames of two pieces -/

section

variable (orchestrator : Orchestrator σ) (config : Config) (id : ClientId) (loop : Loop σ)

/-- A client that was removed is not there. -/
theorem find?_remove_self : (loop.remove id).clients.find? id = none := by
  have hfind := loop.clients.find?_remove id id
  rwa [if_pos rfl] at hfind

variable {id loop} in
/-- Frames of a client that is not there do nothing. -/
theorem serve_of_find?_eq_none (h : loop.clients.find? id = none)
    (violation : Option FrameError) (texts : List String) :
    loop.serve orchestrator config id violation texts = loop ∧
      loop.deeds orchestrator config id texts = [] := by
  have hcontains : loop.clients.contains id = false := by simp [Registry.contains, h]
  cases texts with
  | nil =>
    have hremove : loop.remove id = loop := by
      rw [remove, Registry.remove_of_find?_eq_none h]
    simp [serve, deeds, hremove]
  | cons text rest => simp [serve, deeds, hcontains]

/-- Frames are served one after another, so that a cut between them does not matter. -/
theorem serve_append (violation : Option FrameError) (first later : List String) :
    let between := loop.serve orchestrator config id none first
    loop.serve orchestrator config id violation (first ++ later) =
        between.serve orchestrator config id violation later ∧
      loop.deeds orchestrator config id (first ++ later) =
        loop.deeds orchestrator config id first ++ between.deeds orchestrator config id later := by
  induction first generalizing loop with
  | nil => exact ⟨rfl, rfl⟩
  | cons text rest ih =>
    intro between
    by_cases hsender : loop.clients.contains id = true
    · cases hdispatch : dispatch orchestrator config text loop.host with
      | mk result host =>
        cases result with
        | ok outcome =>
          let answered := ({ loop with host }.broadcast outcome.events).reply id outcome.replies
          obtain ⟨hserve, hdeeds⟩ := ih answered
          simp only [between, List.cons_append, serve, deeds, hsender, if_true, hdispatch, hserve,
            hdeeds, answered, and_self]
        | error e =>
          -- a client that sends nonsense is gone, so the frames of either part do nothing
          have hnone := find?_remove_self id { loop with host }
          obtain ⟨hserve, hdeeds⟩ :=
            serve_of_find?_eq_none orchestrator config hnone violation later
          simp only [between, List.cons_append, serve, deeds, hsender, if_true, hdispatch, hserve,
            hdeeds, List.append_nil, and_self]
    · have hnone : loop.clients.find? id = none := by
        simpa [Registry.contains] using hsender
      have hgone := serve_of_find?_eq_none orchestrator config hnone
      have hbetween : between = loop := (hgone none (text :: rest)).1
      rw [hbetween]
      constructor
      · rw [(hgone violation (text :: rest ++ later)).1, (hgone violation later).1]
      · simp only [fun texts => (hgone none texts).2, List.append_nil]

/-- A client that breaks framing is not there any more. -/
theorem find?_serve_violation (e : FrameError) (texts : List String) :
    (loop.serve orchestrator config id (some e) texts).clients.find? id = none := by
  induction texts generalizing loop with
  | nil => exact find?_remove_self id loop
  | cons text rest ih =>
    unfold serve
    split
    · split
      · exact ih _
      · exact find?_remove_self id _
    · rename_i hsender
      simpa [Registry.contains] using hsender

end

end Loop

/-! ## Pieces -/

namespace Watched

variable {σ : Type} {orchestrator : Orchestrator σ} {config : Config} {watched : Watched σ}
  {id : ClientId}

section

variable (orchestrator : Orchestrator σ) (config : Config) (h : watched.loop.clients.Numbered)
include h

/-- What bytes of a client lead to, with the rest of them put away at the end. -/
theorem happen_data {frames : FrameBuffer}
    (hframes : ∀ client, watched.client? id = some client → client.frames = frames)
    (bytes : List UInt8) :
    let fed := frames.feed bytes
    let served := watched.loop.serve orchestrator config id fed.1.error fed.1.frames
    watched.happen orchestrator config (.reported (.data id bytes)) =
      (watched.loop.deeds orchestrator config id fed.1.frames,
        { watched with loop := served.withFrames id fed.2 }) := by
  intro fed served
  cases hclient : watched.client? id with
  | none =>
    obtain ⟨hserve, hdeeds⟩ := Loop.serve_of_find?_eq_none orchestrator config hclient fed.1.error
      fed.1.frames
    have hrest := Loop.withFrames_of_find?_eq_none hclient fed.2
    rw [(happen_of_absent orchestrator config hclient).1, hdeeds]
    simp only [served, hserve, hrest]
  | some client =>
    obtain rfl := hframes client hclient
    have hfeed : watched.loop.clients.feed id bytes =
        (fed.1, watched.loop.clients.withFrames id fed.2) :=
      Registry.feed_eq h.distinct hclient bytes
    obtain ⟨hserve, hdeeds⟩ := watched.loop.serve_withFrames id fed.2 orchestrator config id
      fed.1.error fed.1.frames
    have hreceive : watched.loop.receive orchestrator config id bytes =
        served.withFrames id fed.2 := by
      rw [← hserve, Loop.receive, hfeed]
      rfl
    have hhappen : watched.happen orchestrator config (.reported (.data id bytes)) =
        (({ watched.loop with clients := (watched.loop.clients.feed id bytes).2 } : Loop σ).deeds
            orchestrator config id (watched.loop.clients.feed id bytes).1.frames,
          { watched with loop := watched.loop.receive orchestrator config id bytes }) := rfl
    rw [hhappen, hreceive, hfeed]
    exact congrArg (·, _) hdeeds

/-- Bytes that arrive at once lead to what they lead to in two pieces. -/
theorem happen_data_append (first later : List UInt8) :
    let between := (watched.happen orchestrator config (.reported (.data id first))).2
    watched.happen orchestrator config (.reported (.data id (first ++ later))) =
      ((watched.happen orchestrator config (.reported (.data id first))).1 ++
          (between.happen orchestrator config (.reported (.data id later))).1,
        (between.happen orchestrator config (.reported (.data id later))).2) := by
  intro between
  have hbuffer : ∀ client, watched.client? id = some client →
      client.frames = watched.buffer id := by
    intro client hclient
    simp [buffer, hclient]
  have hfirst := happen_data orchestrator config h hbuffer first
  have hboth := happen_data orchestrator config h hbuffer (first ++ later)
  rw [FrameBuffer.feed_append] at hboth
  rcases hfed : (watched.buffer id).feed first with ⟨⟨texts, violation⟩, rest⟩
  rw [hfed] at hfirst hboth
  cases violation with
  | some e =>
    -- The client is gone, so it makes no difference what else it sends.
    let served := watched.loop.serve orchestrator config id (some e) texts
    have hgone : served.clients.find? id = none :=
      watched.loop.find?_serve_violation orchestrator config id e texts
    have hrest : ∀ frames, served.withFrames id frames = served :=
      Loop.withFrames_of_find?_eq_none hgone
    simp only [hrest, served] at hfirst hboth
    have hbetween : between = { watched with loop := served } := congrArg Prod.snd hfirst
    have hnone : between.client? id = none := by
      rw [hbetween]
      exact hgone
    have hnothing := (happen_of_absent orchestrator config hnone).1
    rw [hnothing, hboth, hfirst, hbetween, List.append_nil]
  | none =>
    let served := watched.loop.serve orchestrator config id none texts
    let fed := rest.feed later
    have hbetween : between = { watched with loop := served.withFrames id rest } :=
      congrArg Prod.snd hfirst
    have hrest : ∀ client, between.client? id = some client → client.frames = rest := by
      intro client hclient
      rw [hbetween] at hclient
      exact served.clients.frames_of_find?_withFrames id rest hclient
    have hnumbered : between.loop.clients.Numbered := numbered_happen h _
    have hlater := happen_data orchestrator config hnumbered hrest later
    obtain ⟨hserve, hdeeds⟩ := served.serve_withFrames id rest orchestrator config id
      fed.1.error fed.1.frames
    obtain ⟨hserveBoth, hdeedsBoth⟩ := watched.loop.serve_append orchestrator config id
      fed.1.error texts fed.1.frames
    rw [hlater, hbetween, hfirst, hboth]
    simp only [fed, served] at hserve hdeeds hserveBoth hdeedsBoth ⊢
    rw [hserveBoth, hdeedsBoth, hserve, hdeeds, Loop.withFrames_withFrames]

/-- Pieces that arrive one after another lead to what they lead to at once. -/
theorem run_pieces (piece : List UInt8) (rest : List (List UInt8)) :
    watched.run orchestrator config
        ((piece :: rest).map fun bytes => .reported (.data id bytes)) =
      watched.happen orchestrator config (.reported (.data id (piece :: rest).flatten)) := by
  induction rest generalizing piece watched with
  | nil => simp [run]
  | cons next more ih =>
    let between := (watched.happen orchestrator config (.reported (.data id piece))).2
    have hnumbered : between.loop.clients.Numbered := numbered_happen h _
    let later : List (Occurrence σ) :=
      (next :: more).map fun bytes => .reported (.data id bytes)
    have hlater : between.run orchestrator config later =
        between.happen orchestrator config (.reported (.data id (next :: more).flatten)) :=
      ih hnumbered next
    have hrun : watched.run orchestrator config (.reported (.data id piece) :: later) =
        ((watched.happen orchestrator config (.reported (.data id piece))).1 ++
            (between.run orchestrator config later).1,
          (between.run orchestrator config later).2) := rfl
    rw [hlater] at hrun
    exact hrun.trans (happen_data_append orchestrator config h piece (next :: more).flatten).symm

end

/-- However the bytes of a client are cut into pieces, the same is done in the same order, and in
the end everything is the same: the devices, the files, what whoever carries out mounts was asked
for, who is connected and what is on the queues.  This includes bytes that break framing or the
protocol, so that the client is disconnected before all pieces have arrived. -/
theorem pieces_make_no_difference (orchestrator : Orchestrator σ) (config : Config)
    (host : Host σ) (occurrences : List (Occurrence σ)) (id : ClientId)
    (first second : List (List UInt8)) (hfirst : [] ∉ first) (hsecond : [] ∉ second)
    (hbytes : first.flatten = second.flatten) :
    let now := ((start host).run orchestrator config occurrences).2
    now.run orchestrator config (first.map fun bytes => .reported (.data id bytes)) =
      now.run orchestrator config (second.map fun bytes => .reported (.data id bytes)) := by
  intro now
  have hnumbered : now.loop.clients.Numbered := numbered_run Registry.numbered_empty occurrences
  have hpieces : ∀ pieces : List (List UInt8), [] ∉ pieces →
      now.run orchestrator config (pieces.map fun bytes => .reported (.data id bytes)) =
        if pieces.flatten = [] then ([], now)
        else now.happen orchestrator config (.reported (.data id pieces.flatten)) := by
    intro pieces hpieces
    cases pieces with
    | nil => rfl
    | cons piece rest =>
      have hpiece : piece ≠ [] := fun hnil => hpieces (hnil ▸ List.mem_cons_self)
      have hflatten : (piece :: rest).flatten ≠ [] := by simp [hpiece]
      rw [if_neg hflatten]
      exact run_pieces orchestrator config hnumbered piece rest
  rw [hpieces first hfirst, hpieces second hsecond, hbytes]

/-- The first of two clients mounts a partition and then says something that is no command; what it
says after that is ignored.  This can be cut anywhere. -/
theorem pieces_make_no_difference_of_nonsense :
    let tree := ((Tree.empty.apply .usbStick .add).1.apply .usbPartition .online).1
    let run := (start ⟨tree, .empty, .start true⟩).run Mount.Rehearsal.orchestrator .standard
    let now := (run [.accepted 8, .accepted 9]).2
    let sent (pieces : List (List UInt8)) :=
      now.run Mount.Rehearsal.orchestrator .standard
        (pieces.map fun bytes => .reported (.data 0 bytes))
    let first := ["mount(\"/dev/sdb1\", nil)\nhal", "lo\nunmount(\"/dev/sdb1\")\n"].map
      Text.Utf8.encode
    let second := ["mou", "nt(\"/dev/sdb1\", nil)\nhallo\n", "unmount(\"/dev/sdb1\")\n"].map
      Text.Utf8.encode
    ([] ∉ first ∧ [] ∉ second ∧ first.flatten = second.flatten) ∧ sent first = sent second ∧
      (sent first).2.client? 0 = none ∧
      (sent first).2.queued 1 =
        ["removable_device_mounted(\"/dev/sdb1\", \"/media/sdb1\", \"rw,nosuid,nodev,flush\")\n"] ∧
      (sent second).2.loop.host.mounts.calls =
        [.mount ⟨"/dev/sdb1", "/media/sdb1", "vfat", ["rw", "nosuid", "nodev", "flush"]⟩] := by
  intro tree run now sent first second
  have hfirst : [] ∉ first := by decide +kernel
  have hsecond : [] ∉ second := by decide +kernel
  have hbytes : first.flatten = second.flatten := by decide +kernel
  have hgone : (sent first).2.client? 0 = none := by decide +kernel
  have hqueue : (sent first).2.queued 1 =
      ["removable_device_mounted(\"/dev/sdb1\", \"/media/sdb1\", \"rw,nosuid,nodev,flush\")\n"] :=
    by decide +kernel
  have hcalls : (sent first).2.loop.host.mounts.calls =
      [.mount ⟨"/dev/sdb1", "/media/sdb1", "vfat", ["rw", "nosuid", "nodev", "flush"]⟩] := by
    decide +kernel
  have hsame : sent first = sent second :=
    pieces_make_no_difference Mount.Rehearsal.orchestrator .standard
      ⟨tree, .empty, .start true⟩ [.accepted 8, .accepted 9] 0 first second hfirst hsecond hbytes
  exact ⟨⟨hfirst, hsecond, hbytes⟩, hsame, hgone, hqueue, hsame ▸ hcalls⟩

end Watched

end RemovableMedia.Server
