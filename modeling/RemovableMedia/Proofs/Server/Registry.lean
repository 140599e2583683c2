import RemovableMedia.Server.Registry

/-!
# Clients that stay connected

What an operation on the registry leaves of a client that can still be found after it.  A client is
looked for by its number, and no operation gives a client another number, so it is enough to say
what becomes of the client with that number.  Numbers are given in order, so a socket that comes
again brings no number back (`Numbered.enroll`).
-/

set_option autoImplicit false

namespace RemovableMedia.Server

namespace Client

/-- The client with more lines on its queue. -/
def told (client : Client) (lines : List String) : Client :=
  { client with queue := client.queue ++ lines }

/-- To be told nothing changes nothing. -/
@[simp]
theorem told_nil (client : Client) : client.told [] = client := by
  simp [told]

/-- To be told something twice is to be told it in a row. -/
theorem told_told (client : Client) (first second : List String) :
    (client.told first).told second = client.told (first ++ second) := by
  simp [told]

/-- A line that is sent is put on the queue. -/
theorem send_eq_ok {client sent : Client} {line : String} (h : client.send line = .ok sent) :
    sent = client.told [line] := by
  unfold send at h
  split at h
  · cases h
  · split at h
    · cases h
    · exact (Except.ok.inj h).symm

/-- A line that is offered does not change the number of a client. -/
theorem id_offered (client : Client) (line : String) : (client.offered line).id = client.id := by
  unfold offered
  cases hsend : client.send line with
  | ok sent =>
    rw [send_eq_ok hsend]
    rfl
  | error e => rfl

/-- A line that is not refused is put on the queue when it is offered. -/
theorem offered_of_not_refuses {client : Client} {line : String}
    (h : client.refuses line = false) : client.offered line = client.told [line] := by
  unfold refuses at h
  unfold offered
  cases hsend : client.send line with
  | ok sent => exact send_eq_ok hsend
  | error e => simp [hsend] at h

end Client

namespace Registry

/-- The client that is found has the number that was looked for. -/
theorem id_of_find? {registry : Registry} {id : ClientId} {client : Client}
    (h : registry.find? id = some client) : client.id = id := by
  simpa using List.find?_some h

/-- Clients that are changed one by one and keep their numbers are found as changed. -/
theorem find?_of_map {registry changed : Registry} {f : Client → Client}
    (hid : ∀ client, (f client).id = client.id)
    (hclients : changed.clients = registry.clients.map f) (id : ClientId) :
    changed.find? id = (registry.find? id).map f := by
  have hsame : (fun client => client.id == id) ∘ f = fun client => client.id == id := by
    funext client
    rw [Function.comp_apply, hid]
  rw [find?, hclients, List.find?_map, hsame]
  rfl

/-- The client that is replaced is found as changed, and all others as they were. -/
theorem find?_replace {registry : Registry} {changed : ClientId} {client : Client}
    (hclient : registry.find? changed = some client) (f : Client → Client)
    (hid : (f client).id = client.id) (id : ClientId) :
    (registry.replace (f client)).find? id =
      (registry.find? id).map fun before => if id = changed then f before else before := by
  have hchanged : (f client).id = changed := hid.trans (id_of_find? hclient)
  rw [find?_of_map (f := fun other => if other.id = (f client).id then f client else other)
    (by grind) rfl]
  refine Option.map_congr fun before hbefore => ?_
  rw [id_of_find? hbefore, hchanged]
  split
  · rename_i heq
    rw [heq, hclient] at hbefore
    rw [Option.some.inj hbefore]
  · rfl

/-- Just the client that is removed is not found any more. -/
theorem find?_remove (registry : Registry) (removed id : ClientId) :
    (registry.remove removed).find? id = if id = removed then none else registry.find? id := by
  rw [find?, remove, List.find?_filter]
  by_cases h : id = removed
  · rw [if_pos h, List.find?_eq_none]
    grind
  · rw [if_neg h, find?]
    congr 1
    grind

/-- Just the clients that are removed are not found any more. -/
theorem find?_removeAll (registry : Registry) (removed : List ClientId) (id : ClientId) :
    (registry.removeAll removed).find? id =
      if id ∈ removed then none else registry.find? id := by
  induction removed generalizing registry with
  | nil => simp [removeAll]
  | cons first rest ih =>
    rw [removeAll, List.foldl_cons, ← removeAll, ih, find?_remove]
    grind

/-- A client that is there after a line was put on every queue and those were removed who refused
it has the line. -/
theorem find?_broadcast {registry : Registry} {line : String} {id : ClientId} {after : Client}
    (h : ((registry.broadcast line).2.removeAll (registry.broadcast line).1).find? id =
      some after) :
    ∃ before, registry.find? id = some before ∧ after = before.told [line] := by
  rw [find?_removeAll] at h
  split at h
  · cases h
  · rename_i hkept
    rw [find?_of_map (fun client => client.id_offered line) rfl] at h
    obtain ⟨before, hbefore, rfl⟩ := Option.map_eq_some_iff.1 h
    refine ⟨before, hbefore, Client.offered_of_not_refuses ?_⟩
    cases hrefuses : before.refuses line with
    | false => rfl
    | true =>
      have hmem : before ∈ registry.clients.filter fun client => client.refuses line :=
        List.mem_filter.2 ⟨List.mem_of_find?_eq_some hbefore, hrefuses⟩
      exact absurd (List.mem_map.2 ⟨before, hmem, id_of_find? hbefore⟩) hkept

/-- A client that is enrolled is found under the next number, and all others as they were. -/
theorem find?_enroll (registry : Registry) (socket : Nat) (id : ClientId) :
    (registry.enroll socket).2.find? id =
      (registry.find? id).or
        (if id = registry.nextId then some (.accepted registry.nextId socket) else none) := by
  simp only [find?, enroll, List.find?_append, List.find?_singleton]
  grind [Client.accepted]

/-- All sockets of clients come before the one that is found free. -/
theorem hasSocket_freeSocket (registry : Registry) :
    registry.hasSocket registry.freeSocket = false := by
  have hbefore : ∀ client ∈ registry.clients, client.socket < registry.freeSocket := by
    unfold freeSocket
    induction registry.clients with
    | nil => simp
    | cons first rest ih =>
      intro client hclient
      rw [List.foldr_cons]
      rcases List.mem_cons.1 hclient with rfl | hrest
      · exact Nat.lt_of_lt_of_le (Nat.lt_succ_self _) (Nat.le_max_left _ _)
      · exact Nat.lt_of_lt_of_le (ih client hrest) (Nat.le_max_right _ _)
  rw [hasSocket, List.any_eq_false]
  intro client hclient hsame
  exact Nat.ne_of_lt (hbefore client hclient) (eq_of_beq hsame)

/-- A free socket is not refused. -/
theorem register_freeSocket (registry : Registry) :
    registry.register registry.freeSocket = .ok registry.accept := by
  rw [register, hasSocket_freeSocket, if_neg Bool.false_ne_true, accept]

/-- A client that is not refused gets the next number. -/
theorem fst_of_register {registry clients : Registry} {socket : Nat} {id : ClientId}
    (h : registry.register socket = .ok (id, clients)) : id = registry.nextId := by
  unfold register at h
  split at h
  · cases h
  · cases h
    rfl

/-- What is fed to a client is what its buffer takes in. -/
theorem feed_fst {registry : Registry} {id : ClientId} {client : Client}
    (h : registry.find? id = some client) (bytes : List UInt8) :
    (registry.feed id bytes).1 = (client.frames.feed bytes).1 := by
  rw [feed, h]

/-- Feeding a client changes its buffer and no other client. -/
theorem find?_feed (registry : Registry) (fed : ClientId) (bytes : List UInt8) (id : ClientId) :
    (registry.feed fed bytes).2.find? id =
      (registry.find? id).map fun before =>
        if id = fed then { before with frames := (before.frames.feed bytes).2 } else before := by
  unfold feed
  split
  · rename_i hfed
    by_cases hid : id = fed
    · rw [hid, hfed]
      rfl
    · simp [hid]
  · rename_i client hfed
    exact find?_replace hfed
      (fun client => { client with frames := (client.frames.feed bytes).2 }) rfl id

/-- Sending to a client puts the line on its queue and on no other. -/
theorem find?_send {registry sent : Registry} {receiver : ClientId} {line : String}
    (hsend : registry.send receiver line = .ok sent) (id : ClientId) :
    sent.find? id =
      (registry.find? id).map fun before =>
        if id = receiver then before.told [line] else before := by
  unfold send at hsend
  split at hsend
  · cases hsend
  · rename_i client hreceiver
    split at hsend
    · rename_i changed hchanged
      cases hsend
      obtain rfl := Client.send_eq_ok hchanged
      exact find?_replace hreceiver (fun client => client.told [line]) rfl id
    · cases hsend

/-! ## Numbers -/

/-- Some clients are gone, and no number was given. -/
structure Shrinks (before after : Registry) : Prop where
  ids : after.ids.Sublist before.ids
  nextId : after.nextId = before.nextId

/-- A registry does not grow by being left alone. -/
theorem Shrinks.refl (registry : Registry) : registry.Shrinks registry :=
  ⟨List.Sublist.refl _, rfl⟩

/-- What does not grow in either of two steps does not grow in both. -/
theorem Shrinks.trans {before between after : Registry} (hfirst : before.Shrinks between)
    (hlater : between.Shrinks after) : before.Shrinks after :=
  ⟨hlater.ids.trans hfirst.ids, hlater.nextId.trans hfirst.nextId⟩

/-- Clients that are changed one by one keep their numbers. -/
theorem shrinks_of_map {registry changed : Registry} {f : Client → Client}
    (hid : ∀ client, (f client).id = client.id)
    (hclients : changed.clients = registry.clients.map f)
    (hnextId : changed.nextId = registry.nextId) : registry.Shrinks changed := by
  have hids : changed.ids = registry.ids := by
    simp only [ids, hclients, List.map_map, Function.comp_def, hid]
  exact ⟨hids ▸ List.Sublist.refl _, hnextId⟩

/-- No client comes by replacing one. -/
theorem shrinks_replace (registry : Registry) (client : Client) :
    registry.Shrinks (registry.replace client) := by
  refine shrinks_of_map (f := fun other => if other.id = client.id then client else other)
    ?_ rfl rfl
  intro other
  split
  · rename_i h
    exact h.symm
  · rfl

/-- No client comes by removing one. -/
theorem shrinks_remove (registry : Registry) (id : ClientId) :
    registry.Shrinks (registry.remove id) :=
  ⟨List.filter_sublist.map Client.id, rfl⟩

/-- No client comes by removing some. -/
theorem shrinks_removeAll (registry : Registry) (removed : List ClientId) :
    registry.Shrinks (registry.removeAll removed) := by
  induction removed generalizing registry with
  | nil => exact .refl registry
  | cons first rest ih => exact (registry.shrinks_remove first).trans (ih (registry.remove first))

/-- No client comes by telling all. -/
theorem shrinks_broadcast (registry : Registry) (line : String) :
    registry.Shrinks (registry.broadcast line).2 :=
  shrinks_of_map (fun client => client.id_offered line) rfl rfl

/-- No client comes by feeding one. -/
theorem shrinks_feed (registry : Registry) (id : ClientId) (bytes : List UInt8) :
    registry.Shrinks (registry.feed id bytes).2 := by
  unfold feed
  split
  · exact .refl registry
  · exact registry.shrinks_replace _

/-- No client comes by sending to one. -/
theorem shrinks_send {registry sent : Registry} {id : ClientId} {line : String}
    (h : registry.send id line = .ok sent) : registry.Shrinks sent := by
  unfold send at h
  split at h
  · cases h
  · split at h
    · cases h
      exact registry.shrinks_replace _
    · cases h

/-- No two clients have the same number, and all numbers were given. -/
structure Numbered (registry : Registry) : Prop where
  distinct : registry.ids.Nodup
  given : ∀ id ∈ registry.ids, id < registry.nextId

/-- An empty registry has no two clients of one number. -/
theorem numbered_empty : empty.Numbered :=
  ⟨List.nodup_nil, by simp [ids, empty]⟩

/-- Clients that remain keep their own numbers, below the next one. -/
theorem Numbered.shrink {before after : Registry} (h : before.Numbered)
    (hshrinks : before.Shrinks after) : after.Numbered where
  distinct := h.distinct.sublist hshrinks.ids
  given id hid := hshrinks.nextId ▸ h.given id (hshrinks.ids.subset hid)

/-- The number of a connected client was given before the next one. -/
theorem Numbered.lt_nextId {registry : Registry} (h : registry.Numbered) {id : ClientId}
    {client : Client} (hclient : registry.find? id = some client) : id < registry.nextId := by
  have hmem : client.id ∈ registry.ids :=
    List.mem_map_of_mem (List.mem_of_find?_eq_some hclient)
  rw [id_of_find? hclient] at hmem
  exact h.given id hmem

/-- A new client has a number of its own. -/
theorem Numbered.enroll {registry : Registry} (h : registry.Numbered) (socket : Nat) :
    (registry.enroll socket).2.Numbered := by
  have hids : (registry.enroll socket).2.ids = registry.ids ++ [registry.nextId] := by
    simp [ids, Registry.enroll, Client.accepted]
  constructor
  · rw [hids, List.nodup_append]
    refine ⟨h.distinct, by simp, ?_⟩
    rintro id hid _ hnew rfl
    rw [List.mem_singleton.1 hnew] at hid
    exact Nat.lt_irrefl _ (h.given _ hid)
  · intro id hid
    rw [hids, List.mem_append, List.mem_singleton] at hid
    rcases hid with hid | rfl
    · exact Nat.lt_succ_of_lt (h.given id hid)
    · exact Nat.lt_succ_self _

end Registry

end RemovableMedia.Server
