import RemovableMedia.Monitor.Basic
import RemovableMedia.Proofs.Monitor.Shadow
import RemovableMedia.Server.Loop

/-!
# A consumer of the monitor

A consumer that registers before the start, brings in the devices that are present and then takes
every item from its queue has a tree of just the devices that the monitor remembers.  It could as
well read the source itself: what the monitor holds back is silent for its tree, and what the
monitor lets through is told as it should be (`monitor_tracks_consumer`).
-/

set_option autoImplicit false

namespace RemovableMedia.Monitor

open RemovableMedia.Device (Record)
open RemovableMedia.Server (Loop)

/-! ## What comes through -/

/-- The events that are news one after another, and what is remembered after them. -/
def Shadow.relay (shadow : Shadow) : List Device.Event → List Device.Event × Shadow
  | [] => ([], shadow)
  | event :: rest =>
    match shadow.accept event with
    | some shadow =>
      let (news, shadow) := shadow.relay rest
      (event :: news, shadow)
    | none => shadow.relay rest

/-- Events that come later are news after those that came before. -/
theorem Shadow.relay_append (shadow : Shadow) (first later : List Device.Event) :
    shadow.relay (first ++ later) =
      ((shadow.relay first).1 ++ ((shadow.relay first).2.relay later).1,
        ((shadow.relay first).2.relay later).2) := by
  induction first generalizing shadow with
  | nil => rfl
  | cons event rest ih =>
    simp only [List.cons_append, relay]
    cases shadow.accept event with
    | none => exact ih shadow
    | some next => simp [ih next]

/-- Listing the devices that are present is to report that each is added. -/
theorem Shadow.relay_add (shadow : Shadow) (records : List Record) :
    shadow.relay (records.map fun record => ⟨.add, record⟩) =
      ((shadow.admitAll records).1.map fun record => ⟨.add, record⟩,
        (shadow.admitAll records).2) := by
  induction records generalizing shadow with
  | nil => rfl
  | cons record rest ih =>
    simp only [List.map_cons, relay, admitAll]
    cases shadow.accept ⟨.add, record⟩ with
    | none => exact ih shadow
    | some next => simp [ih next]

/-- Whoever applies only the news has the same tree as somebody who applies everything, and is
told the same. -/
theorem Shadow.Tracks.relay {shadow : Shadow} {tree : Tree} (h : shadow.Tracks tree)
    (hshape : tree.WellFormed) {events : List Device.Event}
    (hbuilt : ∀ event ∈ events, event.record.Built) :
    Loop.applyItems tree ((shadow.relay events).1.map .news) =
        Loop.applyItems tree (events.map .news) ∧
      (shadow.relay events).2.Tracks (Loop.applyItems tree (events.map .news)).1 ∧
        (Loop.applyItems tree (events.map .news)).1.WellFormed := by
  -- Along the events the memory and the tree stay in step, so each decision is the right one.
  induction events generalizing shadow tree with
  | nil => exact ⟨rfl, h, hshape⟩
  | cons event rest ih =>
    have hrest : ∀ event ∈ rest, event.record.Built :=
      fun event hmem => hbuilt event (List.mem_cons_of_mem _ hmem)
    simp only [Shadow.relay, List.map_cons, Loop.applyItems]
    cases haccept : shadow.accept event with
    | none =>
      obtain ⟨hsame, htracks, hkeeps⟩ := ih h hshape hrest
      rw [h.apply_of_reject hshape haccept]
      exact ⟨hsame, htracks, hkeeps⟩
    | some next =>
      have hevent := hbuilt event List.mem_cons_self
      obtain ⟨hsame, htracks, hkeeps⟩ :=
        ih (h.accept hshape haccept) (hshape.apply hevent event.action) hrest
      exact ⟨by simp only [List.map_cons, Loop.applyItems, hsame], htracks, hkeeps⟩

/-! ## Queues -/

/-- Whether a queue has a number. -/
def Queues.Registered (queues : Queues) (id : Nat) : Prop :=
  ∃ queue ∈ queues.queues, queue.id = id

/-- Every queue that is registered gets an item that is put on all. -/
theorem Queues.pending_fanOut {queues : Queues} {id : Nat} (h : queues.Registered id)
    (item : Item) : (queues.fanOut item).pending id = queues.pending id ++ [item] := by
  obtain ⟨queue, hqueue, hid⟩ := h
  obtain ⟨found, hfound⟩ :
      ∃ found, queues.queues.find? (fun queue => queue.id == id) = some found :=
    Option.isSome_iff_exists.1 (List.find?_isSome.2 ⟨queue, hqueue, beq_iff_eq.2 hid⟩)
  have hmapped : (queues.fanOut item).queues.find? (fun queue => queue.id == id) =
      some { found with items := found.items ++ [item] } := by
    simp only [fanOut, List.find?_map, Function.comp_def, hfound, Option.map_some]
  simp [pending, hmapped, hfound]

/-- Putting an item on all queues registers none and drops none. -/
theorem Queues.registered_fanOut {queues : Queues} {id : Nat} (h : queues.Registered id)
    (item : Item) : (queues.fanOut item).Registered id := by
  obtain ⟨queue, hqueue, hid⟩ := h
  exact ⟨_, List.mem_map_of_mem hqueue, hid⟩

/-- What the monitor remembers of events, and what a consumer finds on its queue. -/
theorem foldl_observe (monitor : Monitor) (events : List Device.Event) {id : Nat}
    (h : monitor.queues.Registered id) :
    (events.foldl observe monitor).shadow = (monitor.shadow.relay events).2 ∧
      (events.foldl observe monitor).queues.pending id =
        monitor.queues.pending id ++ (monitor.shadow.relay events).1.map .news := by
  induction events generalizing monitor with
  | nil => simp [Shadow.relay]
  | cons event rest ih =>
    simp only [List.foldl_cons, observe, Shadow.relay]
    cases monitor.shadow.accept event with
    | none => exact ih monitor h
    | some next =>
      obtain ⟨hshadow, hpending⟩ := ih { monitor with
        shadow := next, queues := monitor.queues.fanOut (.news event) }
          (Queues.registered_fanOut h (.news event))
      refine ⟨hshadow, hpending.trans ?_⟩
      simp [Queues.pending_fanOut h]

/-! ## The monitor and its consumer -/

/-- What holds of an event when the monitor remembers the devices of a tree: what it holds back
would be silent, a device that it lets in is told of once, and just what it forgets is told to be
gone. -/
structure Decides (shadow : Shadow) (tree : Tree) (event : Device.Event) : Prop where
  reject : shadow.accept event = none → tree.apply event.record event.action = (tree, [])
  insert : ∀ next, shadow.accept event = some next → event.action.isInsert = true →
    (tree.apply event.record event.action).2 = [.added (.ofRecord event.record none)]
  remove : ∀ next, shadow.accept event = some next → event.action.isRemoval = true →
    List.Perm (tree.apply event.record event.action).2
      ((List.filter (fun known => known ∉ next) shadow).map fun known => .removed known.path)

/-- A monitor that remembers the devices of a tree decides as it should. -/
theorem Shadow.Tracks.decides {shadow : Shadow} {tree : Tree} (h : shadow.Tracks tree)
    (hshape : tree.WellFormed) (event : Device.Event) : Decides shadow tree event where
  reject := h.apply_of_reject hshape
  insert _ := h.events_of_isInsert hshape
  remove _ := h.events_of_isRemoval hshape

/-- A monitor with one queue that has just been started. -/
theorem start_create (records : List Record) :
    ∃ started, (create (.start records [])).register.2.start =
        (.ok (Shadow.admitAll [] records).1, started) ∧
      started.shadow = (Shadow.admitAll [] records).2 ∧ started.queues = ⟨[⟨0, []⟩], 1⟩ :=
  ⟨_, rfl, rfl, rfl⟩

/-- A monitor is in step with somebody who `heard` a part of what was `reported` and applied it to
the empty tree. -/
structure InStep (monitor : Monitor) (heard reported : List Item) : Prop where
  /-- A path is known exactly if a device is there, and with its kind and parent. -/
  known : ∀ path, monitor.shadow.find? path =
    ((Loop.applyItems .empty heard).1.get? path).map fun node =>
      ⟨path, node.record.kind, node.record.parentPath⟩
  /-- Nothing else is remembered. -/
  remembered : List.Perm monitor.shadow
    ((Loop.applyItems .empty heard).1.nodes.map fun node => .ofRecord node.record)
  /-- Whatever was not heard makes no difference, neither to the tree nor to what is told. -/
  transparent : Loop.applyItems .empty heard = Loop.applyItems .empty reported
  decides : ∀ event : Device.Event,
    Decides monitor.shadow (Loop.applyItems .empty heard).1 event

/-- A consumer registers the first queue, the monitor starts on a source that lists `records` and
then reports `events`, and the consumer applies what it was given at the start and what it then
finds on its queue.  Then it is in step with the monitor. -/
theorem monitor_tracks_consumer (records : List Record) (events : List Device.Event)
    (hrecords : ∀ record ∈ records, record.Built)
    (hevents : ∀ event ∈ events, event.record.Built) :
    ∃ present started,
      (create (.start records [])).register.2.start = (.ok present, started) ∧
        InStep (events.foldl observe started)
          (present.map (fun record => .news ⟨.add, record⟩) ++
            ((events.foldl observe started).drain 0).1)
          (records.map (fun record => .news ⟨.add, record⟩) ++ events.map .news) := by
  obtain ⟨started, hstart, hshadow, hqueues⟩ := start_create records
  refine ⟨_, started, hstart, ?_⟩
  -- what is listed at the start counts as reported, so that both parts are relayed in a row
  let reports := records.map (fun record => (⟨.add, record⟩ : Device.Event)) ++ events
  have hregistered : started.queues.Registered 0 := by
    rw [hqueues]
    exact ⟨⟨0, []⟩, List.mem_cons_self, rfl⟩
  obtain ⟨hremembered, hpending⟩ := foldl_observe started events hregistered
  have hrelay : Shadow.relay [] reports =
      ((Shadow.admitAll [] records).1.map (fun record => ⟨.add, record⟩) ++
        (started.shadow.relay events).1, (events.foldl observe started).shadow) := by
    rw [Shadow.relay_append, Shadow.relay_add, ← hshadow, ← hremembered]
  have hheard : (Shadow.admitAll [] records).1.map (fun record => .news ⟨.add, record⟩) ++
      ((events.foldl observe started).drain 0).1 = (Shadow.relay [] reports).1.map .news := by
    simp only [drain, Queues.drain, hpending, hrelay]
    simp [hqueues, Queues.pending]
  have hreports : reports.map .news =
      records.map (fun record => Item.news ⟨.add, record⟩) ++ events.map .news := by
    simp [reports, Function.comp_def]
  have hbuilt : ∀ event ∈ reports, event.record.Built := by
    intro event hmem
    rcases List.mem_append.1 hmem with hpresent | hevent
    · obtain ⟨record, hrecord, rfl⟩ := List.mem_map.1 hpresent
      exact hrecords record hrecord
    · exact hevents event hevent
  obtain ⟨hsame, htracks, hshape⟩ := Shadow.tracks_empty.relay .empty hbuilt
  rw [← hheard, hreports] at hsame
  rw [hreports, ← hsame] at htracks hshape
  rw [hrelay] at htracks
  refine ⟨fun path => ?_, htracks, hsame, htracks.decides hshape⟩
  rw [htracks.find?_eq hshape.paths]
  refine Option.map_congr fun node hget => ?_
  rw [← Tree.path_of_get? hget]
  rfl

/-- A stick with a partition that is listed on both sides of it, changes, and goes with its
disk. -/
theorem monitor_tracks_consumer_of_stick :
    let records := [Record.usbPartition, Record.usbStick, Record.usbPartition]
    let events : List Device.Event :=
      [⟨.change, .usbPartition⟩, ⟨.online, .usbStick⟩, ⟨.remove, .usbStick⟩]
    (∀ record ∈ records, record.Built) ∧ (∀ event ∈ events, event.record.Built) ∧
      ∃ present started,
        (create (.start records [])).register.2.start = (.ok present, started) ∧
          InStep (events.foldl observe started)
            (present.map (fun record => .news ⟨.add, record⟩) ++
              ((events.foldl observe started).drain 0).1)
            (records.map (fun record => .news ⟨.add, record⟩) ++ events.map .news) := by
  intro records events
  have hrecords : ∀ record ∈ records, record.Built := by
    simp [records, Record.usbStick_built, Record.usbPartition_built]
  have hevents : ∀ event ∈ events, event.record.Built := by
    simp [events, Record.usbStick_built, Record.usbPartition_built]
  exact ⟨hrecords, hevents, monitor_tracks_consumer records events hrecords hevents⟩

end RemovableMedia.Monitor
