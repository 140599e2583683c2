import RemovableMedia.Proofs.Monitor.FanOut
import RemovableMedia.Proofs.Server.Loop
import RemovableMedia.Proofs.Tree.Bare
import RemovableMedia.Server.Daemon

/-!
# Batches of news

Chance decides how much of the monitor's news waits on the queue when the daemon looks, and the
mount table is taken over after each such batch.  As long as the table stays as it is, the cuts make
no difference to the tree in the end nor to the arrivals and departures that clients are told of
(`Waiting.cuts_make_no_difference`).  A batch with the mark of the end is applied and told up to the
mark, and then the daemon ends.

A daemon that waits for news does with each batch what `Tree.absorb` does with a tree
(`Waiting.handle_news`), and is waiting again after it.
-/

set_option autoImplicit false

namespace RemovableMedia.Server

open RemovableMedia.Monitor (Item)
open RemovableMedia.Mount (Orchestrator)

variable {σ : Type}

/-! ## Items -/

/-- Items after a batch of news meet the tree that the news have left. -/
theorem Loop.applyItems_append (tree : Tree) (events : List Device.Event) (items : List Item) :
    Loop.applyItems tree (events.map .news ++ items) =
      ((Loop.applyItems (tree.applyAll events).1 items).1,
        (tree.applyAll events).2 ++ (Loop.applyItems (tree.applyAll events).1 items).2.1,
        (Loop.applyItems (tree.applyAll events).1 items).2.2) := by
  induction events generalizing tree with
  | nil => rfl
  | cons event rest ih =>
    simp only [List.map_cons, List.cons_append, Loop.applyItems, Tree.applyAll, ih,
      List.append_assoc]

/-- News alone are applied one after another and do not end the monitor. -/
theorem Loop.applyItems_news (tree : Tree) (events : List Device.Event) :
    Loop.applyItems tree (events.map .news) =
      ((tree.applyAll events).1, (tree.applyAll events).2, false) := by
  have happend := Loop.applyItems_append tree events []
  simpa only [List.append_nil, Loop.applyItems] using happend

/-- What comes after the mark of the end is not applied. -/
theorem Loop.applyItems_exit (tree : Tree) (events : List Device.Event) (after : List Item) :
    Loop.applyItems tree (events.map .news ++ .exit :: after) =
      ((tree.applyAll events).1, (tree.applyAll events).2, true) := by
  rw [Loop.applyItems_append]
  simp only [Loop.applyItems, List.append_nil]

namespace Loop

/-- Telling the clients something does not change the host. -/
theorem host_broadcast (loop : Loop σ) (events : List Notification) :
    (loop.broadcast events).host = loop.host := by
  induction events generalizing loop with
  | nil => rfl
  | cons event rest ih => exact ih (loop.announce event)

/-- The loop with another tree, which tells its clients what changed. -/
def turn (loop : Loop σ) (changed : Tree × List Notification) : Loop σ :=
  { loop with host.tree := changed.1 }.broadcast changed.2

/-- Of the host, only the tree turns. -/
theorem host_turn (loop : Loop σ) (changed : Tree × List Notification) :
    (loop.turn changed).host = { loop.host with tree := changed.1 } :=
  host_broadcast _ _

/-- News are applied and then reconciled with the live table, and all clients are told of both. -/
theorem observe_news {orchestrator : Orchestrator σ} {loop : Loop σ} {table : Mount.Table}
    (htable : orchestrator.table loop.host.mounts = .ok table)
    (events : List Device.Event) :
    loop.news orchestrator (events.map .news) = (loop.host.tree.absorb table events).2 ∧
      loop.observe orchestrator (events.map .news) =
        (false, loop.turn (loop.host.tree.absorb table events)) := by
  simp only [news, observe, applyItems_news, reconcile, Mount.Host.reconcile, htable]
  exact ⟨rfl, rfl⟩

/-- News before the end of the monitor are applied and told, and nothing after the end counts. -/
theorem observe_exit (orchestrator : Orchestrator σ) (loop : Loop σ)
    (events : List Device.Event) (after : List Item) :
    loop.news orchestrator (events.map .news ++ .exit :: after) =
        (loop.host.tree.applyAll events).2 ∧
      loop.observe orchestrator (events.map .news ++ .exit :: after) =
        (true, loop.turn (loop.host.tree.applyAll events)) := by
  simp only [news, observe, applyItems_exit]
  exact ⟨rfl, rfl⟩

end Loop

namespace Daemon

/-! ## Batches -/

/-- Puts items on all queues of the monitor. -/
def offer (daemon : Daemon σ) (items : List Item) : Daemon σ :=
  { daemon with monitor.queues := items.foldl Monitor.Queues.fanOut daemon.monitor.queues }

/-- Lets the loop take over items that come together. -/
def handle (daemon : Daemon σ) (items : List Item) : Daemon σ :=
  (daemon.offer items).takeNews

/-- What all clients are told of items that come together. -/
def news (daemon : Daemon σ) (items : List Item) : List Notification :=
  daemon.loop.news daemon.orchestrator items

/-- Lets the loop take over items batch by batch, and says what all clients are told of them. -/
def handleAll (daemon : Daemon σ) : List (List Item) → List Notification × Daemon σ
  | [] => ([], daemon)
  | batch :: rest =>
    let (later, last) := (daemon.handle batch).handleAll rest
    (daemon.news batch ++ later, last)

/-- A daemon that has taken over all items so far, and knows what is mounted. -/
structure Waiting (daemon : Daemon σ) (table : Mount.Table) : Prop where
  registered : daemon.monitor.queues.Registered daemon.queue
  pending : daemon.monitor.queues.pending daemon.queue = []
  table : daemon.orchestrator.table daemon.loop.host.mounts = .ok table

variable {daemon : Daemon σ} {table : Mount.Table}

/-- The items are what the daemon finds on its queue, and it takes all of them. -/
theorem Waiting.drain (h : daemon.Waiting table) (items : List Item) :
    ∃ monitor, (daemon.offer items).monitor.drain daemon.queue = (items, monitor) ∧
      monitor.queues.Registered daemon.queue ∧ monitor.queues.pending daemon.queue = [] := by
  obtain ⟨hregistered, hpending⟩ := Monitor.Queues.foldl_fanOut h.registered items
  rw [h.pending, List.nil_append] at hpending
  refine ⟨_, Prod.ext hpending rfl, ?_, ?_⟩
  · exact (Monitor.Queues.registered_setPending []).2 hregistered
  · exact (Monitor.Queues.pending_setPending hregistered []).trans (if_pos rfl)

/-- Items that are handled are what the loop observes, and the queue is empty after it. -/
theorem Waiting.handle (h : daemon.Waiting table) {items : List Item} (hsome : items ≠ []) :
    ∃ monitor, monitor.queues.Registered daemon.queue ∧
      monitor.queues.pending daemon.queue = [] ∧
      daemon.handle items =
        (let (ended, loop) := daemon.loop.observe daemon.orchestrator items
        if ended then { daemon with loop, monitor }.finish (.error .monitorExited)
        else { daemon with loop, monitor }) := by
  obtain ⟨monitor, hdrain, hregistered, hpending⟩ := h.drain items
  refine ⟨monitor, hregistered, hpending, ?_⟩
  have hqueue : (daemon.offer items).monitor.drain (daemon.offer items).queue =
      (items, monitor) := hdrain
  obtain ⟨item, rest, rfl⟩ := List.exists_cons_of_ne_nil hsome
  rw [Daemon.handle, takeNews, hqueue]
  rfl

/-- A batch of news is absorbed and told, and the daemon waits again after it. -/
theorem Waiting.handle_news (h : daemon.Waiting table) {events : List Device.Event}
    (hsome : events ≠ []) :
    (daemon.handle (events.map .news)).Waiting table ∧
      ∃ monitor, daemon.handle (events.map .news) =
        { daemon with loop := daemon.loop.turn (daemon.loop.host.tree.absorb table events),
                      monitor } := by
  have hitems : events.map Item.news ≠ [] := by simpa using hsome
  obtain ⟨monitor, hregistered, hpending, hhandle⟩ := h.handle hitems
  obtain ⟨-, hobserve⟩ := Loop.observe_news h.table events
  rw [hobserve] at hhandle
  dsimp only at hhandle
  rw [if_neg Bool.false_ne_true] at hhandle
  refine ⟨?_, monitor, hhandle⟩
  rw [hhandle]
  refine ⟨hregistered, hpending, ?_⟩
  dsimp only
  rw [Loop.host_turn]
  exact h.table

/-- A batch with the mark of the end is applied and told up to the mark, and ends the daemon. -/
theorem Waiting.handle_exit (h : daemon.Waiting table) (before : List Device.Event)
    (after : List Item) :
    ∃ monitor, daemon.handle (before.map .news ++ .exit :: after) =
      { daemon with loop := daemon.loop.turn (daemon.loop.host.tree.applyAll before),
                    monitor }.finish (.error .monitorExited) := by
  have hitems : before.map Item.news ++ .exit :: after ≠ [] := by simp
  obtain ⟨monitor, -, -, hhandle⟩ := h.handle hitems
  obtain ⟨-, hobserve⟩ := Loop.observe_exit daemon.orchestrator daemon.loop before after
  rw [hobserve] at hhandle
  exact ⟨monitor, hhandle⟩

/-- Batch by batch the daemon does to its tree what is done to a tree alone. -/
theorem Waiting.handleAll (h : daemon.Waiting table) {batches : List (List Device.Event)}
    (hsome : [] ∉ batches) :
    (daemon.handleAll (batches.map (List.map .news))).1 =
        (daemon.loop.host.tree.absorbAll table batches).2 ∧
      (daemon.handleAll (batches.map (List.map .news))).2.loop.host.tree =
        (daemon.loop.host.tree.absorbAll table batches).1 ∧
      (daemon.handleAll (batches.map (List.map .news))).2.Waiting table := by
  induction batches generalizing daemon with
  | nil => exact ⟨rfl, rfl, h⟩
  | cons batch rest ih =>
    rw [List.mem_cons, not_or] at hsome
    have hnews : daemon.news (batch.map .news) = (daemon.loop.host.tree.absorb table batch).2 :=
      (Loop.observe_news h.table batch).1
    obtain ⟨hwaiting, monitor, hhandle⟩ := h.handle_news (Ne.symm hsome.1)
    have htree : (daemon.handle (batch.map .news)).loop.host.tree =
        (daemon.loop.host.tree.absorb table batch).1 := by
      rw [hhandle]
      exact congrArg Mount.Host.tree (Loop.host_turn _ _)
    obtain ⟨htold, hlast, hreached⟩ := ih hwaiting hsome.2
    rw [htree] at htold hlast
    simp only [List.map_cons, Daemon.handleAll, Tree.absorbAll]
    exact ⟨by rw [hnews, htold], hlast, hreached⟩

/-- A daemon takes over news batch by batch while the mount table stays as it is.  However the news
are cut into batches, the tree is the same in the end, with what is mounted, and the same devices
are told to come and go in the same order.  Wherever the daemon has got to, a batch of news is
applied, the table is taken over, and all of it is told to every client.  Of a batch with the mark
of the end, what comes before the mark is applied and told to every client and what comes after it is
not, and only then the daemon ends because the monitor did. -/
theorem Waiting.cuts_make_no_difference (h : daemon.Waiting table) :
    (∀ first second : List (List Device.Event), [] ∉ first → [] ∉ second →
      first.flatten = second.flatten →
      let one := daemon.handleAll (first.map (List.map .news))
      let other := daemon.handleAll (second.map (List.map .news))
      one.2.loop.host.tree = other.2.loop.host.tree ∧
        one.1.filter Notification.isPresence = other.1.filter Notification.isPresence) ∧
    ∀ batches : List (List Device.Event), [] ∉ batches →
      let reached := (daemon.handleAll (batches.map (List.map .news))).2
      ∀ events : List Device.Event,
        let applied := reached.loop.host.tree.applyAll events
        let reconciled := applied.1.reconcile table
        (events ≠ [] →
          let told := { reached.loop with host.tree := reconciled.1 }.broadcast
            (applied.2 ++ reconciled.2)
          reached.news (events.map .news) = applied.2 ++ reconciled.2 ∧
            reached.loop.observe reached.orchestrator (events.map .news) = (false, told) ∧
            ∃ monitor, reached.handle (events.map .news) =
              { reached with loop := told, monitor }) ∧
        ∀ after : List Item,
          let batch := events.map .news ++ .exit :: after
          let told := { reached.loop with host.tree := applied.1 }.broadcast applied.2
          reached.news batch = applied.2 ∧
            reached.loop.observe reached.orchestrator batch = (true, told) ∧
            ∃ monitor, reached.handle batch =
              { reached with loop := told, monitor }.finish (.error .monitorExited) := by
  refine ⟨fun first second hfirst hsecond hflatten => ?_, fun batches hsome => ?_⟩
  · obtain ⟨htoldFirst, htreeFirst, -⟩ := h.handleAll hfirst
    obtain ⟨htoldSecond, htreeSecond, -⟩ := h.handleAll hsecond
    obtain ⟨-, hpresenceFirst⟩ := daemon.loop.host.tree.absorbAll_sameDevices table first
    obtain ⟨-, hpresenceSecond⟩ := daemon.loop.host.tree.absorbAll_sameDevices table second
    constructor
    · rw [htreeFirst, htreeSecond, Tree.absorbAll_eq table _ hfirst,
        Tree.absorbAll_eq table _ hsecond, hflatten]
    · rw [htoldFirst, htoldSecond, hpresenceFirst, hpresenceSecond, hflatten]
  · obtain ⟨-, -, hreached⟩ := h.handleAll hsome
    intro reached events applied reconciled
    refine ⟨fun hevents => ?_, fun after => ?_⟩
    · obtain ⟨-, hhandle⟩ := hreached.handle_news hevents
      obtain ⟨hnews, hobserve⟩ := Loop.observe_news hreached.table events
      exact ⟨hnews, hobserve, hhandle⟩
    · have hhandle := hreached.handle_exit events after
      obtain ⟨hnews, hobserve⟩ := Loop.observe_exit reached.orchestrator reached.loop events after
      exact ⟨hnews, hobserve, hhandle⟩

/-- A stick comes whose partition is mounted, and then the partition changes.  In one batch the change
is told before the mount is found, in two batches after it. -/
theorem Waiting.cuts_make_no_difference_of_stick :
    let table : Mount.Table := [⟨"/dev/sdb1", ⟨"/mnt", "ro"⟩⟩]
    let daemon : Daemon Mount.Rehearsal :=
      { orchestrator := Mount.Rehearsal.orchestrator
        config := .standard
        loop := ⟨⟨.empty, .empty, { Mount.Rehearsal.start true with table }⟩, .empty⟩
        monitor := (Monitor.create (.start [] [])).register.2
        queue := 0
        peers := []
        ending := none }
    let arrival : List Device.Event := [⟨.add, .usbStick⟩, ⟨.add, .usbPartition⟩]
    let change : Device.Event := ⟨.change, { Device.Record.usbPartition with tag := some "new" }⟩
    let one := daemon.handleAll ([arrival ++ [change]].map (List.map .news))
    let other := daemon.handleAll ([arrival, [change]].map (List.map .news))
    daemon.Waiting table ∧ one.1 ≠ other.1 ∧
      one.2.loop.host.tree = other.2.loop.host.tree ∧
        one.1.filter Notification.isPresence = other.1.filter Notification.isPresence := by
  intro table daemon arrival change one other
  have hwaiting : daemon.Waiting table := ⟨⟨⟨0, []⟩, List.mem_cons_self, rfl⟩, rfl, rfl⟩
  have hdiffer : one.1 ≠ other.1 := by decide +kernel
  exact ⟨hwaiting, hdiffer, hwaiting.cuts_make_no_difference.1 _ _ (by simp) (by simp) rfl⟩

end Daemon

end RemovableMedia.Server
