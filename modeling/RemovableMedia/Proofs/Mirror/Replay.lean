import RemovableMedia.Proofs.Mirror.Basic
import RemovableMedia.Proofs.Mount.Host

/-!
# Notifications replay to the tree

Each operation of the tree tells just what it does: whoever knew the tree before and observes what
is told knows the tree after it.  Only `observeAll_reconcile` is about what is known apart from
mount options, since other options at the same mount point are no news.  From the operations this
goes to steps (`Tree.Step.replays`) and from there to everything that happens on a host
(`Mount.Host.run_replays`).
-/

set_option autoImplicit false

namespace RemovableMedia

open RemovableMedia.Device (Record)

namespace Mirror

variable {tree : Tree}

/-! ## Actions -/

/-- A device that is brought in is told of as it then is in the tree. -/
theorem observeAll_insert (h : tree.UniquePaths) (record : Record) :
    (ofTree tree).observeAll (tree.insert record).2 = ofTree (tree.insert record).1 := by
  cases hadmits : tree.admits record with
  | false => rw [Tree.insert_of_not_admits hadmits, observeAll_nil]
  | true =>
    funext path
    rw [Tree.insert_events hadmits, observeAll_cons, observeAll_nil, observe_apply, ofTree_apply,
      ofTree_apply,
      (h.insert record).get?_of_perm_cons (Tree.nodes_insert_perm h hadmits) path]
    show (if path = record.path then _ else _) = Option.map _ (if path = record.path then _ else _)
    split <;> rfl

/-- Devices that are taken away are told to be gone, and no others. -/
theorem observeAll_remove (h : tree.UniquePaths) (path : String) :
    (ofTree tree).observeAll (tree.remove path).2 = ofTree (tree.remove path).1 := by
  funext other
  rw [Tree.remove_events, observeAll_removed, ofTree_apply, ofTree_apply, Tree.get?_remove h]
  split <;> rfl

/-- A device that is changed where it is and told of once is known as it then is. -/
theorem observe_update {path : String} {f : Node → Node} {event : Notification}
    (hf : ∀ node, node.path = path → (f node).path = path) (hpath : event.path = path)
    (hentry : event.entry ((tree.get? path).map Node.description) =
      ((tree.get? path).map f).map Node.description) :
    (ofTree tree).observe event = ofTree (tree.update path f) := by
  funext other
  rw [observe_apply, ofTree_apply, ofTree_apply, Tree.get?_update hf, hpath]
  split
  · rename_i hother
    rw [hother, hentry]
  · rfl

/-- A change is told with what is then known of the device, its mount included. -/
theorem observeAll_change (tree : Tree) (record : Record) :
    (ofTree tree).observeAll (tree.change record).2 = ofTree (tree.change record).1 := by
  obtain ⟨node, hget, -, -, hchange⟩ | ⟨-, hchange⟩ := Tree.change_cases tree record
  · rw [hchange, observeAll_cons, observeAll_nil]
    refine observe_update (fun _ _ => rfl) rfl ?_
    rw [hget]
    rfl
  · rw [hchange, observeAll_nil]

/-- Every action tells just what it does. -/
theorem observeAll_apply (h : tree.UniquePaths) (record : Record) (action : Device.Action) :
    (ofTree tree).observeAll (tree.apply record action).2 =
      ofTree (tree.apply record action).1 := by
  obtain hinsert | hremoval | rfl := Tree.effect_cases action
  · rw [Tree.apply_of_isInsert hinsert]
    exact observeAll_insert h record
  · rw [Tree.apply_of_isRemoval hremoval]
    exact observeAll_remove h record.path
  · exact observeAll_change tree record

/-! ## Mounts -/

/-- Mounting a device that was unmounted tells what it does. -/
theorem observe_setMount {path : String} {node : Node} (info : Mount.Info)
    (hget : tree.get? path = some node) (hmount : node.mount = none) :
    (ofTree tree).observe (.mounted path info) = ofTree (tree.setMount path info).1 := by
  rw [Tree.setMount_of_unmounted hget hmount]
  refine observe_update (fun _ hpath => hpath) rfl ?_
  rw [hget]
  rfl

/-- Unmounting a device that was mounted tells what it does. -/
theorem observe_clearMount {path : String} {node : Node} {info : Mount.Info}
    (hget : tree.get? path = some node) (hmount : node.mount = some info) :
    (ofTree tree).observe (.unmounted path info.point) = ofTree (tree.clearMount path).1 := by
  rw [Tree.clearMount_of_mounted hget hmount]
  refine observe_update (fun _ hpath => hpath) rfl ?_
  rw [hget]
  rfl

/-- All that a table has to tell of a device is about the path of the device. -/
theorem path_of_mem_news {table : Mount.Table} {node : Node} {event : Notification}
    (h : event ∈ node.news table) : event.path = node.path := by
  obtain ⟨hnews, -⟩ | ⟨live, hnews, -, -⟩ | ⟨believed, hnews, -, -⟩ |
      ⟨believed, live, hnews, -, -⟩ := Tree.news_cases table node
  · rw [hnews] at h
    cases h
  · rw [hnews, List.mem_singleton] at h
    rw [h]
    rfl
  · rw [hnews, List.mem_singleton] at h
    rw [h]
    rfl
  · rw [hnews, List.mem_pair] at h
    rcases h with rfl | rfl <;> rfl

/-- Who knows a node and is told the news of it knows it as it then is, apart from mount
options. -/
theorem observeAll_news {mirror : Mirror} {node : Node} (table : Mount.Table)
    (hknown : mirror node.path = some node.description) :
    (mirror.observeAll (node.news table) node.path).map Description.forgetOptions =
      some (node.reconciled table).description.forgetOptions := by
  have hafter : (node.reconciled table).description =
      .ofRecord node.record (table.lookup node.path) := rfl
  rw [hafter]
  obtain ⟨hnews, hpoint⟩ | ⟨live, hnews, -, hlive⟩ | ⟨believed, hnews, -, hlive⟩ |
      ⟨believed, live, hnews, -, hlive⟩ := Tree.news_cases table node
  · rw [hnews, observeAll_nil, hknown]
    exact congrArg some (forgetOptions_ofRecord hpoint)
  · rw [hnews, hlive, observeAll_cons, observeAll_nil, observe_mounted _ hknown]
    rfl
  · rw [hnews, hlive, observeAll_cons, observeAll_nil, observe_unmounted _ hknown]
    rfl
  · rw [hnews, hlive, observeAll_cons, observeAll_cons, observeAll_nil,
      observe_mounted _ (observe_unmounted _ hknown _)]
    rfl

/-- Taking over the live mounts tells what it does, apart from mount options. -/
theorem observeAll_reconcile (h : tree.UniquePaths) (table : Mount.Table) :
    ((ofTree tree).observeAll (tree.reconcile table).2).forgetOptions =
      (ofTree (tree.reconcile table).1).forgetOptions := by
  funext path
  have hkeeps : ∀ node : Node, (node.reconciled table).path = node.path := fun _ => rfl
  have hafter : (tree.reconcile table).1.get? path =
      (tree.get? path).map (Node.reconciled table) := by
    rw [Tree.reconcile_eq]
    exact Tree.get?_map hkeeps tree path
  unfold forgetOptions
  rw [ofTree_apply, hafter]
  cases hget : tree.get? path with
  | none =>
    rw [observeAll_of_path_ne, ofTree_apply, hget]
    · rfl
    · intro event hevent hsame
      rw [Tree.reconcile_eq] at hevent
      obtain ⟨node, hnode, hin⟩ := List.mem_flatMap.1 hevent
      exact Tree.get?_eq_none_iff.1 hget node hnode ((path_of_mem_news hin).symm.trans hsame)
  | some node =>
    have hpath := Tree.path_of_get? hget
    subst hpath
    rw [Tree.reconcile_eq]
    dsimp only
    rw [observeAll_flatMap _ (fun _ _ => path_of_mem_news) h (Tree.mem_of_get? hget),
      observeAll_news table (ofTree_of_get? hget)]
    rfl

end Mirror

/-! ## Steps and runs -/

/-- Whoever knew the tree before a step, apart from mount options, and observes what is told of it
knows the tree after it. -/
theorem Tree.Step.replays {allowed : Record → Prop} {tree next : Tree}
    {events : List Notification} (hstep : tree.Step allowed events next) (h : tree.UniquePaths)
    {mirror : Mirror} (hmirror : mirror.forgetOptions = (Mirror.ofTree tree).forgetOptions) :
    (mirror.observeAll events).forgetOptions = (Mirror.ofTree next).forgetOptions := by
  rw [Mirror.observeAll_agree hmirror]
  cases hstep with
  | silent => rfl
  | apply action hrecord => rw [Mirror.observeAll_apply h]
  | mounted info hget hmount =>
    rw [Mirror.observeAll_cons, Mirror.observeAll_nil, Mirror.observe_setMount info hget hmount]
  | unmounted hget hmount =>
    rw [Mirror.observeAll_cons, Mirror.observeAll_nil, Mirror.observe_clearMount hget hmount]
  | reconcile table => exact Mirror.observeAll_reconcile h table

namespace Mount.Host

open RemovableMedia.Mirror (ofTree)

variable {σ : Type}

/-- Whoever knew the tree of a host, apart from mount options, and observes what is told of the
operations on it knows the tree after them, in which no path is taken twice. -/
theorem run_replays (orchestrator : Orchestrator σ) (config : Config) {host : Host σ}
    (h : host.tree.UniquePaths) (operations : List (Operation σ)) {mirror : Mirror}
    (hmirror : mirror.forgetOptions = (ofTree host.tree).forgetOptions) :
    (host.run orchestrator config operations).2.tree.UniquePaths ∧
      (mirror.observeAll (host.run orchestrator config operations).1).forgetOptions =
        (ofTree (host.run orchestrator config operations).2.tree).forgetOptions := by
  -- Along the operations the paths stay unique and the mirror stays that of the tree.
  induction operations generalizing host mirror with
  | nil => exact ⟨h, hmirror⟩
  | cons operation rest ih =>
    have hany : operation.Brings fun _ => True := by
      cases operation <;> trivial
    have hstep := host.perform_step orchestrator config hany
    simp only [run, Mirror.observeAll_append]
    exact ih (hstep.uniquePaths h) (hstep.replays h hmirror)

/-- A client that lists the devices of a tree that the operations make and then follows the
notifications of whatever happens on the host always knows just the devices that are there, each
once and with its parent, its content and its mount point. -/
theorem run_notifications_replay (orchestrator : Orchestrator σ) (config : Config)
    (host : Host σ) (h : host.tree.Reachable) (operations : List (Operation σ)) :
    (host.run orchestrator config operations).2.tree.UniquePaths ∧
      ((ofTree host.tree).observeAll
          (host.run orchestrator config operations).1).forgetOptions =
        (ofTree (host.run orchestrator config operations).2.tree).forgetOptions :=
  run_replays orchestrator config h.wellFormed.paths operations rfl

/-- A client that lists a stick and then sees its partition come, move and go. -/
theorem run_notifications_replay_of_stick :
    let host : Host Rehearsal := ⟨(Tree.empty.apply .usbStick .add).1, .empty, .start true⟩
    let operations := Rehearsal.partitionMoves
    host.tree.Reachable ∧
      (host.run Rehearsal.orchestrator .standard operations).2.tree.UniquePaths ∧
      ((ofTree host.tree).observeAll
          (host.run Rehearsal.orchestrator .standard operations).1).forgetOptions =
        (ofTree (host.run Rehearsal.orchestrator .standard operations).2.tree).forgetOptions := by
  intro host operations
  have hhost : host.tree.Reachable := Tree.Reachable.empty.apply .add Record.usbStick_built
  exact ⟨hhost, run_notifications_replay Rehearsal.orchestrator .standard host hhost operations⟩

end Mount.Host

end RemovableMedia
