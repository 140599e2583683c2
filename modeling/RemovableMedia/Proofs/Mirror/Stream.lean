import RemovableMedia.Proofs.Mirror.Replay

/-!
# The stream of notifications

Whoever sees nothing but the notifications never meets one that does not fit what it was told
before: nothing is added twice, a disk goes after its partitions, and a device that has moved is
unmounted before it is mounted again (`Expects`, `Mount.Host.run_notifications_expected`).  Each
operation keeps to this because the picture of the tree is exact at every notification of it, and
not only at its end.
-/

set_option autoImplicit false

namespace RemovableMedia

open RemovableMedia.Device (Record)

/-- Where a device is described to be mounted. -/
def Description.point? (device : Description) : Option String :=
  device.mount.map Mount.Info.point

namespace Mirror

/-- What has to be known when a notification comes. -/
def Expects (mirror : Mirror) : Notification → Prop
  | .added device =>
    mirror device.path = none ∧ device.mount = none ∧
      (device.kind = .partition →
        ∃ disk, mirror device.parentPath = some disk ∧ disk.kind = .stateless ∧
          disk.isRoot = true)
  | .removed path =>
    (∃ known, mirror path = some known) ∧
      ∀ other known, mirror other = some known → known.parentPath ≠ path
  | .changed device =>
    ∃ known, mirror device.path = some known ∧ known.parentPath = device.parentPath ∧
      known.kind = device.kind ∧ known.point? = device.point?
  | .mounted path _ => ∃ known, mirror path = some known ∧ known.point? = none
  | .unmounted path point => ∃ known, mirror path = some known ∧ known.point? = some point

/-- Whether each of some notifications comes when it is expected, given those before it. -/
def Follows (mirror : Mirror) (events : List Notification) : Prop :=
  ∀ before event after, events = before ++ event :: after →
    (mirror.observeAll before).Expects event

/-! ## Mount options -/

/-- Without options just as little is known of a path. -/
theorem forgetOptions_eq_none {mirror : Mirror} {path : String} :
    mirror.forgetOptions path = none ↔ mirror path = none :=
  Option.map_eq_none_iff

/-- Without options a device is known just if it was known, with whatever options. -/
theorem forgetOptions_eq_some {mirror : Mirror} {path : String} {known : Description} :
    mirror.forgetOptions path = some known ↔
      ∃ device, mirror path = some device ∧ device.forgetOptions = known :=
  Option.map_eq_some_iff

/-- Without options the place of a mount is still known. -/
theorem point?_forgetOptions (device : Description) :
    device.forgetOptions.point? = device.point? := by
  unfold Description.point? Description.forgetOptions
  cases device.mount <;> rfl

/-- Mount options do not bear on what is expected. -/
theorem expects_forgetOptions (mirror : Mirror) (event : Notification) :
    mirror.forgetOptions.Expects event ↔ mirror.Expects event := by
  have hparent : ∀ device : Description, device.forgetOptions.parentPath = device.parentPath :=
    fun _ => rfl
  have hkind : ∀ device : Description, device.forgetOptions.kind = device.kind := fun _ => rfl
  have hroot : ∀ device : Description, device.forgetOptions.isRoot = device.isRoot := fun _ => rfl
  cases event <;>
    simp [Expects, forgetOptions_eq_none, forgetOptions_eq_some, point?_forgetOptions, hparent,
      hkind, hroot]

/-- Who knows the same apart from mount options expects the same notifications. -/
theorem Follows.of_agree {first second : Mirror} {events : List Notification}
    (h : first.Follows events) (hagree : second.forgetOptions = first.forgetOptions) :
    second.Follows events := by
  intro before event after hsplit
  rw [← expects_forgetOptions, observeAll_agree hagree, expects_forgetOptions]
  exact h before event after hsplit

/-! ## Putting notifications together -/

variable {mirror : Mirror}

/-- No events are expected by everybody. -/
theorem Follows.nil : mirror.Follows [] := by
  intro before event after hsplit
  exact absurd hsplit (by simp)

/-- Events are expected if the first one is and then the others. -/
theorem Follows.cons {event : Notification} {rest : List Notification}
    (h : mirror.Expects event) (hrest : (mirror.observe event).Follows rest) :
    mirror.Follows (event :: rest) := by
  intro before other after hsplit
  cases before with
  | nil =>
    obtain ⟨rfl, -⟩ := List.cons.inj hsplit
    exact h
  | cons first before =>
    obtain ⟨rfl, htail⟩ := List.cons.inj hsplit
    exact hrest before other after htail

/-- Events are expected if some first ones are and then the others. -/
theorem Follows.append {first later : List Notification} (h : mirror.Follows first)
    (hlater : (mirror.observeAll first).Follows later) : mirror.Follows (first ++ later) := by
  intro before event after hsplit
  rcases List.append_eq_append_iff.1 hsplit with ⟨gap, rfl, hgap⟩ | ⟨gap, hgap, hrest⟩
  · rw [observeAll_append]
    exact hlater gap event after hgap
  · cases gap with
    | nil =>
      rw [List.append_nil] at hgap
      rw [← hgap]
      exact hlater [] event after hrest.symm
    | cons next gap =>
      obtain ⟨rfl, -⟩ := List.cons.inj hrest
      exact h before event gap hgap

/-! ## What operations tell is expected -/

variable {tree : Tree}

/-- A device is brought in where none is, and a partition when its disk is there. -/
theorem follows_insert (h : tree.WellFormed) {record : Record} (hrecord : record.Built) :
    (ofTree tree).Follows (tree.insert record).2 := by
  cases hadmits : tree.admits record with
  | false =>
    rw [Tree.insert_of_not_admits hadmits]
    exact .nil
  | true =>
    rw [Tree.insert_events hadmits]
    refine .cons ⟨?_, rfl, fun hkind => ?_⟩ .nil
    · rw [ofTree_apply]
      exact Option.map_eq_none_iff.2 (Tree.get?_of_admits hadmits)
    · have hroot : record.isRoot = false :=
        Bool.eq_false_iff.2 fun hroot => hrecord.isRoot_iff.1 hroot hkind
      obtain ⟨branch, hbranch, hholds⟩ :=
        List.any_eq_true.1 (Tree.insert_of_not_isRoot hadmits hroot).1
      obtain ⟨hpath, hdisk⟩ := Tree.holds_iff.1 hholds
      have hget : tree.get? record.parentPath = some branch.root :=
        h.paths.get?_eq_some_iff.2 ⟨Tree.root_mem_nodes hbranch, hpath⟩
      refine ⟨branch.root.description, ofTree_of_get? hget, hdisk, beq_iff_eq.2 ?_⟩
      exact Record.parentPath_eq_root (h.branches branch hbranch).root_kind

/-- Devices that go are there, and none goes before its partitions. -/
theorem follows_remove (h : tree.WellFormed) (path : String) :
    (ofTree tree).Follows (tree.remove path).2 := by
  intro before event after hsplit
  rw [Tree.remove_events] at hsplit
  obtain ⟨gone, rest, hgone, rfl, hrest⟩ := List.map_eq_append_iff.1 hsplit
  obtain ⟨node, others, rfl, rfl, -⟩ := List.map_eq_cons_iff.1 hrest
  have hnode : node ∈ tree.nodes :=
    Tree.mem_of_mem_departing (hgone ▸ List.mem_append_right _ List.mem_cons_self)
  have hstays : node.path ∉ gone.map Node.path := by
    have hnodup := h.paths.departing path
    rw [hgone, List.map_append, List.map_cons, List.nodup_middle, List.nodup_cons] at hnodup
    exact fun hmem => hnodup.1 (List.mem_append_left _ hmem)
  refine ⟨⟨node.description, ?_⟩, fun other known hknown hparent => ?_⟩
  · rw [observeAll_removed, if_neg hstays]
    exact ofTree_of_get? (h.paths.get?_path hnode)
  · rw [observeAll_removed] at hknown
    split at hknown
    · cases hknown
    · rename_i hother
      obtain ⟨child, hget, rfl⟩ := get?_of_ofTree hknown
      have hchild := h.departing_leaf_first hgone (Tree.mem_of_get? hget) hparent
      exact hother (Tree.path_of_get? hget ▸ List.mem_map_of_mem hchild)

/-- A device that is changed is there, and stays in its place and mounted as it was. -/
theorem follows_change (tree : Tree) (record : Record) :
    (ofTree tree).Follows (tree.change record).2 := by
  obtain ⟨node, hget, hplace, -, hchange⟩ | ⟨-, hchange⟩ := Tree.change_cases tree record
  · rw [hchange]
    exact .cons ⟨_, ofTree_of_get? hget, hplace.parentPath, hplace.kind, rfl⟩ .nil
  · rw [hchange]
    exact .nil

/-- What the table has to tell of a node is expected by whoever knows the node. -/
theorem follows_news {node : Node} (table : Mount.Table)
    (hknown : mirror node.path = some node.description) : mirror.Follows (node.news table) := by
  obtain ⟨hnews, -⟩ | ⟨live, hnews, hmount, -⟩ | ⟨believed, hnews, hmount, -⟩ |
      ⟨believed, live, hnews, hmount, -⟩ := Tree.news_cases table node
  · rw [hnews]
    exact .nil
  · rw [hnews]
    exact .cons ⟨_, hknown, congrArg (Option.map _) hmount⟩ .nil
  · rw [hnews]
    exact .cons ⟨_, hknown, congrArg (Option.map _) hmount⟩ .nil
  · rw [hnews]
    refine .cons ⟨_, hknown, congrArg (Option.map _) hmount⟩ (.cons ?_ .nil)
    exact ⟨_, observe_unmounted _ hknown _, rfl⟩

/-- What the table has to tell of nodes is expected by whoever knows them all. -/
theorem follows_flatMap_news (table : Mount.Table) {nodes : List Node}
    (hnodup : (nodes.map Node.path).Nodup)
    (hknown : ∀ node ∈ nodes, mirror node.path = some node.description) :
    mirror.Follows (nodes.flatMap (Node.news table)) := by
  induction nodes generalizing mirror with
  | nil => exact .nil
  | cons node rest ih =>
    rw [List.map_cons, List.nodup_cons] at hnodup
    rw [List.flatMap_cons]
    refine .append (follows_news table (hknown node List.mem_cons_self)) (ih hnodup.2 ?_)
    intro other hother
    rw [observeAll_of_path_ne, hknown other (List.mem_cons_of_mem _ hother)]
    intro event hevent hsame
    rw [path_of_mem_news hevent] at hsame
    exact hnodup.1 (hsame ▸ List.mem_map_of_mem hother)

end Mirror

/-! ## Steps and runs -/

/-- Whatever is told of a step is expected by whoever knew the tree before. -/
theorem Tree.Step.follows {tree next : Tree} {events : List Notification}
    (hstep : tree.Step Record.Built events next) (h : tree.WellFormed) :
    (Mirror.ofTree tree).Follows events := by
  cases hstep with
  | silent => exact .nil
  | @apply record action hrecord =>
    obtain hinsert | hremoval | rfl := Tree.effect_cases action
    · exact Tree.apply_of_isInsert hinsert tree record ▸ Mirror.follows_insert h hrecord
    · exact Tree.apply_of_isRemoval hremoval tree record ▸ Mirror.follows_remove h record.path
    · exact Mirror.follows_change tree record
  | mounted info hget hmount =>
    exact .cons ⟨_, Mirror.ofTree_of_get? hget, congrArg (Option.map _) hmount⟩ .nil
  | unmounted hget hmount =>
    exact .cons ⟨_, Mirror.ofTree_of_get? hget, congrArg (Option.map _) hmount⟩ .nil
  | reconcile table =>
    rw [Tree.reconcile_eq]
    refine Mirror.follows_flatMap_news table h.paths fun node hnode => ?_
    exact Mirror.ofTree_of_get? (h.paths.get?_path hnode)

namespace Mount.Host

open RemovableMedia.Mirror (ofTree)

variable {σ : Type}

/-- Whatever is told of the operations on a host is expected by whoever knew its tree before. -/
theorem run_follows (orchestrator : Orchestrator σ) (config : Config) {host : Host σ}
    (h : host.tree.WellFormed) {operations : List (Operation σ)}
    (hoperations : ∀ operation ∈ operations, operation.Brings Record.Built) {mirror : Mirror}
    (hmirror : mirror.forgetOptions = (ofTree host.tree).forgetOptions) :
    mirror.Follows (host.run orchestrator config operations).1 := by
  -- What the next operation tells is expected because the mirror is still that of the tree, which
  -- is what replaying says.
  induction operations generalizing host mirror with
  | nil => exact .nil
  | cons operation rest ih =>
    have hstep :=
      host.perform_step orchestrator config (hoperations operation List.mem_cons_self)
    simp only [run]
    refine .append ((hstep.follows h).of_agree hmirror) (ih (hstep.wellFormed h) ?_ ?_)
    · exact fun operation hmem => hoperations operation (List.mem_cons_of_mem _ hmem)
    · exact hstep.replays h.paths hmirror

/-- Whoever sees nothing but the notifications of a host that starts without devices never meets one
that is not expected, whatever happens on the host. -/
theorem run_notifications_expected (orchestrator : Orchestrator σ) (config : Config)
    (files : FileTree) (mounts : σ) (operations : List (Operation σ))
    (hoperations : ∀ operation ∈ operations, operation.Brings Record.Built)
    {before : List Notification} {event : Notification} {after : List Notification}
    (hsplit : (Host.run orchestrator config ⟨.empty, files, mounts⟩ operations).1 =
      before ++ event :: after) :
    (Mirror.empty.observeAll before).Expects event :=
  run_follows orchestrator config .empty hoperations rfl before event after hsplit

/-- When the partition of a stick is found at another place, it is known where it is unmounted. -/
theorem run_notifications_expected_of_stick :
    let operations := .apply .usbStick .add :: Rehearsal.partitionMoves
    let before := [.added (.ofRecord .usbStick none), .added (.ofRecord .usbPartition none),
      .mounted "/dev/sdb1" ⟨"/media/sdb1", "rw,nosuid,nodev,flush"⟩]
    let event := .unmounted "/dev/sdb1" "/media/sdb1"
    let after := [.mounted "/dev/sdb1" ⟨"/mnt", "rw"⟩, .removed "/dev/sdb1", .removed "/dev/sdb"]
    (∀ operation ∈ operations, operation.Brings Record.Built) ∧
      (Host.run Rehearsal.orchestrator .standard ⟨.empty, .empty, .start true⟩ operations).1 =
        before ++ event :: after ∧
      (Mirror.empty.observeAll before).Expects event := by
  intro operations before event after
  have hoperations : ∀ operation ∈ operations, operation.Brings Record.Built := by
    simp [operations, Rehearsal.partitionMoves, Operation.Brings, Record.usbStick_built,
      Record.usbPartition_built]
  have hsplit : (Host.run Rehearsal.orchestrator .standard ⟨.empty, .empty, .start true⟩
      operations).1 = before ++ event :: after := by
    decide +kernel
  exact ⟨hoperations, hsplit, run_notifications_expected _ _ _ _ operations hoperations hsplit⟩

end Mount.Host

end RemovableMedia
