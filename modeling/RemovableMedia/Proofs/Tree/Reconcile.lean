import RemovableMedia.Proofs.Tree.Invariant

/-!
# Agreement with the live mounts

A tree is reconciled with a live mount table if every device is believed mounted as the first row
for its path states.  Taking the table over makes it so, and is without effect exactly if it was so
before (`reconciled_reconcile`, `reconcile_eq_self_iff`).  A mount or an unmount that is noted in
both leaves them in agreement (`Reconciled.setMount`, `Reconciled.clearMount`).

The table is taken over for every device, also for one that cannot be mounted.  Hence mounts stay
with mountable devices, and are seen in listings, exactly as long as the table names no other device
of the tree (`only_mountable_mounted_iff`).
-/

set_option autoImplicit false

namespace RemovableMedia

open RemovableMedia.Device (Record)

/-! ## Looking up in the table -/

namespace Mount.Table

/-- An entry that is added counts where nothing was found before. -/
theorem lookup_append_singleton (table : Table) (entry : Entry) (device : String) :
    Table.lookup (table ++ [entry]) device =
      (table.lookup device).or (if entry.device = device then some entry.info else none) := by
  unfold lookup
  rw [List.find?_append]
  cases table.find? fun row => row.device == device with
  | some row => rfl
  | none =>
    by_cases hdevice : entry.device = device
    · simp [hdevice]
    · simp [hdevice]

/-- Without the entries of a device, nothing is found for it, and the same for all others. -/
theorem lookup_filter (table : Table) (path device : String) :
    Table.lookup (table.filter fun entry => entry.device ≠ path) device =
      if device = path then none else table.lookup device := by
  unfold lookup
  rw [List.find?_filter]
  by_cases hdevice : device = path
  · rw [if_pos hdevice, Option.map_eq_none_iff, List.find?_eq_none]
    rintro entry - hentry
    simp only [decide_eq_true_eq, beq_iff_eq] at hentry
    exact hentry.1 (hentry.2.trans hdevice)
  · rw [if_neg hdevice]
    congr 2
    funext entry
    by_cases hentry : entry.device = device
    · simp [hentry, hdevice]
    · simp [hentry]

/-- Nothing is found just if no entry is there for the device. -/
theorem lookup_eq_none_iff {table : Table} {device : String} :
    table.lookup device = none ↔ ∀ entry ∈ table, entry.device ≠ device := by
  simp [lookup]

end Mount.Table

namespace Tree

variable {tree : Tree} {table : Mount.Table}

/-! ## Agreement -/

/-- Every device is believed mounted as the table states. -/
def Reconciled (tree : Tree) (table : Mount.Table) : Prop :=
  ∀ node ∈ tree.nodes, node.mount = table.lookup node.path

/-- Reconciliation takes over, device by device, what the table states. -/
theorem nodes_reconcile (tree : Tree) (table : Mount.Table) :
    (tree.reconcile table).1.nodes = tree.nodes.map (Node.reconciled table) := by
  rw [reconcile_eq]
  exact nodes_map _ _

/-- Nothing is told of a device whose mount is as it was believed. -/
theorem drift_self (path : String) (mount : Option Mount.Info) : Node.drift path mount mount = [] := by
  cases mount with
  | none => rfl
  | some info => simp [Node.drift]

/-- After the table is taken over, the tree agrees with it. -/
theorem reconciled_reconcile (tree : Tree) (table : Mount.Table) :
    (tree.reconcile table).1.Reconciled table := by
  intro node hnode
  rw [nodes_reconcile] at hnode
  obtain ⟨before, -, rfl⟩ := List.mem_map.1 hnode
  rfl

/-- Taking the table over changes nothing and tells nothing exactly if the tree agrees with it. -/
theorem reconcile_eq_self_iff : tree.reconcile table = (tree, []) ↔ tree.Reconciled table := by
  constructor
  · intro hself
    have hreconciled := reconciled_reconcile tree table
    rwa [hself] at hreconciled
  · intro h
    have htree : tree.map (Node.reconciled table) = tree.map id := by
      refine map_congr fun node hnode => ?_
      rw [Node.reconciled, ← h node hnode]
      rfl
    have hnews : tree.nodes.flatMap (Node.news table) = [] := by
      refine List.flatMap_eq_nil_iff.2 fun node hnode => ?_
      rw [Node.news, ← h node hnode, drift_self]
    have hid : tree.map id = tree := by simp [map]
    rw [reconcile_eq, htree, hnews, hid]

/-- A device that is mounted last comes to be believed mounted as the table states. -/
theorem Reconciled.setMount (h : tree.Reconciled table) {path : String} {node : Node}
    (hget : tree.get? path = some node) (hmount : node.mount = none) (info : Mount.Info) :
    (tree.setMount path info).1.Reconciled (table ++ [⟨path, info⟩]) := by
  -- the new row comes last, so it counts only because the device has no row yet
  have hfree : table.lookup path = none := by
    rw [← path_of_get? hget, ← h node (mem_of_get? hget), hmount]
  rw [setMount_of_unmounted hget hmount]
  intro other hother
  rw [update, nodes_map] at hother
  obtain ⟨before, hbefore, rfl⟩ := List.mem_map.1 hother
  by_cases hpath : before.path = path
  · rw [if_pos hpath]
    change some info = Mount.Table.lookup _ before.path
    rw [Mount.Table.lookup_append_singleton, hpath, hfree, if_pos rfl, Option.none_or]
  · rw [if_neg hpath, Mount.Table.lookup_append_singleton, if_neg (Ne.symm hpath), Option.or_none]
    exact h before hbefore

/-- A device of which all mounts are gone comes to be believed unmounted. -/
theorem Reconciled.clearMount (h : tree.Reconciled table) {path : String} {node : Node}
    {info : Mount.Info} (hget : tree.get? path = some node) (hmount : node.mount = some info) :
    (tree.clearMount path).1.Reconciled (table.filter fun entry => entry.device ≠ path) := by
  rw [clearMount_of_mounted hget hmount]
  intro other hother
  rw [update, nodes_map] at hother
  obtain ⟨before, hbefore, rfl⟩ := List.mem_map.1 hother
  rw [Mount.Table.lookup_filter]
  by_cases hpath : before.path = path
  · rw [if_pos hpath]
    exact (if_pos hpath).symm
  · rw [if_neg hpath, if_neg hpath]
    exact h before hbefore

end Tree

/-! ## Devices that cannot be mounted -/

/-- A device is mounted, but its line in a listing is that of an unmounted device. -/
def Node.HidesMount (node : Node) : Prop :=
  node.mount ≠ none ∧ node.description.args = ({ node with mount := none } : Node).description.args

/-- The lines of whole disks have no place for a mount, and all others tell it. -/
theorem Node.hidesMount_iff {node : Node} :
    node.HidesMount ↔ node.mount ≠ none ∧ node.record.kind = .stateless := by
  refine and_congr_right fun hmount => ?_
  obtain ⟨info, hinfo⟩ := Option.ne_none_iff_exists'.1 hmount
  simp only [Node.description, Description.args, Description.ofRecord, Description.contentArgs]
  cases node.record.kind <;> simp [hinfo]

/-- A device that can be mounted is no disk with partitions. -/
theorem Device.Record.kind_ne_stateless {record : Record} (h : record.isMountable = true) :
    record.kind ≠ .stateless := by
  obtain ⟨path, media, tag⟩ := record
  cases media with
  | stateless subtype => cases h
  | stateful | partition => simp [Record.kind, Device.Media.kind]

namespace Tree

variable {tree : Tree} {table : Mount.Table}

/-- A mount that is told of at reconciliation is one that the table states for a device of the tree.
-/
theorem lookup_of_mounted_mem {path : String} {info : Mount.Info}
    (h : .mounted path info ∈ (tree.reconcile table).2) :
    ∃ node ∈ tree.nodes, node.path = path ∧ table.lookup path = some info := by
  rw [reconcile_eq] at h
  obtain ⟨node, hnode, hnews⟩ := List.mem_flatMap.1 h
  obtain ⟨hquiet, -⟩ | ⟨live, hmounted, -, hlive⟩ | ⟨believed, hunmounted, -⟩ |
    ⟨believed, live, hmoved, -, hlive⟩ := news_cases table node
  · simp [hquiet] at hnews
  · rw [hmounted, List.mem_singleton] at hnews
    cases hnews
    exact ⟨node, hnode, rfl, hlive⟩
  · simp [hunmounted] at hnews
  · rw [hmoved] at hnews
    have hsame : Notification.mounted path info = .mounted node.path live := by
      simpa using hnews
    cases hsame
    exact ⟨node, hnode, rfl, hlive⟩

/-- After the table is taken over only mountable devices are mounted, only such devices are told to
be mounted, and no line of a listing hides a mount, exactly if the table names no device of the tree
that cannot be mounted. -/
theorem only_mountable_mounted_iff (tree : Tree) (table : Mount.Table) :
    ((∀ node ∈ (tree.reconcile table).1.nodes,
        node.mount ≠ none → node.record.isMountable = true) ∧
      (∀ path info, .mounted path info ∈ (tree.reconcile table).2 →
        ∃ node ∈ (tree.reconcile table).1.nodes,
          node.path = path ∧ node.mount = some info ∧ node.record.isMountable = true) ∧
      ∀ node ∈ (tree.reconcile table).1.nodes, ¬ node.HidesMount) ↔
    ∀ node ∈ tree.nodes, ∀ entry ∈ table, entry.device = node.path →
      node.record.isMountable = true := by
  have hafter : ∀ node ∈ tree.nodes, node.reconciled table ∈ (tree.reconcile table).1.nodes := by
    intro node hnode
    rw [nodes_reconcile]
    exact List.mem_map_of_mem hnode
  constructor
  · rintro ⟨hmountable, -, -⟩ node hnode entry hentry hdevice
    have hmounted : (node.reconciled table).mount ≠ none :=
      fun hnone => Mount.Table.lookup_eq_none_iff.1 hnone entry hentry hdevice
    exact hmountable (node.reconciled table) (hafter node hnode) hmounted
  · intro hnamed
    -- a device that gets a mount is named by the table
    have hlooked : ∀ node ∈ tree.nodes, table.lookup node.path ≠ none →
        node.record.isMountable = true := by
      intro node hnode hlookup
      rw [ne_eq, Mount.Table.lookup_eq_none_iff] at hlookup
      push Not at hlookup
      obtain ⟨entry, hentry, hdevice⟩ := hlookup
      exact hnamed node hnode entry hentry hdevice
    have hmountable : ∀ node ∈ (tree.reconcile table).1.nodes,
        node.mount ≠ none → node.record.isMountable = true := by
      intro node hnode hmount
      rw [nodes_reconcile] at hnode
      obtain ⟨before, hbefore, rfl⟩ := List.mem_map.1 hnode
      exact hlooked before hbefore hmount
    refine ⟨hmountable, ?_, ?_⟩
    · intro path info hevent
      obtain ⟨node, hnode, rfl, hlookup⟩ := lookup_of_mounted_mem hevent
      refine ⟨node.reconciled table, hafter node hnode, rfl, hlookup, ?_⟩
      exact hlooked node hnode (by simp [hlookup])
    · intro node hnode hhides
      obtain ⟨hmount, hkind⟩ := Node.hidesMount_iff.1 hhides
      exact Device.Record.kind_ne_stateless (hmountable node hnode hmount) hkind

/-- A stick without partitions that is mounted as a whole. -/
theorem whole_stick_mounted_unseen :
    let tree := (Tree.empty.apply .usbStick .add).1
    let info : Mount.Info := ⟨"/mnt", "rw"⟩
    let done := tree.reconcile [⟨"/dev/sdb", info⟩]
    tree.Reachable ∧ done.2 = [.mounted "/dev/sdb" info] ∧
      ∃ stick ∈ done.1.nodes, stick.path = "/dev/sdb" ∧ stick.mount = some info ∧
        stick.record.isMountable = false ∧ stick.HidesMount := by
  intro tree info done
  have htree : tree.Reachable := Reachable.empty.apply .add Record.usbStick_built
  let stick : Node := ⟨.usbStick, some info⟩
  have hhides : stick.HidesMount := Node.hidesMount_iff.2 ⟨by decide, rfl⟩
  exact ⟨htree, by decide, stick, by decide, rfl, rfl, rfl, hhides⟩

end Tree

end RemovableMedia
