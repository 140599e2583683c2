import RemovableMedia.Proofs.Tree.Operations

/-!
# The shape of the tree

Whatever is done to a tree, it keeps its shape (`WellFormed`): every path is there once, the
devices that stand on their own are no partitions, and every partition is on the disk that it
names.  `reachable_devices_nest` says this of every tree that the operations make, and
`WellFormed.mem_departing_iff` says what it means for a device that is taken away: just its
partitions go with it.
-/

set_option autoImplicit false

namespace RemovableMedia

open RemovableMedia.Device (Record)

/-! ## Branches -/

namespace Branch

/-- A device that stands on its own, with partitions that name it. -/
structure WellFormed (branch : Branch) : Prop where
  root_kind : branch.root.record.kind ≠ .partition
  child_kind : ∀ child ∈ branch.children, child.record.kind = .partition
  child_parent : ∀ child ∈ branch.children, child.record.parentPath = branch.root.path
  disk : ∀ child ∈ branch.children, branch.root.record.kind = .stateless

/-- A device on its own makes a well-formed branch if it is no partition. -/
theorem WellFormed.leaf {root : Node} (h : root.record.kind ≠ .partition) :
    (⟨root, []⟩ : Branch).WellFormed where
  root_kind := h
  child_kind := by simp
  child_parent := by simp
  disk := by simp

/-- A well-formed branch may get a partition that names its disk. -/
theorem WellFormed.grow {branch : Branch} (h : branch.WellFormed) (node : Node)
    (hkind : node.record.kind = .partition)
    (hholds : branch.holds node.record.parentPath = true) :
    ({ branch with children := branch.children ++ [node] } : Branch).WellFormed := by
  obtain ⟨hparent, hdisk⟩ := Tree.holds_iff.1 hholds
  refine ⟨h.root_kind, ?_, ?_, fun _ _ => hdisk⟩
  · intro child hchild
    rcases List.mem_append.1 hchild with hold | hnew
    · exact h.child_kind child hold
    · rw [List.mem_singleton.1 hnew, hkind]
  · intro child hchild
    rcases List.mem_append.1 hchild with hold | hnew
    · exact h.child_parent child hold
    · rw [List.mem_singleton.1 hnew, hparent]

/-- A well-formed branch may lose partitions. -/
theorem WellFormed.shrink {branch : Branch} (h : branch.WellFormed) (p : Node → Bool) :
    ({ branch with children := branch.children.filter p } : Branch).WellFormed where
  root_kind := h.root_kind
  child_kind child hchild := h.child_kind child (List.mem_filter.1 hchild).1
  child_parent child hchild := h.child_parent child (List.mem_filter.1 hchild).1
  disk child hchild := h.disk child (List.mem_filter.1 hchild).1

/-- A branch stays well-formed when its devices keep their places. -/
theorem WellFormed.map {branch : Branch} (h : branch.WellFormed) {f : Node → Node}
    (hf : ∀ node ∈ branch.nodes, node.record.SamePlace (f node).record) :
    (branch.map f).WellFormed := by
  have hroot := hf branch.root List.mem_cons_self
  refine ⟨hroot.kind ▸ h.root_kind, ?_, ?_, ?_⟩
  · rintro _ hchild
    obtain ⟨child, hmem, rfl⟩ := List.mem_map.1 hchild
    rw [← (hf child (List.mem_cons_of_mem _ hmem)).kind, h.child_kind child hmem]
  · rintro _ hchild
    obtain ⟨child, hmem, rfl⟩ := List.mem_map.1 hchild
    rw [← (hf child (List.mem_cons_of_mem _ hmem)).parentPath, h.child_parent child hmem]
    exact hroot.path
  · rintro _ hchild
    obtain ⟨child, hmem, rfl⟩ := List.mem_map.1 hchild
    exact hroot.kind ▸ h.disk child hmem

end Branch

namespace Tree

variable {tree : Tree}

/-- What holds of every tree that the operations make from records that are built. -/
structure WellFormed (tree : Tree) : Prop where
  paths : tree.UniquePaths
  built : ∀ node ∈ tree.nodes, node.record.Built
  branches : ∀ branch ∈ tree.branches, branch.WellFormed

/-- The trees that the operations make from records that are built. -/
inductive Reachable : Tree → Prop where
  | empty : Reachable .empty
  | apply {tree : Tree} {record : Record} (action : Device.Action) (hrecord : record.Built)
      (h : Reachable tree) : Reachable (tree.apply record action).1
  | setMount {tree : Tree} (path : String) (info : Mount.Info) (h : Reachable tree) :
      Reachable (tree.setMount path info).1
  | clearMount {tree : Tree} (path : String) (h : Reachable tree) :
      Reachable (tree.clearMount path).1
  | reconcile {tree : Tree} (table : Mount.Table) (h : Reachable tree) :
      Reachable (tree.reconcile table).1

/-! ## What each operation keeps -/

namespace WellFormed

/-- The empty tree is well-formed. -/
theorem empty : Tree.empty.WellFormed where
  paths := List.nodup_nil
  built := by simp [Tree.empty, Tree.nodes]
  branches := by simp [Tree.empty]

/-- A device that comes in keeps the tree well-formed. -/
theorem insert (h : tree.WellFormed) {record : Record} (hrecord : record.Built) :
    (tree.insert record).1.WellFormed := by
  cases hadmits : tree.admits record with
  | false => rwa [insert_of_not_admits hadmits]
  | true =>
    refine ⟨h.paths.insert record, ?_, ?_⟩
    · intro node hnode
      rcases List.mem_cons.1 ((nodes_insert_perm h.paths hadmits).mem_iff.1 hnode) with rfl | hold
      · exact hrecord
      · exact h.built node hold
    · by_cases hroot : record.isRoot = true
      · rw [insert_of_isRoot hadmits hroot]
        intro branch hbranch
        rcases List.mem_append.1 hbranch with hold | hnew
        · exact h.branches branch hold
        · rw [List.mem_singleton.1 hnew]
          exact .leaf (hrecord.isRoot_iff.1 hroot)
      · obtain ⟨hany, hinsert⟩ := insert_of_not_isRoot hadmits (by simpa using hroot)
        obtain ⟨disk, hdisk, hholds⟩ := List.any_eq_true.1 hany
        have hkind : record.kind = .partition := by
          by_contra hkind
          exact hroot (hrecord.isRoot_iff.2 hkind)
        -- just the branch of its disk grows, and all others are as they were
        obtain ⟨before, after, hsplit, hgraft⟩ :=
          branches_graft h.paths ⟨record, none⟩ hdisk hholds
        have hgrown := (h.branches disk hdisk).grow ⟨record, none⟩ hkind hholds
        have hold : ∀ branch ∈ before ++ disk :: after, branch.WellFormed := hsplit ▸ h.branches
        intro branch hbranch
        rw [hinsert, hgraft] at hbranch
        simp only [List.mem_append, List.mem_cons] at hbranch hold
        obtain hmem | rfl | hmem := hbranch
        · exact hold branch (.inl hmem)
        · exact hgrown
        · exact hold branch (.inr (.inr hmem))

/-- A device that goes keeps the tree well-formed. -/
theorem remove (h : tree.WellFormed) (path : String) : (tree.remove path).1.WellFormed := by
  refine ⟨h.paths.remove path, ?_, ?_⟩
  · intro node hnode
    rw [nodes_remove h.paths] at hnode
    exact h.built node (List.mem_filter.1 hnode).1
  · intro branch hbranch
    unfold Tree.remove at hbranch
    split at hbranch
    · exact h.branches branch (List.mem_filter.1 hbranch).1
    · split at hbranch
      · obtain ⟨old, hold, rfl⟩ := List.mem_map.1 hbranch
        exact (h.branches old hold).shrink _
      · exact h.branches branch hbranch

/-- The tree stays well-formed when its devices keep their places and are built. -/
theorem map (h : tree.WellFormed) {f : Node → Node}
    (hplace : ∀ node ∈ tree.nodes, node.record.SamePlace (f node).record)
    (hbuilt : ∀ node ∈ tree.nodes, (f node).record.Built) : (tree.map f).WellFormed := by
  refine ⟨h.paths.map fun node hnode => (hplace node hnode).path.symm, ?_, ?_⟩
  · rintro _ hnode
    rw [nodes_map] at hnode
    obtain ⟨node, hmem, rfl⟩ := List.mem_map.1 hnode
    exact hbuilt node hmem
  · rintro _ hbranch
    obtain ⟨branch, hmem, rfl⟩ := List.mem_map.1 hbranch
    exact (h.branches branch hmem).map fun node hnode =>
      hplace node (mem_nodes.2 ⟨branch, hmem, hnode⟩)

/-- A change keeps the tree well-formed. -/
theorem change (h : tree.WellFormed) {record : Record} (hrecord : record.Built) :
    (tree.change record).1.WellFormed := by
  obtain ⟨found, hget, hplace, -, hchange⟩ | ⟨-, hchange⟩ := change_cases tree record
  · rw [hchange]
    refine h.map ?_ ?_
    · intro node hnode
      split
      · rename_i hpath
        -- the only device at the path is the one that was found
        rw [h.paths.eq_of_get? hget hnode hpath]
        exact hplace
      · exact ⟨rfl, rfl, rfl⟩
    · intro node hnode
      split
      · exact hrecord
      · exact h.built node hnode
  · rwa [hchange]

/-- Mounts do not matter for whether a tree is well-formed. -/
theorem remounted {other : Tree} (h : tree.WellFormed) (hother : tree.Remounted other) :
    other.WellFormed := by
  obtain ⟨f, rfl, hf⟩ := hother
  refine h.map ?_ ?_
  · intro node _
    rw [hf]
    exact ⟨rfl, rfl, rfl⟩
  · intro node hnode
    rw [hf]
    exact h.built node hnode

/-- Every action keeps the tree well-formed. -/
theorem apply (h : tree.WellFormed) {record : Record} (hrecord : record.Built)
    (action : Device.Action) : (tree.apply record action).1.WellFormed := by
  obtain hinsert | hremoval | rfl := effect_cases action
  · exact apply_of_isInsert hinsert tree record ▸ h.insert hrecord
  · exact apply_of_isRemoval hremoval tree record ▸ h.remove record.path
  · exact h.change hrecord

end WellFormed

/-- Every tree that the operations make has its shape. -/
theorem Reachable.wellFormed (h : tree.Reachable) : tree.WellFormed := by
  induction h with
  | empty => exact .empty
  | apply action hrecord _ ih => exact ih.apply hrecord action
  | setMount path info _ ih => exact ih.remounted (setMount_remounted _ path info)
  | clearMount path _ ih => exact ih.remounted (clearMount_remounted _ path)
  | reconcile table _ ih => exact ih.remounted (reconcile_remounted _ table)

/-! ## Who belongs to whom -/

namespace WellFormed

/-- A device that names another than the root as its parent is a partition on that disk. -/
theorem exists_disk (h : tree.WellFormed) {node : Node} (hnode : node ∈ tree.nodes)
    (hparent : node.record.parentPath ≠ Device.rootPath) :
    ∃ branch ∈ tree.branches, node ∈ branch.children ∧
      branch.root.path = node.record.parentPath := by
  obtain ⟨branch, hbranch, hin⟩ := mem_nodes.1 hnode
  have hshape := h.branches branch hbranch
  rcases List.mem_cons.1 hin with rfl | hchild
  · exact absurd (Record.parentPath_eq_root hshape.root_kind) hparent
  · exact ⟨branch, hbranch, hchild, (hshape.child_parent node hchild).symm⟩

/-- No device names a partition as its parent. -/
theorem parentPath_ne_partition (h : tree.WellFormed) {node part : Node} (hnode : node ∈ tree.nodes)
    (hpart : part ∈ tree.nodes) (hkind : part.record.kind = .partition) :
    node.record.parentPath ≠ part.path := by
  intro hparent
  have hroot : node.record.parentPath ≠ Device.rootPath := by
    rw [hparent]
    exact (h.built part hpart).path_ne_root
  obtain ⟨branch, hbranch, -, hpath⟩ := h.exists_disk hnode hroot
  have hsame := Keyed.eq_of_key_eq h.paths (root_mem_nodes hbranch) hpart (hpath.trans hparent)
  exact (h.branches branch hbranch).root_kind (hsame ▸ hkind)

/-- With a device just its partitions go. -/
theorem mem_departing_iff (h : tree.WellFormed) {path : String} (hpath : path ≠ Device.rootPath)
    {node : Node} :
    node ∈ tree.departing path ↔
      node ∈ tree.nodes ∧ (node.path = path ∨ node.record.parentPath = path) := by
  obtain ⟨branch, hbranch, hroot, hparts⟩ | ⟨hnone, hparts⟩ := departing_cases tree path
  · rw [hparts, List.mem_append, List.mem_singleton]
    constructor
    · rintro (hchild | rfl)
      · refine ⟨child_mem_nodes hbranch hchild, .inr ?_⟩
        rw [(h.branches branch hbranch).child_parent node hchild, hroot]
      · exact ⟨root_mem_nodes hbranch, .inl hroot⟩
    · rintro ⟨hnode, hown | hparent⟩
      · right
        exact Keyed.eq_of_key_eq h.paths hnode (root_mem_nodes hbranch) (hown.trans hroot.symm)
      · left
        obtain ⟨other, hother, hchild, hdisk⟩ := h.exists_disk hnode (hparent ▸ hpath)
        have hsame : other = branch :=
          h.paths.branch_eq hother hbranch List.mem_cons_self List.mem_cons_self
            ((hdisk.trans hparent).trans hroot.symm)
        exact hsame ▸ hchild
  · rw [hparts, Option.mem_toList, h.paths.get?_eq_some_iff]
    refine ⟨fun ⟨hnode, hown⟩ => ⟨hnode, .inl hown⟩, ?_⟩
    rintro ⟨hnode, hown | hparent⟩
    · exact ⟨hnode, hown⟩
    · obtain ⟨branch, hbranch, -, hdisk⟩ := h.exists_disk hnode (hparent ▸ hpath)
      exact absurd (hdisk.trans hparent) (hnone branch hbranch)

/-- A device goes after all devices that name it as their parent. -/
theorem departing_leaf_first (h : tree.WellFormed) {path : String} {before after : List Node}
    {node child : Node} (hsplit : tree.departing path = before ++ node :: after)
    (hchild : child ∈ tree.nodes) (hparent : child.record.parentPath = node.path) :
    child ∈ before := by
  have hgoes : node ∈ tree.departing path :=
    hsplit ▸ List.mem_append_right _ List.mem_cons_self
  have hnode : node ∈ tree.nodes := mem_of_mem_departing hgoes
  have hdisk : node.record.kind ≠ .partition :=
    fun hkind => h.parentPath_ne_partition hchild hnode hkind hparent
  obtain ⟨branch, hbranch, hroot, hparts⟩ | ⟨hnone, hparts⟩ := departing_cases tree path
  · rw [hparts] at hsplit
    rcases List.eq_nil_or_concat after with rfl | ⟨others, last, rfl⟩
    · obtain ⟨hbefore, hlast⟩ := List.append_inj' hsplit rfl
      cases hlast
      have hpath : path ≠ Device.rootPath := hroot ▸ (h.built _ hnode).path_ne_root
      have hin := (h.mem_departing_iff hpath).2 ⟨hchild, .inr (hparent.trans hroot)⟩
      rw [hparts, List.mem_append, List.mem_singleton, hbefore] at hin
      refine hin.resolve_right fun hself => ?_
      rw [hself, Record.parentPath_eq_root hdisk] at hparent
      exact (h.built _ hnode).path_ne_root hparent.symm
    · -- whatever goes before another is a partition
      rw [List.concat_eq_append, ← List.cons_append, ← List.append_assoc] at hsplit
      have hchildren := (List.append_inj' hsplit rfl).1
      have hmem : node ∈ branch.children :=
        hchildren ▸ List.mem_append_right _ List.mem_cons_self
      exact absurd ((h.branches branch hbranch).child_kind node hmem) hdisk
  · rw [hparts, Option.mem_toList] at hgoes
    obtain ⟨branch, hbranch, hin⟩ := mem_nodes.1 hnode
    rcases List.mem_cons.1 hin with rfl | hmem
    · exact absurd (path_of_get? hgoes) (hnone branch hbranch)
    · exact absurd ((h.branches branch hbranch).child_kind node hmem) hdisk

end WellFormed

/-- In every tree that the operations make, no two devices have the same path, the devices that
stand on their own are no partitions, and every partition is on the disk that it names and has no
partitions itself. -/
theorem reachable_devices_nest (h : tree.Reachable) :
    (tree.nodes.map Node.path).Nodup ∧
      ∀ branch ∈ tree.branches,
        branch.root.record.kind ≠ .partition ∧
          ∀ child ∈ branch.children,
            child.record.kind = .partition ∧
              child.record.parentPath = branch.root.path ∧
                branch.root.record.kind = .stateless ∧ tree.children child.path = [] := by
  have hshape := h.wellFormed
  refine ⟨hshape.paths, fun branch hbranch => ?_⟩
  have hnest := hshape.branches branch hbranch
  refine ⟨hnest.root_kind, fun child hchild => ?_⟩
  exact ⟨hnest.child_kind child hchild, hnest.child_parent child hchild, hnest.disk child hchild,
    hshape.paths.children_child hbranch hchild⟩

/-- A stick that is plugged in, and whose partition is found mounted and then changes. -/
theorem reachable_devices_nest_of_stick :
    let plugged := ((Tree.empty.apply .usbStick .add).1.apply .usbPartition .online).1
    let tree := ((plugged.reconcile [⟨"/dev/sdb1", ⟨"/mnt", "rw"⟩⟩]).1.apply
      ({ Record.usbPartition with tag := some "1" }) .change).1
    tree.Reachable ∧ (tree.nodes.map Node.path).Nodup ∧
      ∀ branch ∈ tree.branches,
        branch.root.record.kind ≠ .partition ∧
          ∀ child ∈ branch.children,
            child.record.kind = .partition ∧
              child.record.parentPath = branch.root.path ∧
                branch.root.record.kind = .stateless ∧ tree.children child.path = [] := by
  intro plugged tree
  have hplugged : plugged.Reachable :=
    (Reachable.empty.apply .add Record.usbStick_built).apply .online Record.usbPartition_built
  have htree : tree.Reachable :=
    (hplugged.reconcile _).apply .change (Record.usbPartition_built.mark "1")
  exact ⟨htree, reachable_devices_nest htree⟩

/-- A stick and its partition are plugged in. -/
def plugged : Tree :=
  ((Tree.empty.apply .usbStick .add).1.apply .usbPartition .online).1

/-- The tree of a stick that is plugged in can be reached. -/
theorem plugged_reachable : plugged.Reachable :=
  (Reachable.empty.apply .add Record.usbStick_built).apply .online Record.usbPartition_built

end Tree

end RemovableMedia
