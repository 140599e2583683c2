import RemovableMedia.Proofs.Device.Record
import RemovableMedia.Proofs.Tree.Lookup
import RemovableMedia.Proofs.Tree.Visit

/-!
# What the operations do to the devices

For each operation of the tree, what it tells and what it does to the list of all devices and to
looking one up.  Bringing a device in adds it and nothing else (`nodes_insert_perm`), taking one
away removes just the devices that are told to be gone (`remove_events`, `nodes_remove`), and all
other operations change devices where they are.  No operation makes a path occur twice
(`UniquePaths.apply` and what follows it).
-/

set_option autoImplicit false

namespace RemovableMedia.Tree

open RemovableMedia.Device (Record)

variable {tree : Tree}

/-! ## Actions -/

/-- Every action brings a device in, takes one away or changes one. -/
theorem effect_cases (action : Device.Action) :
    action.isInsert = true ∨ action.isRemoval = true ∨ action = .change := by
  cases action <;> decide

/-- To add a device or to bring it online is to insert it. -/
theorem apply_of_isInsert {action : Device.Action} (h : action.isInsert = true) (tree : Tree)
    (record : Record) : tree.apply record action = tree.insert record := by
  cases action <;> first | rfl | cases h

/-- To remove a device or to take it offline is to remove it. -/
theorem apply_of_isRemoval {action : Device.Action} (h : action.isRemoval = true) (tree : Tree)
    (record : Record) : tree.apply record action = tree.remove record.path := by
  cases action <;> first | rfl | cases h

/-! ## Bringing a device in -/

/-- Whether a device can be brought in: its path is free, and if it is a partition, its disk is
there. -/
def admits (tree : Tree) (record : Record) : Bool :=
  !tree.contains record.path &&
    (record.isRoot || tree.branches.any (Branch.holds record.parentPath))

/-- A device that may come in has a free path. -/
theorem get?_of_admits {record : Record} (h : tree.admits record = true) :
    tree.get? record.path = none := by
  simp only [admits, Bool.and_eq_true, Bool.not_eq_true'] at h
  simpa [contains] using h.1

/-- A device that may not come in changes nothing. -/
theorem insert_of_not_admits {record : Record} (h : tree.admits record = false) :
    tree.insert record = (tree, []) := by
  unfold admits at h
  unfold insert
  by_cases hpath : tree.contains record.path = true
  · simp [hpath]
  · by_cases hroot : record.isRoot = true
    · simp [hpath, hroot] at h
    · simp only [hpath, hroot, Bool.not_false, Bool.true_and, Bool.false_or] at h
      simp [hpath, hroot, h]

/-- A device that stands on its own comes last. -/
theorem insert_of_isRoot {record : Record} (h : tree.admits record = true)
    (hroot : record.isRoot = true) :
    tree.insert record =
      (⟨tree.branches ++ [⟨⟨record, none⟩, []⟩]⟩, [.added (.ofRecord record none)]) := by
  simp only [admits, Bool.and_eq_true, Bool.not_eq_true'] at h
  simp [insert, h.1, hroot, Node.description]

/-- A partition comes last on its disk. -/
theorem insert_of_not_isRoot {record : Record} (h : tree.admits record = true)
    (hroot : record.isRoot = false) :
    tree.branches.any (Branch.holds record.parentPath) = true ∧
      tree.insert record = (tree.graft ⟨record, none⟩, [.added (.ofRecord record none)]) := by
  simp only [admits, hroot, Bool.and_eq_true, Bool.not_eq_true', Bool.false_or] at h
  refine ⟨h.2, ?_⟩
  simp [insert, h.1, h.2, hroot, Node.description]

/-- A device that comes in is told of, without a mount. -/
theorem insert_events {record : Record} (h : tree.admits record = true) :
    (tree.insert record).2 = [.added (.ofRecord record none)] := by
  by_cases hroot : record.isRoot = true
  · rw [insert_of_isRoot h hroot]
  · rw [(insert_of_not_isRoot h (by simpa using hroot)).2]

/-- A branch holds the partitions of a path just if its disk is there. -/
theorem holds_iff {parent : String} {branch : Branch} :
    branch.holds parent = true ↔
      branch.root.path = parent ∧ branch.root.record.kind = .stateless := by
  simp [Branch.holds]

/-- A partition is added to one disk only. -/
theorem branches_graft (h : tree.UniquePaths) (node : Node) {branch : Branch}
    (hbranch : branch ∈ tree.branches) (hholds : branch.holds node.record.parentPath = true) :
    ∃ before after, tree.branches = before ++ branch :: after ∧
      (tree.graft node).branches =
        before ++ { branch with children := branch.children ++ [node] } :: after := by
  obtain ⟨before, after, hsplit, hapart⟩ := h.split hbranch
  have hother : ∀ other ∈ before ++ after, ¬ other.holds node.record.parentPath = true := by
    intro other hmem hoth
    refine hapart other hmem other.root List.mem_cons_self branch.root List.mem_cons_self ?_
    rw [(holds_iff.1 hoth).1, (holds_iff.1 hholds).1]
  have hsame : ∀ part : List Branch, (∀ other ∈ part, other ∈ before ++ after) →
      part.map (fun branch =>
        if branch.holds node.record.parentPath then
          { branch with children := branch.children ++ [node] }
        else branch) = part := by
    intro part hpart
    refine (List.map_congr_left fun other hmem => ?_).trans part.map_id
    rw [if_neg (hother other (hpart other hmem))]
    rfl
  refine ⟨before, after, hsplit, ?_⟩
  simp only [graft, hsplit, List.map_append, List.map_cons, hholds, if_true]
  rw [hsame before fun other hmem => List.mem_append_left _ hmem,
    hsame after fun other hmem => List.mem_append_right _ hmem]

/-- Bringing a device in adds it, and nothing else changes. -/
theorem nodes_insert_perm (h : tree.UniquePaths) {record : Record}
    (hadmits : tree.admits record = true) :
    (tree.insert record).1.nodes.Perm (⟨record, none⟩ :: tree.nodes) := by
  by_cases hroot : record.isRoot = true
  · rw [insert_of_isRoot hadmits hroot]
    simp only [nodes, List.flatMap_append, List.flatMap_cons, List.flatMap_nil, Branch.nodes,
      List.append_nil]
    exact List.perm_append_singleton _ _
  · obtain ⟨hany, hinsert⟩ := insert_of_not_isRoot hadmits (by simpa using hroot)
    obtain ⟨branch, hbranch, hholds⟩ := List.any_eq_true.1 hany
    obtain ⟨before, after, hsplit, hgraft⟩ := branches_graft h ⟨record, none⟩ hbranch hholds
    rw [hinsert]
    simp only [nodes, hgraft, hsplit, List.flatMap_append, List.flatMap_cons, Branch.nodes,
      ← List.cons_append, ← List.append_assoc]
    refine List.Perm.append_right _ ?_
    exact List.perm_append_singleton _ _

/-! ## Taking a device away -/

/-- The devices that go with the one at a path, in the order in which they go. -/
def departing (tree : Tree) (path : String) : List Node :=
  match tree.branches.find? fun branch => branch.root.path = path with
  | some branch => branch.children ++ [branch.root]
  | none => (tree.get? path).toList

/-- With a device that stands on its own its partitions go before it, and any other goes alone. -/
theorem departing_cases (tree : Tree) (path : String) :
    (∃ branch ∈ tree.branches, branch.root.path = path ∧
      tree.departing path = branch.children ++ [branch.root]) ∨
    (∀ branch ∈ tree.branches, branch.root.path ≠ path) ∧
      tree.departing path = (tree.get? path).toList := by
  unfold departing
  cases hfind : tree.branches.find? fun branch => branch.root.path = path with
  | some branch =>
    obtain ⟨hbranch, hpath⟩ := root_of_find? hfind
    exact .inl ⟨branch, hbranch, hpath, rfl⟩
  | none => exact .inr ⟨by simpa using hfind, rfl⟩

/-- Whatever is at a path goes with it. -/
theorem path_mem_departing {path : String} {node : Node} (hget : tree.get? path = some node) :
    path ∈ (tree.departing path).map Node.path := by
  obtain ⟨branch, -, hroot, hparts⟩ | ⟨-, hparts⟩ := departing_cases tree path
  · simp [hparts, hroot]
  · simp [hparts, hget, path_of_get? hget]

/-- What is told when a device is taken away. -/
theorem remove_events (tree : Tree) (path : String) :
    (tree.remove path).2 = (tree.departing path).map fun node => .removed node.path := by
  unfold remove departing
  cases hfind : tree.branches.find? fun branch => branch.root.path = path with
  | some branch => simp [(root_of_find? hfind).2]
  | none =>
    cases hget : tree.get? path with
    | none => simp [contains, hget]
    | some node => simp [contains, hget, path_of_get? hget]

/-- Nothing is removed from a path at which nothing is. -/
theorem remove_of_get?_eq_none {path : String} (h : tree.get? path = none) :
    tree.remove path = (tree, []) := by
  unfold remove
  cases hfind : tree.branches.find? fun branch => branch.root.path = path with
  | some branch =>
    obtain ⟨hbranch, hpath⟩ := root_of_find? hfind
    exact absurd hpath (get?_eq_none_iff.1 h branch.root (root_mem_nodes hbranch))
  | none => simp [contains, h]

/-- The paths that go with a branch are those of its devices. -/
theorem mem_paths_iff {branch : Branch} {path : String} :
    path ∈ (branch.children ++ [branch.root]).map Node.path ↔
      ∃ own ∈ branch.nodes, path = own.path := by
  simp [Branch.nodes, or_comm, eq_comm]

/-- Branches that are apart from one have other roots. -/
theorem filter_root_of_apart {branch : Branch} {part : List Branch}
    (h : ∀ other ∈ part, other.Apart branch) :
    part.filter (fun other => other.root.path ≠ branch.root.path) = part := by
  refine List.filter_eq_self.2 fun other hmem => decide_eq_true ?_
  exact h other hmem _ List.mem_cons_self _ List.mem_cons_self

/-- Branches that are apart from one have devices at other paths. -/
theorem filter_nodes_of_apart {branch : Branch} {part : List Branch}
    (h : ∀ other ∈ part, other.Apart branch) :
    (part.flatMap Branch.nodes).filter (fun node =>
      node.path ∉ (branch.children ++ [branch.root]).map Node.path) =
        part.flatMap Branch.nodes := by
  refine List.filter_eq_self.2 fun node hnode => decide_eq_true fun hgone => ?_
  obtain ⟨other, hmem, hin⟩ := List.mem_flatMap.1 hnode
  obtain ⟨own, hown, hsame⟩ := mem_paths_iff.1 hgone
  exact h other hmem node hin own hown hsame

/-- All devices of a branch have its paths. -/
theorem filter_nodes_self (branch : Branch) :
    branch.nodes.filter (fun node =>
      node.path ∉ (branch.children ++ [branch.root]).map Node.path) = [] := by
  refine List.filter_eq_nil_iff.2 fun node hnode hstays => ?_
  exact of_decide_eq_true hstays (mem_paths_iff.2 ⟨node, hnode, rfl⟩)

/-- Taking a device away leaves the others as they are and in their order. -/
theorem nodes_remove (h : tree.UniquePaths) (path : String) :
    (tree.remove path).1.nodes =
      tree.nodes.filter fun node => node.path ∉ (tree.departing path).map Node.path := by
  unfold remove departing
  cases hfind : tree.branches.find? fun branch => branch.root.path = path with
  | some branch =>
    -- the whole branch goes, and the others share no path with it
    obtain ⟨hbranch, hpath⟩ := root_of_find? hfind
    obtain ⟨before, after, hsplit, hapart⟩ := h.split hbranch
    have hbefore : ∀ other ∈ before, other.Apart branch :=
      fun other hmem => hapart other (List.mem_append_left _ hmem)
    have hafter : ∀ other ∈ after, other.Apart branch :=
      fun other hmem => hapart other (List.mem_append_right _ hmem)
    subst hpath
    simp only [nodes, hsplit, List.flatMap_append, List.flatMap_cons, List.filter_append]
    rw [filter_nodes_of_apart hbefore, filter_nodes_of_apart hafter, filter_nodes_self,
      filter_root_of_apart hbefore, List.filter_cons_of_neg (by simp),
      filter_root_of_apart hafter, List.nil_append]
  | none =>
    -- at most a partition goes, and no root is filtered out
    have hroots : ∀ branch ∈ tree.branches, branch.root.path ≠ path := by
      simpa using hfind
    cases hget : tree.get? path with
    | none => simp [contains, hget]
    | some node =>
      simp only [contains, hget, Option.isSome_some, if_true, Option.toList_some, List.map_cons,
        List.map_nil, List.mem_singleton, path_of_get? hget]
      simp only [nodes, List.filter_flatMap, List.flatMap_map]
      refine List.flatMap_congr fun branch hbranch => ?_
      simp [Branch.nodes, hroots branch hbranch]

/-- The devices that go were there. -/
theorem mem_of_mem_departing {path : String} {node : Node} (h : node ∈ tree.departing path) :
    node ∈ tree.nodes := by
  obtain ⟨branch, hbranch, -, hparts⟩ | ⟨-, hparts⟩ := departing_cases tree path
  · rw [hparts] at h
    refine mem_nodes.2 ⟨branch, hbranch, ?_⟩
    exact (List.perm_append_singleton branch.root branch.children).mem_iff.1 h
  · rw [hparts] at h
    exact mem_of_get? (Option.mem_toList.1 h)

/-- A device goes exactly if its path goes. -/
theorem UniquePaths.path_mem_departing_iff (h : tree.UniquePaths) {path : String} {node : Node}
    (hnode : node ∈ tree.nodes) :
    node.path ∈ (tree.departing path).map Node.path ↔ node ∈ tree.departing path := by
  refine ⟨fun hin => ?_, List.mem_map_of_mem⟩
  obtain ⟨other, hother, hsame⟩ := List.mem_map.1 hin
  rwa [← Keyed.eq_of_key_eq h (mem_of_mem_departing hother) hnode hsame]

/-- No path goes twice. -/
theorem UniquePaths.departing (h : tree.UniquePaths) (path : String) :
    ((tree.departing path).map Node.path).Nodup := by
  obtain ⟨branch, hbranch, -, hparts⟩ | ⟨-, hparts⟩ := departing_cases tree path
  · have hperm : (branch.children ++ [branch.root]).Perm branch.nodes :=
      List.perm_append_singleton _ _
    rw [hparts]
    exact (hperm.map Node.path).nodup_iff.2 (h.branch hbranch)
  · rw [hparts]
    cases tree.get? path <;> simp

/-- What goes is a part of the tree, in its own order. -/
theorem UniquePaths.departing_perm (h : tree.UniquePaths) (path : String) :
    (tree.departing path).Perm (tree.nodes.filter fun node => node ∈ tree.departing path) := by
  refine (List.perm_ext_iff_of_nodup (h.departing path).of_map (h.of_map.filter _)).2 fun node => ?_
  rw [List.mem_filter, decide_eq_true_iff]
  exact ⟨fun hin => ⟨mem_of_mem_departing hin, hin⟩, And.right⟩

/-- After a device is taken away, all that are gone with it are no longer found. -/
theorem get?_remove (h : tree.UniquePaths) (path other : String) :
    (tree.remove path).1.get? other =
      if other ∈ (tree.departing path).map Node.path then none else tree.get? other := by
  rw [get?_eq_find?, nodes_remove h, List.find?_filter, get?_eq_find?]
  by_cases hgone : other ∈ (tree.departing path).map Node.path
  · rw [if_pos hgone]
    refine List.find?_eq_none.2 fun node _ hnode => ?_
    simp only [decide_eq_true_eq] at hnode
    exact hnode.1 (hnode.2 ▸ hgone)
  · rw [if_neg hgone]
    congr 1
    funext node
    by_cases hpath : node.path = other
    · simp [hpath, hgone]
    · simp [hpath]

/-! ## Changing devices where they are -/

/-- Just what is found at its own path is changed by a change at that path. -/
theorem get?_update {path : String} {f : Node → Node}
    (hf : ∀ node, node.path = path → (f node).path = path) (tree : Tree) (other : String) :
    (tree.update path f).get? other =
      if other = path then (tree.get? path).map f else tree.get? other := by
  have hkeeps : ∀ node : Node, (if node.path = path then f node else node).path = node.path := by
    intro node
    split
    · rename_i hpath
      rw [hf node hpath, hpath]
    · rfl
  unfold update
  rw [get?_map hkeeps]
  cases hget : tree.get? other with
  | none =>
    by_cases hother : other = path
    · simp [← hother, hget]
    · simp [hother]
  | some node =>
    by_cases hother : other = path
    · simp [← hother, hget, path_of_get? hget]
    · simp [hother, path_of_get? hget]

/-- The tree with one device mounted in another way, and everything else as it was. -/
def remount (tree : Tree) (node : Node) (mount : Option Mount.Info) : Tree :=
  tree.map fun other => if other = node then { node with mount } else other

/-- Changing the mount at a path is changing that of the device there. -/
theorem UniquePaths.update_eq_remount (h : tree.UniquePaths) {path : String} {node : Node}
    (hget : tree.get? path = some node) (mount : Option Mount.Info) :
    (tree.update path fun node => { node with mount }) = tree.remount node mount := by
  refine Tree.map_congr fun other hother => ?_
  by_cases hpath : other.path = path
  · have hsame : other = node := h.eq_of_get? hget hother hpath
    rw [if_pos hpath, if_pos hsame, hsame]
  · have hne : other ≠ node := fun hsame => hpath (hsame ▸ path_of_get? hget)
    rw [if_neg hpath, if_neg hne]

/-- A change is told if it is one of a known device that stays where it is; else nothing
happens. -/
theorem change_cases (tree : Tree) (record : Record) :
    (∃ node, tree.get? record.path = some node ∧ node.record.SamePlace record ∧
      node.record ≠ record ∧
      tree.change record =
        (tree.update record.path fun node => { node with record := record },
          [.changed (.ofRecord record node.mount)])) ∨
    ((∀ node, tree.get? record.path = some node → node.record.SamePlace record →
      node.record = record) ∧ tree.change record = (tree, [])) := by
  unfold change
  cases hget : tree.get? record.path with
  | none => simp
  | some node =>
    by_cases hparent : node.record.parentPath = record.parentPath
    · by_cases hkind : node.record.kind = record.kind
      · by_cases hsame : node.record = record
        · right
          simp [hsame]
        · left
          exact ⟨node, rfl, ⟨path_of_get? hget, hkind, hparent⟩, hsame, by simp [*]⟩
      · right
        refine ⟨fun other hother hplace => ?_, by simp [*]⟩
        cases hother
        exact absurd hplace.kind hkind
    · right
      refine ⟨fun other hother hplace => ?_, by simp [*]⟩
      cases hother
      exact absurd hplace.parentPath hparent

/-- A device that is not mounted gets the mount that is set. -/
theorem setMount_of_unmounted {path : String} {node : Node} (hget : tree.get? path = some node)
    (hmount : node.mount = none) (info : Mount.Info) :
    tree.setMount path info =
      (tree.update path fun node => { node with mount := some info },
        some (.mounted path info)) := by
  simp [setMount, hget, hmount]

/-- A device that is mounted loses the mount that is cleared. -/
theorem clearMount_of_mounted {path : String} {node : Node} {info : Mount.Info}
    (hget : tree.get? path = some node) (hmount : node.mount = some info) :
    tree.clearMount path =
      (tree.update path fun node => { node with mount := none },
        some (.unmounted path info.point)) := by
  simp [clearMount, hget, hmount]

/-- The same devices with the same records, perhaps mounted in another way. -/
def Remounted (tree other : Tree) : Prop :=
  ∃ f : Node → Node, other = tree.map f ∧ ∀ node, (f node).record = node.record

/-- A tree has the devices of itself. -/
theorem Remounted.refl (tree : Tree) : tree.Remounted tree :=
  ⟨id, by simp [map], fun _ => rfl⟩

/-- A device that is mounted in another way is still the same device. -/
theorem Remounted.update (tree : Tree) (path : String) (mount : Option Mount.Info) :
    tree.Remounted (tree.update path fun node => { node with mount }) := by
  refine ⟨_, rfl, fun node => ?_⟩
  split <;> rfl

/-- Setting a mount leaves the devices as they are. -/
theorem setMount_remounted (tree : Tree) (path : String) (info : Mount.Info) :
    tree.Remounted (tree.setMount path info).1 := by
  unfold setMount
  split
  · exact .refl tree
  · split
    · exact .refl tree
    · exact .update tree path (some info)

/-- Clearing a mount leaves the devices as they are. -/
theorem clearMount_remounted (tree : Tree) (path : String) :
    tree.Remounted (tree.clearMount path).1 := by
  unfold clearMount
  split
  · exact .refl tree
  · exact .update tree path none

/-- Reconciliation leaves the devices as they are, with the mounts that they should have. -/
theorem reconcile_remounted (tree : Tree) (table : Mount.Table) :
    tree.Remounted (tree.reconcile table).1 :=
  ⟨Node.reconciled table, congrArg Prod.fst (reconcile_eq tree table), fun _ => rfl⟩

/-- The table states the mount point that is believed, or it has to tell that the device is mounted,
that it is unmounted, or that it has moved. -/
theorem news_cases (table : Mount.Table) (node : Node) :
    (node.news table = [] ∧
      node.mount.map Mount.Info.point = (table.lookup node.path).map Mount.Info.point) ∨
    (∃ live, node.news table = [.mounted node.path live] ∧ node.mount = none ∧
      table.lookup node.path = some live) ∨
    (∃ believed, node.news table = [.unmounted node.path believed.point] ∧
      node.mount = some believed ∧ table.lookup node.path = none) ∨
    ∃ believed live,
      node.news table = [.unmounted node.path believed.point, .mounted node.path live] ∧
        node.mount = some believed ∧ table.lookup node.path = some live := by
  unfold Node.news
  cases hbelieved : node.mount with
  | none =>
    cases hlive : table.lookup node.path with
    | none => exact .inl ⟨rfl, rfl⟩
    | some live => exact .inr (.inl ⟨live, rfl, rfl, rfl⟩)
  | some believed =>
    cases hlive : table.lookup node.path with
    | none => exact .inr (.inr (.inl ⟨believed, rfl, rfl, rfl⟩))
    | some live =>
      by_cases hpoint : believed.point = live.point
      · exact .inl ⟨if_pos hpoint, congrArg some hpoint⟩
      · exact .inr (.inr (.inr ⟨believed, live, if_neg hpoint, rfl, rfl⟩))

/-! ## No path occurs twice -/

/-- No path occurs twice after changes that keep the paths. -/
theorem UniquePaths.map {f : Node → Node} (h : tree.UniquePaths)
    (hf : ∀ node ∈ tree.nodes, (f node).path = node.path) : (tree.map f).UniquePaths := by
  unfold UniquePaths at h ⊢
  rw [nodes_map, List.map_map]
  exact (List.map_congr_left hf) ▸ h

/-- Mounts do not bear on paths. -/
theorem UniquePaths.remounted {other : Tree} (h : tree.UniquePaths)
    (hother : tree.Remounted other) : other.UniquePaths := by
  obtain ⟨f, rfl, hf⟩ := hother
  refine h.map fun node _ => ?_
  unfold Node.path
  rw [hf]

/-- No path occurs twice after an insertion. -/
theorem UniquePaths.insert (h : tree.UniquePaths) (record : Record) :
    (tree.insert record).1.UniquePaths := by
  cases hadmits : tree.admits record with
  | false => rwa [insert_of_not_admits hadmits]
  | true =>
    have hperm := (nodes_insert_perm h hadmits).map Node.path
    refine hperm.nodup_iff.2 (List.nodup_cons.2 ⟨?_, h⟩)
    intro htaken
    obtain ⟨node, hnode, hpath⟩ := List.mem_map.1 htaken
    exact get?_eq_none_iff.1 (get?_of_admits hadmits) node hnode hpath

/-- No path occurs twice after a removal. -/
theorem UniquePaths.remove (h : tree.UniquePaths) (path : String) :
    (tree.remove path).1.UniquePaths := by
  unfold UniquePaths
  rw [nodes_remove h]
  exact List.Nodup.sublist (List.filter_sublist.map _) h

/-- No path occurs twice after a change. -/
theorem UniquePaths.change (h : tree.UniquePaths) (record : Record) :
    (tree.change record).1.UniquePaths := by
  obtain ⟨node, -, -, -, hchange⟩ | ⟨-, hchange⟩ := change_cases tree record
  · rw [hchange]
    refine h.map fun node _ => ?_
    split
    · rename_i hpath
      exact hpath.symm
    · rfl
  · rwa [hchange]

/-- No action makes a path occur twice. -/
theorem UniquePaths.apply (h : tree.UniquePaths) (record : Record) (action : Device.Action) :
    (tree.apply record action).1.UniquePaths := by
  obtain hinsert | hremoval | rfl := effect_cases action
  · exact apply_of_isInsert hinsert tree record ▸ h.insert record
  · exact apply_of_isRemoval hremoval tree record ▸ h.remove record.path
  · exact h.change record

end RemovableMedia.Tree
