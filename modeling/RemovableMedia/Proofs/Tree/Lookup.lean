import RemovableMedia.Proofs.Keyed
import RemovableMedia.Tree

/-!
# Devices in the tree

A tree is read in two ways: as branches, and as the list of all its nodes.  Looking a device up is
looking it up in that list (`get?_eq_find?`).  Where no two devices have the same path, a branch
shares no path with the others (`UniquePaths.split`).
-/

set_option autoImplicit false

namespace RemovableMedia

namespace Branch

/-- Two branches that share no path. -/
def Apart (first second : Branch) : Prop :=
  ∀ node ∈ first.nodes, ∀ own ∈ second.nodes, node.path ≠ own.path

/-- The devices of a changed branch are its devices, changed. -/
@[simp]
theorem nodes_map (f : Node → Node) (branch : Branch) :
    (branch.map f).nodes = branch.nodes.map f := rfl

/-- Changing no device leaves a branch as it is. -/
@[simp]
theorem map_id : Branch.map id = id := by
  funext branch
  simp [map]

/-- A branch of which a path names a part has a node there, and that node comes first. -/
theorem head?_find? (path : String) (branch : Branch) :
    (branch.find? path).bind List.head? = branch.nodes.find? fun node => node.path = path := by
  unfold find? nodes
  by_cases h : branch.root.path = path
  · simp [h]
  · simp only [h, if_false, List.find?_cons, decide_false]
    cases branch.children.find? fun child => child.path = path <;> rfl

/-- A path names no part of a branch exactly if no device of the branch is there. -/
theorem find?_eq_none_iff {path : String} {branch : Branch} :
    branch.find? path = none ↔ ∀ node ∈ branch.nodes, node.path ≠ path := by
  unfold find? nodes
  by_cases h : branch.root.path = path
  · simp [h]
  · simp [h]

end Branch

namespace Tree

/-- No two devices of the tree have the same path. -/
def UniquePaths (tree : Tree) : Prop :=
  (tree.nodes.map Node.path).Nodup

/-- A device is in a tree just if it is in one of its branches. -/
theorem mem_nodes {tree : Tree} {node : Node} :
    node ∈ tree.nodes ↔ ∃ branch ∈ tree.branches, node ∈ branch.nodes :=
  List.mem_flatMap

/-- A device on its own is one of the devices. -/
theorem root_mem_nodes {tree : Tree} {branch : Branch} (h : branch ∈ tree.branches) :
    branch.root ∈ tree.nodes :=
  mem_nodes.2 ⟨branch, h, List.mem_cons_self⟩

/-- A partition is one of the devices. -/
theorem child_mem_nodes {tree : Tree} {branch : Branch} (h : branch ∈ tree.branches)
    {child : Node} (hchild : child ∈ branch.children) : child ∈ tree.nodes :=
  mem_nodes.2 ⟨branch, h, List.mem_cons_of_mem _ hchild⟩

/-- The branch that is found at a path is one of the tree, with its root there. -/
theorem root_of_find? {tree : Tree} {path : String} {branch : Branch}
    (h : (tree.branches.find? fun branch => branch.root.path = path) = some branch) :
    branch ∈ tree.branches ∧ branch.root.path = path :=
  ⟨List.mem_of_find?_eq_some h, by simpa using List.find?_some h⟩

/-- The devices of a changed tree are its devices, changed. -/
@[simp]
theorem nodes_map (f : Node → Node) (tree : Tree) : (tree.map f).nodes = tree.nodes.map f := by
  simp [nodes, map, List.flatMap_map, List.map_flatMap]

/-- Only what is changed in the devices of a tree matters. -/
theorem map_congr {f g : Node → Node} {tree : Tree} (h : ∀ node ∈ tree.nodes, f node = g node) :
    tree.map f = tree.map g := by
  unfold map
  congr 1
  refine List.map_congr_left fun branch hbranch => ?_
  have hroot := h branch.root (root_mem_nodes hbranch)
  have hchildren : branch.children.map f = branch.children.map g :=
    List.map_congr_left fun child hchild => h child (child_mem_nodes hbranch hchild)
  rw [Branch.map, Branch.map, hroot, hchildren]

/-- Looking a device up is looking it up in the list of all. -/
theorem get?_eq_find? (tree : Tree) (path : String) :
    tree.get? path = tree.nodes.find? fun node => node.path = path := by
  unfold get? find? nodes
  rw [List.find?_flatMap]
  induction tree.branches with
  | nil => rfl
  | cons branch rest ih =>
    have hhead := branch.head?_find? path
    rw [List.findSome?_cons, List.findSome?_cons, ← hhead]
    cases hfind : branch.find? path with
    | none => exact ih
    | some nodes =>
      have hne : nodes.head?.isSome := by
        unfold Branch.find? Branch.nodes at hfind
        split at hfind
        · cases hfind; rfl
        · obtain ⟨child, -, rfl⟩ := Option.map_eq_some_iff.1 hfind
          rfl
      obtain ⟨node, hnode⟩ := Option.isSome_iff_exists.1 hne
      simp [hnode]

/-- The device that is found is one of the tree. -/
theorem mem_of_get? {tree : Tree} {path : String} {node : Node} (h : tree.get? path = some node) :
    node ∈ tree.nodes := by
  rw [get?_eq_find?] at h
  exact List.mem_of_find?_eq_some h

/-- The device that is found is at its path. -/
theorem path_of_get? {tree : Tree} {path : String} {node : Node}
    (h : tree.get? path = some node) : node.path = path := by
  rw [get?_eq_find?] at h
  simpa using List.find?_some h

/-- Nothing is found just if no device is at the path. -/
theorem get?_eq_none_iff {tree : Tree} {path : String} :
    tree.get? path = none ↔ ∀ node ∈ tree.nodes, node.path ≠ path := by
  simp [get?_eq_find?]

/-- A device is found changed if changes keep the paths. -/
theorem get?_map {f : Node → Node} (hf : ∀ node, (f node).path = node.path) (tree : Tree)
    (path : String) : (tree.map f).get? path = (tree.get? path).map f := by
  simp only [get?_eq_find?, nodes_map, List.find?_map]
  congr 2
  funext node
  simp [hf]

/-- Whatever is at a path that no device on its own has holds nothing. -/
theorem children_of_not_root {tree : Tree} {path : String}
    (hnone : ∀ branch ∈ tree.branches, branch.root.path ≠ path) :
    tree.children path = [] := by
  unfold children
  cases hfind : tree.find? path with
  | none => rfl
  | some nodes =>
    obtain ⟨branch, hbranch, hpart⟩ := List.exists_of_findSome?_eq_some hfind
    rw [Branch.find?, if_neg (hnone branch hbranch)] at hpart
    obtain ⟨child, -, rfl⟩ := Option.map_eq_some_iff.1 hpart
    rfl

namespace UniquePaths

variable {tree : Tree}

/-- The device with a path is the one that is found. -/
theorem get?_eq_some_iff (h : tree.UniquePaths) {path : String} {node : Node} :
    tree.get? path = some node ↔ node ∈ tree.nodes ∧ node.path = path := by
  rw [get?_eq_find?]
  exact Keyed.find?_eq_some_iff_of_nodup h fun a => decide_eq_true_iff

/-- A device is found at its path. -/
theorem get?_path (h : tree.UniquePaths) {node : Node} (hnode : node ∈ tree.nodes) :
    tree.get? node.path = some node :=
  h.get?_eq_some_iff.2 ⟨hnode, rfl⟩

/-- Whatever is at the path of the device that is found is that device. -/
theorem eq_of_get? (h : tree.UniquePaths) {path : String} {node found : Node}
    (hget : tree.get? path = some found) (hnode : node ∈ tree.nodes) (hpath : node.path = path) :
    node = found := by
  rw [h.get?_eq_some_iff.2 ⟨hnode, hpath⟩] at hget
  exact Option.some.inj hget

/-- A tree with the same devices and one more finds that one in addition. -/
theorem get?_of_perm_cons {other : Tree} (h : other.UniquePaths) {node : Node}
    (hperm : other.nodes.Perm (node :: tree.nodes)) (path : String) :
    other.get? path = if path = node.path then some node else tree.get? path := by
  rw [get?_eq_find?, Keyed.find?_eq_of_perm h hperm fun a => decide_eq_true_iff,
    List.find?_cons, get?_eq_find?]
  by_cases hpath : path = node.path
  · simp [hpath]
  · simp [hpath, Ne.symm hpath]

/-- Around every branch the tree falls apart into branches that share no path with it. -/
theorem split (h : tree.UniquePaths) {branch : Branch} (hbranch : branch ∈ tree.branches) :
    ∃ before after, tree.branches = before ++ branch :: after ∧
      ∀ other ∈ before ++ after, other.Apart branch := by
  obtain ⟨before, after, hsplit⟩ := List.append_of_mem hbranch
  refine ⟨before, after, hsplit, ?_⟩
  have hnodes : tree.nodes =
      before.flatMap Branch.nodes ++ (branch.nodes ++ after.flatMap Branch.nodes) := by
    simp [nodes, hsplit]
  unfold UniquePaths at h
  rw [hnodes, List.map_append, List.map_append, List.nodup_append, List.nodup_append] at h
  obtain ⟨-, ⟨-, -, hafter⟩, hbefore⟩ := h
  intro other hother node hnode own hown
  rcases List.mem_append.1 hother with hmem | hmem
  · refine hbefore _ (List.mem_map_of_mem (List.mem_flatMap.2 ⟨other, hmem, hnode⟩)) _ ?_
    exact List.mem_append_left _ (List.mem_map_of_mem hown)
  · exact (hafter _ (List.mem_map_of_mem hown) _
      (List.mem_map_of_mem (List.mem_flatMap.2 ⟨other, hmem, hnode⟩))).symm

/-- Branches that share a path are the same. -/
theorem branch_eq (h : tree.UniquePaths) {first second : Branch} (hfirst : first ∈ tree.branches)
    (hsecond : second ∈ tree.branches) {node own : Node} (hnode : node ∈ first.nodes)
    (hown : own ∈ second.nodes) (hpath : node.path = own.path) : first = second := by
  obtain ⟨before, after, hsplit, hapart⟩ := h.split hsecond
  rw [hsplit] at hfirst
  by_contra hne
  have hother : first ∈ before ++ after := by
    simpa [hne] using hfirst
  exact hapart first hother node hnode own hown hpath

/-- No path occurs twice in a branch. -/
theorem branch (h : tree.UniquePaths) {branch : Branch} (hbranch : branch ∈ tree.branches) :
    (branch.nodes.map Node.path).Nodup := by
  obtain ⟨before, after, hsplit⟩ := List.append_of_mem hbranch
  refine List.Nodup.sublist (List.Sublist.map _ ?_) h
  simp only [nodes, hsplit, List.flatMap_append, List.flatMap_cons]
  exact (List.sublist_append_left _ _).trans (List.sublist_append_right _ _)

/-- What a path names in the tree is the part of the branch that has a device there. -/
theorem find?_eq (h : tree.UniquePaths) {branch : Branch} (hbranch : branch ∈ tree.branches)
    {node : Node} (hnode : node ∈ branch.nodes) :
    tree.find? node.path = branch.find? node.path := by
  obtain ⟨before, after, hsplit, hapart⟩ := h.split hbranch
  have hnone : ∀ other ∈ before ++ after, other.find? node.path = none := by
    intro other hmem
    refine Branch.find?_eq_none_iff.2 fun own hown => ?_
    exact hapart other hmem own hown node hnode
  unfold find?
  rw [hsplit, List.findSome?_append, List.findSome?_cons,
    List.findSome?_eq_none_iff.2 fun other hmem => hnone other (List.mem_append_left _ hmem),
    List.findSome?_eq_none_iff.2 fun other hmem => hnone other (List.mem_append_right _ hmem)]
  cases branch.find? node.path <;> rfl

/-- What is collected from branches of which just one contributes is what that one contributes. -/
theorem flatMap_eq (h : tree.UniquePaths) {branch : Branch} (hbranch : branch ∈ tree.branches)
    {α : Type} {part : Branch → List α} (hothers : ∀ other, other.Apart branch → part other = []) :
    tree.branches.flatMap part = part branch := by
  obtain ⟨before, after, hsplit, hapart⟩ := h.split hbranch
  have hbefore : before.flatMap part = [] :=
    List.flatMap_eq_nil_iff.2 fun other hmem =>
      hothers other (hapart other (List.mem_append_left _ hmem))
  have hafter : after.flatMap part = [] :=
    List.flatMap_eq_nil_iff.2 fun other hmem =>
      hothers other (hapart other (List.mem_append_right _ hmem))
  rw [hsplit, List.flatMap_append, List.flatMap_cons, hbefore, hafter, List.nil_append,
    List.append_nil]

/-- The partitions at the path of a disk are those of its branch. -/
theorem children_root (h : tree.UniquePaths) {branch : Branch} (hbranch : branch ∈ tree.branches) :
    tree.children branch.root.path = branch.children := by
  unfold children
  rw [h.find?_eq hbranch List.mem_cons_self, Branch.find?, if_pos rfl]
  rfl

/-- A partition has no partitions. -/
theorem children_child (h : tree.UniquePaths) {branch : Branch} (hbranch : branch ∈ tree.branches)
    {child : Node} (hchild : child ∈ branch.children) : tree.children child.path = [] := by
  have hroot : branch.root.path ≠ child.path := by
    have hnodup := h.branch hbranch
    simp only [Branch.nodes, List.map_cons, List.nodup_cons, List.mem_map] at hnodup
    exact fun hsame => hnodup.1 ⟨child, hchild, hsame.symm⟩
  unfold children
  rw [h.find?_eq hbranch (List.mem_cons_of_mem _ hchild), Branch.find?, if_neg hroot]
  cases branch.children.find? fun other => other.path = child.path <;> rfl

/-- The partitions of the device at a path are those of the branch whose root is there. -/
theorem children_eq_flatMap (h : tree.UniquePaths) (path : String) :
    tree.children path =
      tree.branches.flatMap fun branch =>
        if branch.root.path = path then branch.children else [] := by
  by_cases hroot : ∃ branch ∈ tree.branches, branch.root.path = path
  · obtain ⟨branch, hbranch, rfl⟩ := hroot
    rw [h.children_root hbranch, h.flatMap_eq hbranch, if_pos rfl]
    intro other hapart
    exact if_neg (hapart _ List.mem_cons_self _ List.mem_cons_self)
  · push Not at hroot
    rw [children_of_not_root hroot, eq_comm, List.flatMap_eq_nil_iff]
    exact fun branch hbranch => if_neg (hroot branch hbranch)

end UniquePaths

end Tree

end RemovableMedia
