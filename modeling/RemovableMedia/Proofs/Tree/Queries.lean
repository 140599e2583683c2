import RemovableMedia.Proofs.Tree.Invariant

/-!
# Queries of the tree

A tree can be asked how many devices it has, for the list of them all, and for what is at a path:
whether there is a device, the device, its partitions, or the device followed by its partitions.
The count, the list and the search walk the branches each in its own way.  All queries agree with
the list (`Reachable.queriesAgree`), and that rests on the shape of the tree: a path is there once,
and a partition is in the branch of the disk that it names.

What a path names are just the devices of the list that are at the path or name it as their parent
(`WellFormed.filter_isAbout`).  Only one branch contributes to either side of that equation.
-/

set_option autoImplicit false

namespace RemovableMedia

/-- Whether a partition of the device at a path is described. -/
def Description.isPartOf (path : String) (device : Description) : Bool :=
  device.kind == .partition && device.parentPath == path

/-- Whether the device at a path or one of its partitions is described. -/
def Description.isAbout (path : String) (device : Description) : Bool :=
  device.path == path || device.isPartOf path

/-- A description is part of a disk's just if the device is a partition that names it. -/
theorem Node.isPartOf_iff {node : Node} {path : String} :
    node.description.isPartOf path = true ↔
      node.record.kind = .partition ∧ node.record.parentPath = path := by
  simp [Description.isPartOf, description, Description.ofRecord]

/-- A description is about a path just if the device is there or is a partition that names it. -/
theorem Node.isAbout_iff {node : Node} {path : String} :
    node.description.isAbout path = true ↔
      node.path = path ∨ node.record.kind = .partition ∧ node.record.parentPath = path := by
  rw [← isPartOf_iff]
  simp [Description.isAbout, description, Description.ofRecord, Node.path]

namespace Branch

variable {branch : Branch}

/-- The partitions of a branch name its root as their parent. -/
theorem WellFormed.filter_isPartOf (h : branch.WellFormed) (path : String) :
    (branch.nodes.filter fun node => node.description.isPartOf path) =
      if branch.root.path = path then branch.children else [] := by
  have hdisk : ¬ branch.root.description.isPartOf path = true :=
    fun hpart => h.root_kind (Node.isPartOf_iff.1 hpart).1
  have hchild : ∀ child ∈ branch.children,
      child.description.isPartOf path = true ↔ branch.root.path = path := by
    intro child hmem
    rw [Node.isPartOf_iff, h.child_parent child hmem]
    exact and_iff_right (h.child_kind child hmem)
  rw [nodes, List.filter_cons, if_neg hdisk]
  split
  · rename_i hroot
    exact List.filter_eq_self.2 fun child hmem => (hchild child hmem).2 hroot
  · rename_i hroot
    exact List.filter_eq_nil_iff.2 fun child hmem hpart => hroot ((hchild child hmem).1 hpart)

/-- What a path names in a branch are the devices that are at it or name it as their parent. -/
theorem WellFormed.filter_isAbout (h : branch.WellFormed)
    (hpaths : (branch.nodes.map Node.path).Nodup) (path : String) :
    (branch.nodes.filter fun node => node.description.isAbout path) =
      (branch.find? path).getD [] := by
  unfold find?
  by_cases hroot : branch.root.path = path
  · rw [if_pos hroot]
    refine List.filter_eq_self.2 fun node hnode => Node.isAbout_iff.2 ?_
    rcases List.mem_cons.1 hnode with rfl | hchild
    · exact .inl hroot
    · exact .inr ⟨h.child_kind node hchild, (h.child_parent node hchild).trans hroot⟩
  · have hdisk : ¬ branch.root.description.isAbout path = true := by
      rw [Node.isAbout_iff]
      rintro (hpath | hpart)
      · exact hroot hpath
      · exact h.root_kind hpart.1
    have hchildren : ∀ child ∈ branch.children,
        child.description.isAbout path = decide (child.path = path) := by
      intro child hchild
      rw [Bool.eq_iff_iff, Node.isAbout_iff, decide_eq_true_iff]
      refine or_iff_left fun hpart => hroot ?_
      rw [← h.child_parent child hchild, hpart.2]
    have hunique : (branch.children.map Node.path).Nodup :=
      (List.nodup_cons.1 hpaths).2
    rw [if_neg hroot, nodes, List.filter_cons, if_neg hdisk, List.filter_congr hchildren,
      Keyed.filter_eq_toList_find? hunique fun child => decide_eq_true_iff]
    cases branch.children.find? fun child => child.path = path <;> rfl

/-- What is found in a branch stands in a row in it. -/
theorem infix_of_find? {path : String} {found : List Node} (h : branch.find? path = some found) :
    found <:+: branch.nodes := by
  unfold find? at h
  split at h
  · cases h
    exact List.infix_refl _
  · obtain ⟨child, hchild, rfl⟩ := Option.map_eq_some_iff.1 h
    obtain ⟨before, after, hsplit⟩ := List.append_of_mem (List.mem_of_find?_eq_some hchild)
    refine ⟨branch.root :: before, after, ?_⟩
    simp [nodes, hsplit]

end Branch

namespace Tree

variable {tree : Tree} {path : String}

/-- The size of a tree is the number of its devices. -/
theorem size_eq_length (tree : Tree) : tree.size = tree.nodes.length := by
  unfold size nodes
  induction tree.branches with
  | nil => rfl
  | cons branch rest ih =>
    rw [List.foldr_cons, ih, List.flatMap_cons, List.length_append]
    rfl

/-- A tree is empty just if it has no devices. -/
theorem isEmpty_iff : tree.isEmpty = true ↔ tree.nodes = [] := by
  obtain ⟨branches⟩ := tree
  cases branches with
  | nil => exact iff_of_true rfl rfl
  | cons branch rest => exact iff_of_false Bool.false_ne_true (List.cons_ne_nil _ _)

/-- A tree contains a path just if a device is there. -/
theorem contains_iff : tree.contains path = true ↔ ∃ node ∈ tree.nodes, node.path = path := by
  rw [contains, Option.isSome_iff_ne_none, ne_eq, get?_eq_none_iff]
  push Not
  rfl

/-- What a path names begins with the device that is there. -/
theorem get?_of_find? {found : List Node} (h : tree.find? path = some found) :
    ∃ node, tree.get? path = some node ∧ found = node :: tree.children path := by
  obtain ⟨branch, -, hfind⟩ := List.exists_of_findSome?_eq_some h
  have hne : ∃ node rest, found = node :: rest := by
    unfold Branch.find? at hfind
    split at hfind
    · cases hfind
      exact ⟨_, _, rfl⟩
    · obtain ⟨child, -, rfl⟩ := Option.map_eq_some_iff.1 hfind
      exact ⟨_, _, rfl⟩
  obtain ⟨node, rest, rfl⟩ := hne
  refine ⟨node, ?_, ?_⟩
  · rw [get?, h]
    rfl
  · rw [children, h]
    rfl

/-- Something is found at a path just if the tree contains it. -/
theorem isSome_find?_eq_contains (tree : Tree) (path : String) :
    (tree.find? path).isSome = tree.contains path := by
  cases h : tree.find? path with
  | none => simp [contains, get?, h]
  | some found =>
    obtain ⟨node, hget, -⟩ := get?_of_find? h
    rw [contains, hget]
    rfl

/-- What is found in a tree stands in a row in its listing. -/
theorem infix_of_find? {found : List Node} (h : tree.find? path = some found) :
    found <:+: tree.nodes := by
  obtain ⟨branch, hbranch, hfind⟩ := List.exists_of_findSome?_eq_some h
  obtain ⟨before, after, hsplit⟩ := List.append_of_mem hbranch
  have hpart : branch.nodes <:+: tree.nodes := by
    refine ⟨before.flatMap Branch.nodes, after.flatMap Branch.nodes, ?_⟩
    simp [nodes, hsplit]
  exact (Branch.infix_of_find? hfind).trans hpart

namespace WellFormed

variable (h : tree.WellFormed)
include h

/-- What a path names are the devices that are at it or name it as their parent. -/
theorem filter_isAbout (path : String) :
    (tree.nodes.filter fun node => node.description.isAbout path) = (tree.find? path).getD [] := by
  have hbranches : (tree.nodes.filter fun node => node.description.isAbout path) =
      tree.branches.flatMap fun branch => (branch.find? path).getD [] := by
    rw [nodes, List.filter_flatMap]
    refine List.flatMap_congr fun branch hbranch => ?_
    exact (h.branches branch hbranch).filter_isAbout (h.paths.branch hbranch) path
  rw [hbranches]
  by_cases hfound : ∃ node ∈ tree.nodes, node.path = path
  · obtain ⟨node, hnode, rfl⟩ := hfound
    obtain ⟨branch, hbranch, hin⟩ := mem_nodes.1 hnode
    rw [h.paths.flatMap_eq hbranch, h.paths.find?_eq hbranch hin]
    intro other hapart
    rw [Branch.find?_eq_none_iff.2 fun own hown => hapart own hown node hin]
    rfl
  · have hnone : tree.find? path = none := by
      rw [← Option.not_isSome_iff_eq_none, isSome_find?_eq_contains, contains_iff]
      exact hfound
    rw [hnone]
    refine List.flatMap_eq_nil_iff.2 fun branch hbranch => ?_
    rw [List.findSome?_eq_none_iff.1 hnone branch hbranch]
    rfl

/-- The partitions of a device are those that name it as their parent. -/
theorem children_eq_filter (path : String) :
    tree.children path = tree.nodes.filter fun node => node.description.isPartOf path := by
  rw [h.paths.children_eq_flatMap, nodes, List.filter_flatMap]
  refine List.flatMap_congr fun branch hbranch => ?_
  exact ((h.branches branch hbranch).filter_isPartOf path).symm

/-- The devices that stand on their own are the roots of the branches. -/
theorem filter_isRoot :
    (tree.nodes.filter fun node => node.description.isRoot) = tree.branches.map Branch.root := by
  have hroot : ∀ node ∈ tree.nodes,
      node.description.isRoot = true ↔ node.record.kind ≠ .partition :=
    fun node hnode => (h.built node hnode).isRoot_iff
  rw [nodes, List.filter_flatMap, List.map_eq_flatMap]
  refine List.flatMap_congr fun branch hbranch => ?_
  have hshape := h.branches branch hbranch
  rw [Branch.nodes, List.filter_cons,
    if_pos ((hroot _ (root_mem_nodes hbranch)).2 hshape.root_kind)]
  congr 1
  rw [List.filter_eq_nil_iff]
  intro child hchild hisRoot
  exact (hroot _ (child_mem_nodes hbranch hchild)).1 hisRoot (hshape.child_kind child hchild)

end WellFormed

/-- What the queries of a tree tell is what the list of all devices tells. -/
structure QueriesAgree (tree : Tree) : Prop where
  size : tree.size = tree.nodes.length
  isEmpty : tree.isEmpty = true ↔ tree.nodes = []
  /-- There is at most one device at a path, and looking it up finds it. -/
  get : ∀ path, (tree.get? path).toList = tree.nodes.filter fun node => node.path = path
  contains : ∀ path, tree.contains path = true ↔ ∃ node ∈ tree.nodes, node.path = path
  find : ∀ path, (tree.find? path).isSome = true ↔ ∃ node ∈ tree.nodes, node.path = path
  children : ∀ path,
    tree.children path = tree.nodes.filter fun node => node.description.isPartOf path
  /-- A device and its partitions stand together, the device first. -/
  segment : ∀ path found, tree.find? path = some found →
    found <:+: tree.nodes ∧ ∃ node, tree.get? path = some node ∧
      found = node :: tree.nodes.filter fun other => other.description.isPartOf path
  /-- The list is made of what the devices that stand on their own name. -/
  roots : tree.nodes = (tree.nodes.filter fun node => node.description.isRoot).flatMap
    fun root => (tree.find? root.path).getD []

/-- All queries agree on every tree that can be reached. -/
theorem Reachable.queriesAgree (h : tree.Reachable) : tree.QueriesAgree where
  size := tree.size_eq_length
  isEmpty := isEmpty_iff
  get path := by
    rw [get?_eq_find?, Keyed.filter_eq_toList_find? h.wellFormed.paths fun _ => decide_eq_true_iff]
  contains path := contains_iff
  find path := by
    rw [isSome_find?_eq_contains, contains_iff]
  children := h.wellFormed.children_eq_filter
  segment path found hfind := by
    obtain ⟨node, hget, hfound⟩ := get?_of_find? hfind
    refine ⟨infix_of_find? hfind, node, hget, ?_⟩
    rw [hfound, h.wellFormed.children_eq_filter]
  roots := by
    have hpaths := h.wellFormed.paths
    rw [h.wellFormed.filter_isRoot, List.flatMap_map, nodes]
    refine List.flatMap_congr fun branch hbranch => ?_
    rw [hpaths.find?_eq hbranch List.mem_cons_self, Branch.find?, if_pos rfl]
    rfl

end Tree

end RemovableMedia
