import RemovableMedia.Proofs.Tree.Invariant

/-!
# What an action leaves alone

A tree is read as the list of its devices, each with the path of the disk that holds it (`placed`).
Bringing a device in puts one more into this list (`placed_insert`), taking a device away takes it and
what it holds out of the list (`placed_remove`), and a change replaces one record (`placed_change`).
So an action at a path leaves all devices alone that are neither there nor held by the device there,
and no action changes the order of those that stay (`apply_is_local`).
-/

set_option autoImplicit false

namespace RemovableMedia

open RemovableMedia.Device (Record)

/-- A device and the path of the disk that holds it, if one does. -/
structure Placed where
  holder : Option String
  node : Node
deriving DecidableEq, Repr

/-- Whether a device is neither at a path nor held by the device there. -/
def Placed.awayFrom (path : String) (placed : Placed) : Bool :=
  placed.node.path ≠ path ∧ placed.holder ≠ some path

/-- A device with another record, if it is at the path of that record. -/
def Placed.withRecord (record : Record) (placed : Placed) : Placed :=
  { placed with node :=
      if placed.node.path = record.path then { placed.node with record } else placed.node }

/-- Another record for its path leaves a device at its path. -/
theorem Placed.path_withRecord (record : Record) (placed : Placed) :
    (placed.withRecord record).node.path = placed.node.path := by
  unfold withRecord
  split
  · rename_i hpath
    exact hpath.symm
  · rfl

/-- Another record leaves a device as far away as it was. -/
theorem Placed.awayFrom_withRecord (record : Record) (placed : Placed) :
    (placed.withRecord record).awayFrom record.path = placed.awayFrom record.path := by
  unfold awayFrom
  rw [path_withRecord]
  rfl

/-- A device away from a path gets no other record there. -/
theorem Placed.withRecord_of_awayFrom {record : Record} {placed : Placed}
    (h : placed.awayFrom record.path = true) : placed.withRecord record = placed := by
  unfold withRecord
  rw [if_neg (of_decide_eq_true h).1]

/-- A device that stands on its own, and its partitions, which it holds. -/
def Branch.placed (branch : Branch) : List Placed :=
  ⟨none, branch.root⟩ :: branch.children.map fun child => ⟨some branch.root.path, child⟩

namespace Tree

variable {tree : Tree} {record : Record} {path : String}

/-- Every device with its holder, in the order of a listing. -/
def placed (tree : Tree) : List Placed :=
  tree.branches.flatMap Branch.placed

/-- The paths of all devices, in the order of a listing. -/
def paths (tree : Tree) : List String :=
  tree.nodes.map Node.path

/-- The placed devices of a branch are its devices. -/
theorem map_node_branch (branch : Branch) : branch.placed.map Placed.node = branch.nodes := by
  simp [Branch.placed, Branch.nodes, Function.comp_def]

/-- The placed devices of a tree are its devices. -/
theorem map_node_placed (tree : Tree) : tree.placed.map Placed.node = tree.nodes := by
  simp only [placed, nodes, List.map_flatMap, map_node_branch]

/-! ## Bringing in -/

/-- A device that is brought in comes last of all, or last on the disk that it names. -/
inductive Appended (tree : Tree) (record : Record) (after : Tree) : Prop where
  | root (hroot : record.isRoot = true)
      (hafter : after.branches = tree.branches ++ [⟨⟨record, none⟩, []⟩])
  | partition (hpart : record.isRoot = false) (before : List Branch) (disk : Branch)
      (rest : List Branch) (hholds : disk.holds record.parentPath = true)
      (htree : tree.branches = before ++ disk :: rest)
      (hafter : after.branches =
        before ++ { disk with children := disk.children ++ [⟨record, none⟩] } :: rest)

/-- A device that is let in comes last of all or last on its disk. -/
theorem appended_insert (h : tree.UniquePaths) (hadmits : tree.admits record = true) :
    tree.Appended record (tree.insert record).1 := by
  cases hroot : record.isRoot with
  | true =>
    rw [insert_of_isRoot hadmits hroot]
    exact .root hroot rfl
  | false =>
    obtain ⟨hany, hinsert⟩ := insert_of_not_isRoot hadmits hroot
    obtain ⟨disk, hdisk, hholds⟩ := List.any_eq_true.1 hany
    obtain ⟨before, rest, htree, hafter⟩ := branches_graft h ⟨record, none⟩ hdisk hholds
    rw [hinsert]
    exact .partition hroot before disk rest hholds htree hafter

/-- One more device is put among the others. -/
theorem Appended.placed {after : Tree} (h : tree.Appended record after) :
    ∃ before rest holder, tree.placed = before ++ rest ∧
      after.placed = before ++ ⟨holder, ⟨record, none⟩⟩ :: rest := by
  cases h with
  | root _ hafter =>
    refine ⟨tree.placed, [], none, (List.append_nil _).symm, ?_⟩
    simp [Tree.placed, hafter, Branch.placed]
  | partition _ before disk rest _ htree hafter =>
    refine ⟨before.flatMap Branch.placed ++ disk.placed, rest.flatMap Branch.placed,
      some disk.root.path, ?_, ?_⟩
    · simp [Tree.placed, htree]
    · simp [Tree.placed, hafter, Branch.placed]

/-- A device that comes last disturbs none that are away from it. -/
theorem Appended.awayFrom {after : Tree} (h : tree.Appended record after) :
    after.placed.filter (Placed.awayFrom record.path) =
      tree.placed.filter (Placed.awayFrom record.path) := by
  obtain ⟨before, rest, holder, htree, hafter⟩ := h.placed
  have hnew : Placed.awayFrom record.path ⟨holder, ⟨record, none⟩⟩ = false := by
    simp [Placed.awayFrom, Node.path]
  rw [htree, hafter, List.filter_append, List.filter_append,
    List.filter_cons_of_neg (by simp [hnew])]

/-- All paths stay when a device comes last. -/
theorem Appended.paths_sublist {after : Tree} (h : tree.Appended record after) :
    tree.paths.Sublist after.paths := by
  obtain ⟨before, rest, holder, htree, hafter⟩ := h.placed
  rw [paths, paths, ← map_node_placed, ← map_node_placed, htree, hafter]
  exact (((List.sublist_cons_self _ rest).append_left before).map _).map _

/-- A device is let in and told of if its path is free and its disk is there; else nothing happens. -/
def LetIn (tree : Tree) (record : Record) (after : Tree) (told : List Notification) : Prop :=
  if tree.admits record then
    tree.Appended record after ∧ told = [.added (.ofRecord record none)]
  else after = tree ∧ told = []

/-- Insertion lets a device in if it may come, and tells of it. -/
theorem letIn_insert (h : tree.UniquePaths) (record : Record) :
    tree.LetIn record (tree.insert record).1 (tree.insert record).2 := by
  unfold LetIn
  split
  · rename_i hadmits
    exact ⟨appended_insert h hadmits, insert_events hadmits⟩
  · rename_i hrefused
    rw [insert_of_not_admits (Bool.eq_false_iff.2 hrefused)]
    exact ⟨rfl, rfl⟩

/-! ## Taking away -/

/-- Of a branch goes either all or at most a partition. -/
theorem filter_awayFrom_branch (path : String) (branch : Branch) :
    branch.placed.filter (Placed.awayFrom path) =
      if branch.root.path = path then []
      else Branch.placed
        { branch with children := branch.children.filter fun child => child.path ≠ path } := by
  unfold Branch.placed
  by_cases hroot : branch.root.path = path
  · simp [Placed.awayFrom, hroot]
  · simp [Placed.awayFrom, hroot, List.filter_map, Function.comp_def]

/-- Where a path is free, all devices are away from it. -/
theorem filter_awayFrom_of_free {branches : List Branch}
    (hfree : ∀ branch ∈ branches, ∀ node ∈ branch.nodes, node.path ≠ path) :
    (branches.flatMap Branch.placed).filter (Placed.awayFrom path) =
      branches.flatMap Branch.placed := by
  rw [List.filter_flatMap]
  refine List.flatMap_congr fun branch hbranch => ?_
  obtain ⟨hroot, hchildren⟩ := List.forall_mem_cons.1 (hfree branch hbranch)
  have hall : branch.children.filter (fun child => child.path ≠ path) = branch.children :=
    List.filter_eq_self.2 fun child hchild => decide_eq_true (hchildren child hchild)
  rw [filter_awayFrom_branch, if_neg hroot, hall]

/-- A device goes with all that it holds, and nothing else goes. -/
theorem placed_remove (h : tree.UniquePaths) (path : String) :
    (tree.remove path).1.placed = tree.placed.filter (Placed.awayFrom path) := by
  unfold remove placed
  cases hfind : tree.branches.find? fun branch => branch.root.path = path with
  | some branch =>
    -- the whole branch goes, and the others share no path with it
    obtain ⟨hbranch, rfl⟩ := root_of_find? hfind
    obtain ⟨before, after, hsplit, hapart⟩ := h.split hbranch
    have hbefore : ∀ other ∈ before, other.Apart branch :=
      fun other hmem => hapart other (List.mem_append_left _ hmem)
    have hafter : ∀ other ∈ after, other.Apart branch :=
      fun other hmem => hapart other (List.mem_append_right _ hmem)
    have hfree : ∀ part : List Branch, (∀ other ∈ part, other.Apart branch) →
        ∀ other ∈ part, ∀ node ∈ other.nodes, node.path ≠ branch.root.path :=
      fun part hpart other hmem node hnode => hpart other hmem node hnode _ List.mem_cons_self
    simp only [hsplit, List.filter_append, List.flatMap_append, List.flatMap_cons]
    rw [filter_root_of_apart hbefore, List.filter_cons_of_neg (by simp),
      filter_root_of_apart hafter, filter_awayFrom_of_free (hfree before hbefore),
      filter_awayFrom_of_free (hfree after hafter), filter_awayFrom_branch, if_pos rfl,
      List.nil_append]
  | none =>
    -- at most a partition goes, and no root is filtered out
    have hroots : ∀ branch ∈ tree.branches, branch.root.path ≠ path := by
      simpa using hfind
    cases hget : tree.get? path with
    | none =>
      simp only [contains, hget, Option.isSome_none, Bool.false_eq_true, if_false]
      refine (filter_awayFrom_of_free fun branch hbranch node hnode => ?_).symm
      exact get?_eq_none_iff.1 hget node (mem_nodes.2 ⟨branch, hbranch, hnode⟩)
    | some node =>
      simp only [contains, hget, Option.isSome_some, if_true]
      rw [List.filter_flatMap, List.flatMap_map]
      refine List.flatMap_congr fun branch hbranch => ?_
      rw [filter_awayFrom_branch, if_neg (hroots branch hbranch)]

/-! ## What a device holds -/

/-- The device at a path is not held by itself. -/
theorem UniquePaths.holder_ne (h : tree.UniquePaths) {placed : Placed}
    (hplaced : placed ∈ tree.placed) : placed.holder ≠ some placed.node.path := by
  obtain ⟨branch, hbranch, hmem⟩ := List.mem_flatMap.1 hplaced
  rcases List.mem_cons.1 hmem with rfl | hchild
  · exact Option.some_ne_none _ ∘ Eq.symm
  · obtain ⟨child, hin, rfl⟩ := List.mem_map.1 hchild
    have hnodup := h.branch hbranch
    rw [Branch.nodes, List.map_cons, List.nodup_cons] at hnodup
    intro hself
    have hpath : branch.root.path = child.path := Option.some.inj hself
    exact hnodup.1 (hpath ▸ List.mem_map_of_mem hin)

/-- The devices that a path holds are the partitions of the device there. -/
theorem filter_holder_branch (path : String) (branch : Branch) :
    (branch.placed.filter fun placed => placed.holder = some path).map Placed.node =
      if branch.root.path = path then branch.children else [] := by
  unfold Branch.placed
  by_cases hroot : branch.root.path = path
  · simp [hroot, List.filter_map, Function.comp_def]
  · simp [hroot, List.filter_map, Function.comp_def]

/-- The partitions of the device at a path are the devices that it holds. -/
theorem UniquePaths.children_eq (h : tree.UniquePaths) (path : String) :
    tree.children path =
      (tree.placed.filter fun placed => placed.holder = some path).map Placed.node := by
  rw [h.children_eq_flatMap]
  simp only [placed, List.filter_flatMap, List.map_flatMap, filter_holder_branch]

/-- With a device goes what it holds. -/
theorem UniquePaths.departing_eq (h : tree.UniquePaths) (path : String) :
    tree.departing path = tree.children path ++ (tree.get? path).toList := by
  obtain ⟨branch, hbranch, rfl, hparts⟩ | ⟨hnone, hparts⟩ := departing_cases tree path
  · rw [hparts, h.children_root hbranch, h.get?_path (root_mem_nodes hbranch)]
    rfl
  · rw [hparts, children_of_not_root hnone]
    rfl

/-- A device that is taken away is told of last, after all that it holds, and just these go. -/
structure TakenAway (tree : Tree) (path : String) (after : Tree) (told : List Notification) :
    Prop where
  in_order : told =
    (tree.children path ++ (tree.get? path).toList).map fun node => .removed node.path
  once : told.Nodup
  nodes : after.nodes =
    tree.nodes.filter fun node => node ∉ tree.children path ++ (tree.get? path).toList

/-- Removal takes a device away with all that it holds, and tells of each. -/
theorem takenAway_remove (h : tree.UniquePaths) (path : String) :
    tree.TakenAway path (tree.remove path).1 (tree.remove path).2 where
  in_order := by rw [remove_events, h.departing_eq]
  once := by
    rw [remove_events, ← Function.comp_def, ← List.map_map]
    exact (h.departing path).map fun _ _ hsame => Notification.removed.inj hsame
  nodes := by
    rw [nodes_remove h, ← h.departing_eq]
    refine List.filter_congr fun node hnode => ?_
    rw [decide_eq_decide, h.path_mem_departing_iff hnode]

/-! ## Changing -/

/-- The record of a device is replaced where its parent and its kind are the same, and nothing else
happens. -/
structure Replaced (tree : Tree) (record : Record) (after : Tree) : Prop where
  paths : after.paths = tree.paths
  children : after.children record.path = tree.children record.path
  node : after.get? record.path = (tree.get? record.path).map fun node =>
    if node.record.parentPath = record.parentPath ∧ node.record.kind = record.kind then
      { node with record := record }
    else node

/-- Another record changes no place. -/
theorem placed_update (tree : Tree) (record : Record) :
    (tree.update record.path fun node => { node with record := record }).placed =
      tree.placed.map (Placed.withRecord record) := by
  have hroot : ∀ node : Node, (if node.path = record.path then ({ node with record } : Node)
      else node).path = node.path := fun node => (⟨none, node⟩ : Placed).path_withRecord record
  simp only [placed, update, map, List.flatMap_map, List.map_flatMap]
  refine List.flatMap_congr fun branch _ => ?_
  simp [Branch.placed, Branch.map, hroot, Placed.withRecord]

/-- A change replaces the record of the device at its path, if any. -/
theorem replaced_change (h : tree.UniquePaths) (record : Record) :
    tree.Replaced record (tree.change record).1 := by
  obtain ⟨found, hget, hplace, -, hchange⟩ | ⟨hknown, hchange⟩ := change_cases tree record
  · have hplaced : (tree.change record).1.placed = tree.placed.map (Placed.withRecord record) := by
      rw [hchange, placed_update]
    refine ⟨?_, ?_, ?_⟩
    · rw [paths, paths, ← map_node_placed, ← map_node_placed, hplaced, List.map_map, List.map_map,
        List.map_map]
      exact List.map_congr_left fun placed _ => placed.path_withRecord record
    · rw [(h.change record).children_eq, h.children_eq, hplaced, List.filter_map, List.map_map]
      refine List.map_congr_left fun placed hmem => ?_
      -- what the device holds is at other paths than it
      obtain ⟨hin, hheld⟩ := List.mem_filter.1 hmem
      have hpath : placed.node.path ≠ record.path :=
        fun hpath => h.holder_ne hin (hpath ▸ of_decide_eq_true hheld)
      exact if_neg hpath
    · rw [hchange, get?_update (f := fun node => { node with record := record })
        (fun _ _ => rfl), if_pos rfl, hget]
      simp [hplace.parentPath, hplace.kind]
  · rw [hchange]
    refine ⟨rfl, rfl, ?_⟩
    cases hget : tree.get? record.path with
    | none => rfl
    | some node =>
      rw [Option.map_some]
      split
      · rename_i hsame
        rw [← hknown node hget ⟨path_of_get? hget, hsame.2, hsame.1⟩]
      · rfl

/-- A change disturbs no device that is away from its path. -/
theorem awayFrom_change (tree : Tree) (record : Record) :
    (tree.change record).1.placed.filter (Placed.awayFrom record.path) =
      tree.placed.filter (Placed.awayFrom record.path) := by
  obtain ⟨_, -, -, -, hchange⟩ | ⟨-, hchange⟩ := change_cases tree record
  · rw [hchange, placed_update, List.filter_map]
    have haway : Placed.awayFrom record.path ∘ Placed.withRecord record =
        Placed.awayFrom record.path := funext (Placed.awayFrom_withRecord record)
    rw [haway]
    refine (List.map_congr_left fun placed hmem => ?_).trans (List.map_id _)
    exact Placed.withRecord_of_awayFrom (List.mem_filter.1 hmem).2
  · rw [hchange]

/-! ## Every action -/

/-- A list is found again in a longer one of which it is a part. -/
theorem filter_mem_of_sublist {part whole : List String} (hpart : part.Sublist whole)
    (hwhole : whole.Nodup) : whole.filter (· ∈ part) = part := by
  have hinside : part.Sublist (whole.filter (· ∈ part)) := by
    have hall : part.filter (· ∈ part) = part :=
      List.filter_eq_self.2 fun _ hmem => decide_eq_true hmem
    have hfiltered := hpart.filter (· ∈ part)
    rwa [hall] at hfiltered
  have hperm : part.Perm (whole.filter (· ∈ part)) := by
    refine (List.perm_ext_iff_of_nodup (hwhole.sublist hpart) (hwhole.filter _)).2 fun path => ?_
    rw [List.mem_filter, decide_eq_true_iff]
    exact ⟨fun hmem => ⟨hpart.subset hmem, hmem⟩, And.right⟩
  exact (hinside.eq_of_length hperm.length_eq).symm

/-- Devices that are neither at a path nor held by the device there keep their record, their mount and
their holder, no others come, and all devices that stay are listed in the same order as before. -/
structure Undisturbed (tree : Tree) (path : String) (after : Tree) : Prop where
  others : after.placed.filter (Placed.awayFrom path) = tree.placed.filter (Placed.awayFrom path)
  order : tree.paths.filter (· ∈ after.paths) = after.paths.filter (· ∈ tree.paths)

/-- Devices that stay in a larger tree keep their order. -/
theorem order_of_sublist {after : Tree} (hafter : after.UniquePaths)
    (hsublist : tree.paths.Sublist after.paths) :
    tree.paths.filter (· ∈ after.paths) = after.paths.filter (· ∈ tree.paths) := by
  have hall : tree.paths.filter (· ∈ after.paths) = tree.paths :=
    List.filter_eq_self.2 fun _ hmem => decide_eq_true (hsublist.subset hmem)
  rw [hall, filter_mem_of_sublist hsublist hafter]

/-- Insertion disturbs no other device. -/
theorem undisturbed_insert (h : tree.UniquePaths) (record : Record) :
    tree.Undisturbed record.path (tree.insert record).1 := by
  cases hadmits : tree.admits record with
  | false =>
    rw [insert_of_not_admits hadmits]
    exact ⟨rfl, rfl⟩
  | true =>
    have happended := appended_insert h hadmits
    exact ⟨happended.awayFrom, order_of_sublist (h.insert record) happended.paths_sublist⟩

/-- Removal disturbs no other device. -/
theorem undisturbed_remove (h : tree.UniquePaths) (path : String) :
    tree.Undisturbed path (tree.remove path).1 := by
  constructor
  · rw [placed_remove h, List.filter_filter]
    simp only [Bool.and_self]
  · have hsublist : (tree.remove path).1.paths.Sublist tree.paths := by
      rw [paths, paths, nodes_remove h]
      exact List.filter_sublist.map _
    exact (order_of_sublist h hsublist).symm

/-- A change disturbs no other device. -/
theorem undisturbed_change (h : tree.UniquePaths) (record : Record) :
    tree.Undisturbed record.path (tree.change record).1 :=
  ⟨awayFrom_change tree record, by rw [(replaced_change h record).paths]⟩

/-- What becomes of the device that an action is about, and what is told of it. -/
def Outcome (tree : Tree) (record : Record) (after : Tree) (told : List Notification) :
    Device.Action → Prop
  | .add | .online => tree.LetIn record after told
  | .remove | .offline => tree.TakenAway record.path after told
  | .change => tree.Replaced record after

/-- An action leaves all devices alone that are neither at its path nor held by the device there, and
keeps the order of all that stay.  A device that is let in comes last of all or last on its disk; one
that is taken away goes after all that it holds, each told once; and a change replaces the record of a
device that keeps its parent and its kind, and leaves the listing, its mount and its partitions. -/
theorem apply_is_local (h : tree.Reachable) (record : Record) (action : Device.Action) :
    tree.Undisturbed record.path (tree.apply record action).1 ∧
      tree.Outcome record (tree.apply record action).1 (tree.apply record action).2 action := by
  have hpaths := h.wellFormed.paths
  cases action with
  | add | online => exact ⟨undisturbed_insert hpaths record, letIn_insert hpaths record⟩
  | remove | offline =>
    exact ⟨undisturbed_remove hpaths record.path, takenAway_remove hpaths record.path⟩
  | change => exact ⟨undisturbed_change hpaths record, replaced_change hpaths record⟩

/-- Of two sticks with partitions, the first goes while its partition is mounted. -/
theorem apply_is_local_of_sticks :
    let other : Record := ⟨"/dev/sdc", .stateless .sdCard, none⟩
    let tree := ((plugged.apply other .add).1.reconcile [⟨"/dev/sdb1", ⟨"/mnt", "rw"⟩⟩]).1
    tree.Reachable ∧
      tree.Undisturbed "/dev/sdb" (tree.apply .usbStick .remove).1 ∧
        tree.TakenAway "/dev/sdb" (tree.apply .usbStick .remove).1
          [.removed "/dev/sdb1", .removed "/dev/sdb"] := by
  intro other tree
  have hother : other.Built := .make (show Record.stateless? "/dev/sdc" .sdCard = .ok other from rfl)
  have htree : tree.Reachable := (plugged_reachable.apply .add hother).reconcile _
  obtain ⟨hothers, houtcome⟩ := apply_is_local htree .usbStick .remove
  have htold : (tree.apply .usbStick .remove).2 = [.removed "/dev/sdb1", .removed "/dev/sdb"] := by
    decide
  rw [htold] at houtcome
  exact ⟨htree, hothers, houtcome⟩

end Tree

end RemovableMedia
