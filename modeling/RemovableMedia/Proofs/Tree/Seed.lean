import RemovableMedia.Proofs.Tree.Invariant

/-!
# Trees of devices that are present

A tree that is filled with devices that stand on their own and then with partitions has a branch
for each of the former, and on each disk the partitions that name it (`seed_eq_planted`).  A
partition that finds no disk leaves the tree as it was, so it makes no difference when it comes.
-/

set_option autoImplicit false

namespace RemovableMedia

open RemovableMedia.Device (Record)

/-- Whether a device is a disk that a record names as its parent. -/
def Device.Record.carries (disk part : Record) : Bool :=
  disk.path == part.parentPath && disk.kind == .stateless

/-- A device carries a partition just if it is a disk at the path that the partition names. -/
theorem Device.Record.carries_iff {disk part : Record} :
    disk.carries part = true ↔ disk.path = part.parentPath ∧ disk.kind = .stateless := by
  simp [carries]

/-- The branch of a device that stands on its own, with those partitions that it carries. -/
def Branch.planted (parts : List Record) (root : Record) : Branch :=
  ⟨⟨root, none⟩, (parts.filter root.carries).map fun part => ⟨part, none⟩⟩

namespace Tree

/-- The tree after devices are brought in one after another. -/
def seed (tree : Tree) (records : List Record) : Tree :=
  records.foldl (fun tree record => (tree.apply record .add).1) tree

/-- The tree of devices that stand on their own and of partitions, which are on their disks. -/
def planted (roots parts : List Record) : Tree :=
  ⟨roots.map (Branch.planted parts)⟩

variable {roots parts : List Record} {node : Node} {record : Record}

/-- Devices are brought in one after another. -/
theorem seed_append (tree : Tree) (first later : List Record) :
    tree.seed (first ++ later) = (tree.seed first).seed later :=
  List.foldl_append

/-- Bringing in records that are built goes from reachable trees to reachable trees. -/
theorem Reachable.seed {tree : Tree} (h : tree.Reachable) {records : List Record}
    (hbuilt : ∀ record ∈ records, record.Built) : (tree.seed records).Reachable := by
  induction records generalizing tree with
  | nil => exact h
  | cons first rest ih =>
    obtain ⟨hfirst, hrest⟩ := List.forall_mem_cons.1 hbuilt
    exact ih (h.apply .add hfirst) hrest

/-! ## Devices of a planted tree -/

/-- The planted partitions of a device are those that it carries. -/
theorem mem_children_planted {root : Record} :
    node ∈ (Branch.planted parts root).children ↔
      ∃ part ∈ parts, root.carries part = true ∧ node = ⟨part, none⟩ := by
  simp only [Branch.planted, List.mem_map, List.mem_filter, and_assoc, eq_comm]

/-- What is planted are the devices on their own and the partitions that one of them carries. -/
theorem mem_nodes_planted :
    node ∈ (planted roots parts).nodes ↔
      ∃ root ∈ roots, node = ⟨root, none⟩ ∨
        ∃ part ∈ parts, root.carries part = true ∧ node = ⟨part, none⟩ := by
  rw [mem_nodes]
  constructor
  · rintro ⟨branch, hbranch, hnode⟩
    obtain ⟨root, hroot, rfl⟩ := List.mem_map.1 hbranch
    exact ⟨root, hroot, (List.mem_cons.1 hnode).imp_right mem_children_planted.1⟩
  · rintro ⟨root, hroot, hnode⟩
    exact ⟨_, List.mem_map_of_mem hroot,
      List.mem_cons.2 (hnode.imp_right mem_children_planted.2)⟩

/-- Without partitions, just the devices on their own are planted. -/
theorem nodes_planted_nil (roots : List Record) :
    (planted roots []).nodes = roots.map fun root => ⟨root, none⟩ := by
  rw [nodes, planted, List.flatMap_map, List.map_eq_flatMap]
  rfl

/-- A path that no record has is free. -/
theorem contains_planted_of_fresh (h : record.path ∉ (roots ++ parts).map Record.path) :
    (planted roots parts).contains record.path = false := by
  rw [contains, Option.isSome_eq_false_iff, Option.isNone_iff_eq_none, get?_eq_none_iff]
  intro node hnode hpath
  refine h (List.mem_map.2 ⟨node.record, ?_, hpath⟩)
  obtain ⟨root, hroot, rfl | ⟨part, hpart, -, rfl⟩⟩ := mem_nodes_planted.1 hnode
  · exact List.mem_append_left _ hroot
  · exact List.mem_append_right _ hpart

/-! ## Bringing devices in -/

/-- A device on its own is planted last where its path is free. -/
theorem insert_planted_root (hroot : record.isRoot = true)
    (hfresh : record.path ∉ roots.map Record.path) :
    ((planted roots []).insert record).1 = planted (roots ++ [record]) [] := by
  have hfree : (planted roots []).contains record.path = false :=
    contains_planted_of_fresh (by simpa using hfresh)
  rw [insert_of_isRoot (by simp [admits, hfree, hroot]) hroot]
  simp [planted, Branch.planted]

/-- A partition is put on the disk that carries it, if there is one. -/
theorem graft_planted (record : Record) :
    (planted roots parts).graft ⟨record, none⟩ = planted roots (parts ++ [record]) := by
  unfold graft planted
  rw [List.map_map]
  refine congrArg Tree.mk (List.map_congr_left fun root _ => ?_)
  have hholds : (Branch.planted parts root).holds record.parentPath = root.carries record := rfl
  rw [Function.comp_apply, hholds]
  cases hcarries : root.carries record <;>
    simp [Branch.planted, List.filter_append, hcarries]

/-- A partition whose disk is not there is not put anywhere. -/
theorem graft_of_not_holds {tree : Tree}
    (h : tree.branches.any (Branch.holds node.record.parentPath) = false) :
    tree.graft node = tree := by
  have hnone : ∀ branch ∈ tree.branches, branch.holds node.record.parentPath = false := by
    simpa using h
  refine congrArg Tree.mk ((List.map_congr_left fun branch hbranch => ?_).trans (List.map_id _))
  rw [hnone branch hbranch]
  rfl

/-- A partition is planted last on its disk, if it is there, where its path is free. -/
theorem insert_planted_part (hpart : record.isRoot = false)
    (hfresh : record.path ∉ (roots ++ parts).map Record.path) :
    ((planted roots parts).insert record).1 = planted roots (parts ++ [record]) := by
  have hfree := contains_planted_of_fresh hfresh
  cases hdisk : (planted roots parts).branches.any (Branch.holds record.parentPath) with
  | true =>
    have hadmits : (planted roots parts).admits record = true := by
      simp [admits, hfree, hdisk]
    rw [(insert_of_not_isRoot hadmits hpart).2]
    exact graft_planted record
  | false =>
    have hadmits : (planted roots parts).admits record = false := by
      simp [admits, hdisk, hpart]
    -- no disk carries it, so that it changes neither the tree nor what is planted
    rw [insert_of_not_admits hadmits, ← graft_planted record]
    exact (graft_of_not_holds hdisk).symm

/-- Devices on their own are planted one after another. -/
theorem seed_roots {more : List Record} (hroots : ∀ record ∈ more, record.isRoot = true)
    (hpaths : ((roots ++ more).map Record.path).Nodup) :
    (planted roots []).seed more = planted (roots ++ more) [] := by
  induction more generalizing roots with
  | nil => simp [seed]
  | cons first rest ih =>
    obtain ⟨hfirst, hrest⟩ := List.forall_mem_cons.1 hroots
    have hfresh : first.path ∉ roots.map Record.path := by
      grind
    have hinsert := insert_planted_root hfirst hfresh
    rw [List.append_cons] at hpaths ⊢
    rw [← ih hrest hpaths, ← hinsert]
    rfl

/-- Partitions are planted one after another. -/
theorem seed_parts {more : List Record} (hparts : ∀ record ∈ more, record.isRoot = false)
    (hpaths : ((roots ++ (parts ++ more)).map Record.path).Nodup) :
    (planted roots parts).seed more = planted roots (parts ++ more) := by
  induction more generalizing parts with
  | nil => simp [seed]
  | cons first rest ih =>
    obtain ⟨hfirst, hrest⟩ := List.forall_mem_cons.1 hparts
    have hfresh : first.path ∉ (roots ++ parts).map Record.path := by
      grind
    have hinsert := insert_planted_part hfirst hfresh
    rw [List.append_cons] at hpaths ⊢
    rw [← ih hrest hpaths, ← hinsert]
    rfl

/-- Devices that stand on their own and then partitions fill the tree as they should. -/
theorem seed_eq_planted (hroots : ∀ record ∈ roots, record.isRoot = true)
    (hparts : ∀ record ∈ parts, record.isRoot = false)
    (hpaths : ((roots ++ parts).map Record.path).Nodup) :
    Tree.empty.seed (roots ++ parts) = planted roots parts := by
  have hempty : Tree.empty = planted [] [] := rfl
  have hdistinct : (roots.map Record.path).Nodup := by
    rw [List.map_append] at hpaths
    exact hpaths.of_append_left
  have hfilled : (planted [] []).seed roots = planted roots [] := seed_roots hroots hdistinct
  rw [seed_append, hempty, hfilled]
  exact seed_parts hparts hpaths

end Tree

end RemovableMedia
