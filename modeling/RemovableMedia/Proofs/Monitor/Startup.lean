import RemovableMedia.Proofs.Monitor.Consumer
import RemovableMedia.Proofs.Tree.Seed
import RemovableMedia.Proofs.Udev.Listing

/-!
# The devices at the start

A source lists what is present, the monitor lets through what is news, and the event loop brings
that into a fresh tree.  Since the listing has the disks before the partitions, what the monitor
holds back are just the partitions without a disk, and the tree has every other device in the order
of the paths (`start_loses_nothing`).  The order in which the devices were found makes no
difference.
-/

set_option autoImplicit false

namespace RemovableMedia.Monitor

open RemovableMedia.Device (Record)
open RemovableMedia.Mount (Orchestrator)
open RemovableMedia.Server (Loop)

/-- A tree has the devices that were present, none of them mounted, in the order of their paths. -/
structure Stocked (records : List Record) (tree : Tree) : Prop where
  /-- Just the devices that are no partitions stand on their own. -/
  root_iff : ∀ node, node ∈ tree.branches.map Branch.root ↔
    ∃ record ∈ records, record.kind ≠ .partition ∧ node = ⟨record, none⟩
  roots_sorted : (tree.branches.map fun branch => branch.root.path).Pairwise (· < ·)
  /-- A disk has just the partitions that name it, and no other device has any. -/
  child_iff : ∀ branch ∈ tree.branches, ∀ node, node ∈ branch.children ↔
    ∃ record ∈ records, record.kind = .partition ∧ record.parentPath = branch.root.path ∧
      branch.root.record.kind = .stateless ∧ node = ⟨record, none⟩
  children_sorted : ∀ branch ∈ tree.branches, (branch.children.map Node.path).Pairwise (· < ·)
  /-- Just the partitions are missing of which no disk was found. -/
  missing_iff : ∀ record ∈ records, tree.contains record.path = false ↔
    record.kind = .partition ∧
      ∀ disk ∈ records, disk.kind = .stateless → disk.path ≠ record.parentPath

/-! ## What the monitor lets through -/

/-- News of added devices plant them one after another. -/
theorem applyItems_add (tree : Tree) (records : List Record) :
    (Loop.applyItems tree (records.map fun record => .news ⟨.add, record⟩)).1 =
      tree.seed records := by
  induction records generalizing tree with
  | nil => rfl
  | cons first rest ih => exact ih (tree.apply first .add).1

/-- What the monitor holds back at the start would not get into the tree. -/
theorem seed_admitAll {records : List Record} (hbuilt : ∀ record ∈ records, record.Built) :
    Tree.empty.seed (Shadow.admitAll [] records).1 = Tree.empty.seed records := by
  -- the shadow is as empty as the tree and tracks it, so it holds back just what the tree refuses
  let events := records.map fun record => (⟨.add, record⟩ : Device.Event)
  have hevents : ∀ event ∈ events, event.record.Built := by
    simpa [events] using hbuilt
  obtain ⟨hsame, -, -⟩ := Shadow.tracks_empty.relay .empty hevents
  have hnews : (Shadow.relay [] events).1 =
      (Shadow.admitAll [] records).1.map fun record => ⟨.add, record⟩ := by
    rw [Shadow.relay_add]
  rw [hnews, List.map_map, List.map_map] at hsame
  rw [← applyItems_add, ← applyItems_add]
  exact congrArg Prod.fst hsame

/-! ## The tree of a listing -/

variable {records : List Record}

/-- The listed roots are the records that are no partitions. -/
theorem mem_listedRoots (hbuilt : ∀ record ∈ records, record.Built) {record : Record} :
    record ∈ Udev.listedRoots records ↔ record ∈ records ∧ record.kind ≠ .partition := by
  rw [Udev.listedRoots, List.mem_filter, Udev.mem_inListingOrder]
  exact and_congr_right fun hmem => (hbuilt record hmem).isRoot_iff

/-- The listed partitions are the records that are partitions. -/
theorem mem_listedParts (hbuilt : ∀ record ∈ records, record.Built) {record : Record} :
    record ∈ Udev.listedParts records ↔ record ∈ records ∧ record.kind = .partition := by
  rw [Udev.listedParts, List.mem_filter, Udev.mem_inListingOrder]
  refine and_congr_right fun hmem => ?_
  rw [Bool.not_eq_true', ← Bool.not_eq_true, (hbuilt record hmem).isRoot_iff, not_not]

/-- Devices in the order of the listing plant the roots with their partitions. -/
theorem seed_inListingOrder (hpaths : (records.map Record.path).Nodup) :
    Tree.empty.seed (Udev.inListingOrder records) =
      .planted (Udev.listedRoots records) (Udev.listedParts records) := by
  have hdistinct := Udev.nodup_inListingOrder hpaths
  rw [Udev.inListingOrder_eq] at hdistinct ⊢
  refine Tree.seed_eq_planted ?_ ?_ hdistinct
  · intro record hmem
    exact (List.mem_filter.1 hmem).2
  · intro record hmem
    simpa using (List.mem_filter.1 hmem).2

/-- Just a partition whose disk is not listed is missing from what is planted. -/
theorem missing_planted_iff (hbuilt : ∀ record ∈ records, record.Built)
    (hpaths : (records.map Record.path).Nodup) {record : Record} (hrecord : record ∈ records) :
    (Tree.planted (Udev.listedRoots records) (Udev.listedParts records)).contains record.path =
        false ↔
      record.kind = .partition ∧
        ∀ disk ∈ records, disk.kind = .stateless → disk.path ≠ record.parentPath := by
  rw [Tree.contains, Option.isSome_eq_false_iff, Option.isNone_iff_eq_none, Tree.get?_eq_none_iff]
  constructor
  · intro hfree
    have hkind : record.kind = .partition := by
      by_contra hkind
      have hroot := (mem_listedRoots hbuilt).2 ⟨hrecord, hkind⟩
      exact hfree ⟨record, none⟩ (Tree.mem_nodes_planted.2 ⟨record, hroot, .inl rfl⟩) rfl
    refine ⟨hkind, fun disk hdisk hstateless hparent => ?_⟩
    have hroot := (mem_listedRoots hbuilt).2 ⟨hdisk, by rw [hstateless]; decide⟩
    have hpart := (mem_listedParts hbuilt).2 ⟨hrecord, hkind⟩
    have hcarries := Record.carries_iff.2 ⟨hparent, hstateless⟩
    exact hfree ⟨record, none⟩
      (Tree.mem_nodes_planted.2 ⟨disk, hroot, .inr ⟨record, hpart, hcarries, rfl⟩⟩) rfl
  · rintro ⟨hkind, hnone⟩ node hnode hpath
    -- paths are distinct, so a node with this path has this record
    obtain ⟨root, hroot, rfl | ⟨part, hpart, hcarries, rfl⟩⟩ := Tree.mem_nodes_planted.1 hnode
    · obtain ⟨hroot, hother⟩ := (mem_listedRoots hbuilt).1 hroot
      obtain rfl := Keyed.eq_of_key_eq hpaths hroot hrecord hpath
      exact hother hkind
    · obtain ⟨hpart, -⟩ := (mem_listedParts hbuilt).1 hpart
      obtain ⟨hroot, -⟩ := (mem_listedRoots hbuilt).1 hroot
      obtain rfl := Keyed.eq_of_key_eq hpaths hpart hrecord hpath
      obtain ⟨hparent, hstateless⟩ := Record.carries_iff.1 hcarries
      exact hnone root hroot hstateless hparent

/-- What is planted has the roots, the partitions and the missing ones that the listing calls for.
-/
theorem stocked_planted (hbuilt : ∀ record ∈ records, record.Built)
    (hpaths : (records.map Record.path).Nodup) :
    Stocked records (.planted (Udev.listedRoots records) (Udev.listedParts records)) where
  root_iff node := by
    simp only [Tree.planted, List.map_map, List.mem_map, Function.comp_apply, Branch.planted,
      mem_listedRoots hbuilt, and_assoc, eq_comm]
  roots_sorted := by
    rw [Tree.planted, List.map_map]
    exact Udev.pairwise_path_filter hpaths Record.isRoot fun _ => id
  child_iff branch hbranch node := by
    obtain ⟨root, -, rfl⟩ := List.mem_map.1 hbranch
    simp only [Tree.mem_children_planted, mem_listedParts hbuilt, Record.carries_iff, and_assoc]
    refine exists_congr fun part => and_congr_right fun _ => and_congr_right fun _ => ?_
    exact and_congr_left' eq_comm
  children_sorted branch hbranch := by
    obtain ⟨root, -, rfl⟩ := List.mem_map.1 hbranch
    have hparts : ∀ record : Record, (!record.isRoot) = true → record.isRoot = false := by simp
    have hsorted := Udev.pairwise_path_filter hpaths _ hparts
    rw [Branch.planted, List.map_map]
    exact hsorted.sublist (List.filter_sublist.map _)
  missing_iff _ := missing_planted_iff hbuilt hpaths

/-- Devices that were found in any order are listed, pass the monitor and get into a fresh tree,
from which the event loop starts.  The tree is the same for all orders.  It has the devices that are
no partitions in the order of their paths, on each disk the partitions that name it in the order of
their paths, and just the partitions are missing of which no disk was found. -/
theorem start_loses_nothing {σ : Type} (orchestrator : Orchestrator σ) (files : FileTree)
    (mounts : σ) (hbuilt : ∀ record ∈ records, record.Built)
    (hpaths : (records.map Record.path).Nodup) :
    ∃ tree : Tree, tree.Reachable ∧ Stocked records tree ∧
      ∀ found : List Record, found.Perm records → ∃ present started,
        (create (.start (Udev.inListingOrder found) [])).register.2.start =
          (.ok present, started) ∧
        Tree.empty.seed present = tree ∧
        Loop.seeded orchestrator files mounts present =
          (Loop.reconcile orchestrator ⟨⟨tree, files, mounts⟩, .empty⟩).2 := by
  have hlisted : ∀ record ∈ Udev.inListingOrder records, record.Built :=
    fun record hmem => hbuilt record (Udev.mem_inListingOrder.1 hmem)
  have hseed := (seed_admitAll hlisted).trans (seed_inListingOrder hpaths)
  refine ⟨_, ?_, stocked_planted hbuilt hpaths, fun found hfound => ?_⟩
  · rw [← seed_inListingOrder hpaths]
    exact Tree.Reachable.empty.seed hlisted
  · obtain ⟨started, hstart, -⟩ := start_create (Udev.inListingOrder records)
    rw [Udev.inListingOrder_eq_of_perm hfound hpaths]
    refine ⟨_, started, hstart, hseed, ?_⟩
    rw [← hseed]
    rfl

/-- A stick and its partition are found, and an optical drive with a partition that names it. -/
theorem start_loses_nothing_of_drive :
    let drive : Record := ⟨"/dev/sr0", .stateful .cdrom .ok none none, none⟩
    let session : Record := ⟨"/dev/sr0p1", .partition "/dev/sr0" none none, none⟩
    let records := [session, .usbPartition, drive, .usbStick]
    (∀ record ∈ records, record.Built) ∧ (records.map Record.path).Nodup ∧
      ∃ tree : Tree, tree.contains "/dev/sdb1" = true ∧ tree.contains "/dev/sr0p1" = false ∧
        ∀ found : List Record, found.Perm records → ∃ present started,
          (create (.start (Udev.inListingOrder found) [])).register.2.start =
            (.ok present, started) ∧
          Tree.empty.seed present = tree := by
  intro drive session records
  have hdrive : drive.Built :=
    .make (show Record.stateful? "/dev/sr0" .cdrom .ok none none = .ok drive from rfl)
  have hsession : session.Built :=
    .make (show Record.partition? "/dev/sr0p1" "/dev/sr0" none none = .ok session from rfl)
  have hbuilt : ∀ record ∈ records, record.Built := by
    simp [records, hdrive, hsession, Record.usbStick_built, Record.usbPartition_built]
  have hpaths : (records.map Record.path).Nodup := by decide
  obtain ⟨tree, -, hstocked, hall⟩ :=
    start_loses_nothing Mount.Rehearsal.orchestrator .empty (.start true) hbuilt hpaths
  have hthere : ¬ tree.contains "/dev/sdb1" = false := by
    refine mt (hstocked.missing_iff .usbPartition (by simp [records])).1 ?_
    decide
  have hmissing : tree.contains "/dev/sr0p1" = false := by
    refine (hstocked.missing_iff session (by simp [records])).2 ?_
    decide
  refine ⟨hbuilt, hpaths, tree, by simpa using hthere, hmissing, fun found hfound => ?_⟩
  obtain ⟨present, started, hstart, hseed, -⟩ := hall found hfound
  exact ⟨present, started, hstart, hseed⟩

end RemovableMedia.Monitor
