import RemovableMedia.Device.Event
import RemovableMedia.Proofs.Tree.Operations

/-!
# Devices without their mounts

What comes and goes does not depend on what is mounted.  An action does the same to the devices of
a tree whatever is believed of their mounts, and tells of the same arrivals and departures
(`SameDevices.apply`); of mounts only the description of a changed device speaks.  Taking over a
mount table leaves the devices alone and forgets what was believed before
(`SameDevices.reconcile_eq`).
-/

set_option autoImplicit false

namespace RemovableMedia

/-- Whether it is told that a device came or went. -/
def Notification.isPresence : Notification → Bool
  | added _ | removed _ => true
  | _ => false

/-- A device as if it were not mounted. -/
def Node.bare (node : Node) : Node :=
  { node with mount := none }

namespace Tree

open RemovableMedia.Device (Record)

variable {tree first second : Tree}

/-- The tree as if nothing were mounted. -/
def bare (tree : Tree) : Tree :=
  tree.map Node.bare

/-- Changing devices twice is changing them once by both. -/
theorem map_map (f g : Node → Node) (tree : Tree) : (tree.map f).map g = tree.map (g ∘ f) := by
  simp [map, Branch.map]

/-- A change that does not look at mounts may be done without them. -/
theorem map_bare {f : Node → Node} (hf : ∀ node : Node, f node.bare = f node) (tree : Tree) :
    tree.bare.map f = tree.map f := by
  rw [bare, map_map]
  exact map_congr fun node _ => hf node

/-- A change of mounts does not show where they are left out. -/
theorem bare_map {f : Node → Node} (hf : ∀ node, (f node).record = node.record) (tree : Tree) :
    (tree.map f).bare = tree.bare := by
  rw [bare, map_map]
  refine map_congr fun node _ => ?_
  rw [Function.comp_apply, Node.bare, Node.bare, hf]

/-- A device is found without its mount. -/
theorem get?_bare (tree : Tree) (path : String) :
    tree.bare.get? path = (tree.get? path).map Node.bare :=
  get?_map (f := Node.bare) (fun _ => rfl) tree path

/-- Mounts do not matter for which paths are there. -/
theorem contains_bare (tree : Tree) (path : String) :
    tree.bare.contains path = tree.contains path := by
  rw [contains, get?_bare, Option.isSome_map, contains]

/-! ## Actions -/

/-- Mounts do not matter for where a device is put. -/
theorem graft_bare (tree : Tree) (record : Record) :
    tree.bare.graft ⟨record, none⟩ = (tree.graft ⟨record, none⟩).bare := by
  simp only [bare, graft, map, List.map_map]
  congr 1
  refine List.map_congr_left fun branch _ => ?_
  have hholds : (branch.map Node.bare).holds record.parentPath =
      branch.holds record.parentPath := rfl
  simp only [Function.comp_apply, hholds]
  split
  · simp [Branch.map, Node.bare]
  · rfl

/-- Mounts do not matter for which devices are let in. -/
theorem admits_bare (tree : Tree) (record : Record) :
    tree.bare.admits record = tree.admits record := by
  have hany : tree.bare.branches.any (Branch.holds record.parentPath) =
      tree.branches.any (Branch.holds record.parentPath) := by
    rw [bare, map, List.any_map]
    rfl
  rw [admits, contains_bare, hany, admits]

/-- Mounts do not matter for what comes in. -/
theorem insert_bare (tree : Tree) (record : Record) :
    tree.bare.insert record = ((tree.insert record).1.bare, (tree.insert record).2) := by
  cases hadmits : tree.admits record with
  | false =>
    rw [insert_of_not_admits hadmits, insert_of_not_admits ((admits_bare tree record).trans hadmits)]
  | true =>
    have hbare := (admits_bare tree record).trans hadmits
    cases hroot : record.isRoot with
    | true =>
      rw [insert_of_isRoot hadmits hroot, insert_of_isRoot hbare hroot]
      simp [bare, map, Branch.map, Node.bare]
    | false =>
      rw [(insert_of_not_isRoot hadmits hroot).2, (insert_of_not_isRoot hbare hroot).2, graft_bare]

/-- Mounts do not matter for what goes. -/
theorem remove_bare (tree : Tree) (path : String) :
    tree.bare.remove path = ((tree.remove path).1.bare, (tree.remove path).2) := by
  have hfind : (tree.bare.branches.find? fun branch => branch.root.path = path) =
      (tree.branches.find? fun branch => branch.root.path = path).map (Branch.map Node.bare) := by
    rw [bare, map, List.find?_map]
    rfl
  unfold remove
  rw [hfind, contains_bare]
  cases tree.branches.find? fun branch => branch.root.path = path with
  | some branch =>
    simp only [Option.map_some, bare, map, Branch.map, List.filter_map, List.map_map]
    rfl
  | none =>
    simp only [Option.map_none]
    split
    · simp only [bare, map, Branch.map, List.map_map, Function.comp_def, List.filter_map]
      rfl
    · rfl

/-- No device comes or goes by a change. -/
theorem change_presence (tree : Tree) (record : Record) :
    (tree.change record).2.filter Notification.isPresence = [] := by
  obtain ⟨node, -, -, -, hchange⟩ | ⟨-, hchange⟩ := change_cases tree record <;>
    · rw [hchange]
      rfl

/-- Mounts do not matter for a change of the records. -/
theorem update_bare {f : Node → Node} (hf : ∀ node : Node, f node.bare = (f node).bare)
    (tree : Tree) (path : String) : tree.bare.update path f = (tree.update path f).bare := by
  rw [update, bare, map_map, update, bare, map_map]
  refine map_congr fun node _ => ?_
  by_cases hpath : node.path = path
  · have hbare : node.bare.path = path := hpath
    rw [Function.comp_apply, Function.comp_apply, if_pos hpath, if_pos hbare, hf]
  · have hbare : node.bare.path ≠ path := hpath
    rw [Function.comp_apply, Function.comp_apply, if_neg hpath, if_neg hbare]

/-- Mounts do not matter for what a change makes of the devices. -/
theorem change_bare (tree : Tree) (record : Record) :
    (tree.bare.change record).1 = (tree.change record).1.bare := by
  have hget := get?_bare tree record.path
  unfold change
  rw [hget]
  cases tree.get? record.path with
  | none => rfl
  | some node =>
    simp only [Option.map_some, Node.bare]
    split
    · rfl
    · split
      · rfl
      · split
        · rfl
        · exact update_bare (f := fun node => { node with record }) (fun _ => rfl) tree record.path

/-! ## Trees with the same devices -/

/-- Two trees with the same devices in the same places, perhaps mounted in another way. -/
def SameDevices (first second : Tree) : Prop :=
  first.bare = second.bare

/-- Mounts do not matter for which devices an action leaves and which it lets come and go. -/
theorem apply_bare (tree : Tree) (record : Record) (action : Device.Action) :
    (tree.bare.apply record action).1 = (tree.apply record action).1.bare ∧
      (tree.bare.apply record action).2.filter Notification.isPresence =
        (tree.apply record action).2.filter Notification.isPresence := by
  obtain hinsert | hremoval | rfl := effect_cases action
  · rw [apply_of_isInsert hinsert, apply_of_isInsert hinsert, insert_bare]
    exact ⟨rfl, rfl⟩
  · rw [apply_of_isRemoval hremoval, apply_of_isRemoval hremoval, remove_bare]
    exact ⟨rfl, rfl⟩
  · exact ⟨change_bare tree record,
      (change_presence tree.bare record).trans (change_presence tree record).symm⟩

/-- Trees with the same devices have the same devices after an action, which come and go alike. -/
theorem SameDevices.apply (h : first.SameDevices second) (record : Record)
    (action : Device.Action) :
    (first.apply record action).1.SameDevices (second.apply record action).1 ∧
      (first.apply record action).2.filter Notification.isPresence =
        (second.apply record action).2.filter Notification.isPresence := by
  obtain ⟨hfirst, htoldFirst⟩ := apply_bare first record action
  obtain ⟨hsecond, htoldSecond⟩ := apply_bare second record action
  have hbare : first.bare = second.bare := h
  constructor
  · rw [SameDevices, ← hfirst, ← hsecond, hbare]
  · rw [← htoldFirst, ← htoldSecond, hbare]

/-! ## Taking over a table -/

/-- No device comes or goes by reconciliation. -/
theorem reconcile_presence (tree : Tree) (table : Mount.Table) :
    (tree.reconcile table).2.filter Notification.isPresence = [] := by
  rw [reconcile_eq, List.filter_flatMap, List.flatMap_eq_nil_iff]
  intro node _
  obtain ⟨hnews, -⟩ | ⟨_, hnews, -⟩ | ⟨_, hnews, -⟩ | ⟨_, _, hnews, -⟩ := news_cases table node <;>
    · rw [hnews]
      rfl

/-- Reconciliation leaves the devices as they are. -/
theorem sameDevices_reconcile (tree : Tree) (table : Mount.Table) :
    (tree.reconcile table).1.SameDevices tree := by
  rw [reconcile_eq]
  exact bare_map (f := Node.reconciled table) (fun _ => rfl) tree

/-- After a table is taken over, nothing is left of what was believed of mounts. -/
theorem SameDevices.reconcile_eq (h : first.SameDevices second) (table : Mount.Table) :
    (first.reconcile table).1 = (second.reconcile table).1 := by
  have hforgets (tree : Tree) :
      (tree.reconcile table).1 = tree.bare.map (Node.reconciled table) := by
    rw [Tree.reconcile_eq]
    exact (map_bare (fun _ => rfl) tree).symm
  rw [hforgets, hforgets, h]

/-! ## Actions one after another -/

/-- What events do to a tree one after another, and what is told of it. -/
def applyAll (tree : Tree) : List Device.Event → Tree × List Notification
  | [] => (tree, [])
  | event :: rest =>
    let (next, told) := tree.apply event.record event.action
    let (last, later) := next.applyAll rest
    (last, told ++ later)

/-- Events are applied one after another. -/
theorem applyAll_append (tree : Tree) (earlier later : List Device.Event) :
    tree.applyAll (earlier ++ later) =
      (((tree.applyAll earlier).1.applyAll later).1,
        (tree.applyAll earlier).2 ++ ((tree.applyAll earlier).1.applyAll later).2) := by
  induction earlier generalizing tree with
  | nil => rfl
  | cons event rest ih => simp only [List.cons_append, applyAll, ih, List.append_assoc]

/-- Trees with the same devices have the same devices after events, which come and go alike. -/
theorem SameDevices.applyAll (h : first.SameDevices second) (events : List Device.Event) :
    (first.applyAll events).1.SameDevices (second.applyAll events).1 ∧
      (first.applyAll events).2.filter Notification.isPresence =
        (second.applyAll events).2.filter Notification.isPresence := by
  induction events generalizing first second with
  | nil => exact ⟨h, rfl⟩
  | cons event rest ih =>
    obtain ⟨hnext, htold⟩ := h.apply event.record event.action
    obtain ⟨hlast, hlater⟩ := ih hnext
    refine ⟨hlast, ?_⟩
    simp only [Tree.applyAll, List.filter_append, htold, hlater]

/-- Applies events that come together, and takes over a table after them. -/
def absorb (table : Mount.Table) (tree : Tree) (events : List Device.Event) :
    Tree × List Notification :=
  let (applied, told) := tree.applyAll events
  let (reconciled, drift) := applied.reconcile table
  (reconciled, told ++ drift)

/-- Applies events batch by batch, and takes over a table after each batch. -/
def absorbAll (table : Mount.Table) (tree : Tree) :
    List (List Device.Event) → Tree × List Notification
  | [] => (tree, [])
  | batch :: rest =>
    let (next, told) := tree.absorb table batch
    let (last, later) := next.absorbAll table rest
    (last, told ++ later)

/-- The devices and what is told of them are those of the events in one row. -/
theorem absorbAll_sameDevices (table : Mount.Table) (tree : Tree)
    (batches : List (List Device.Event)) :
    (tree.absorbAll table batches).1.SameDevices (tree.applyAll batches.flatten).1 ∧
      (tree.absorbAll table batches).2.filter Notification.isPresence =
        (tree.applyAll batches.flatten).2.filter Notification.isPresence := by
  induction batches generalizing tree with
  | nil => exact ⟨rfl, rfl⟩
  | cons batch rest ih =>
    let applied := tree.applyAll batch
    obtain ⟨hrest, htold⟩ := ih (applied.1.reconcile table).1
    obtain ⟨hlast, hlater⟩ :=
      (sameDevices_reconcile applied.1 table).applyAll rest.flatten
    rw [List.flatten_cons, applyAll_append]
    refine ⟨hrest.trans hlast, ?_⟩
    simp only [absorbAll, absorb, List.filter_append, reconcile_presence, List.append_nil]
    rw [htold, hlater]

/-- However events are cut into batches, the tree is that of all events in one row with the table
taken over at the end. -/
theorem absorbAll_eq (table : Mount.Table) (tree : Tree) {batches : List (List Device.Event)}
    (hsome : [] ∉ batches) :
    (tree.absorbAll table batches).1 =
      if batches.flatten = [] then tree
      else ((tree.applyAll batches.flatten).1.reconcile table).1 := by
  induction batches generalizing tree with
  | nil => rfl
  | cons batch rest ih =>
    rw [List.mem_cons, not_or] at hsome
    let applied := (tree.applyAll batch).1
    have hlast : (tree.absorbAll table (batch :: rest)).1 = _ :=
      ih (applied.reconcile table).1 hsome.2
    have hflatten : (batch :: rest).flatten ≠ [] :=
      List.append_ne_nil_of_left_ne_nil (Ne.symm hsome.1) _
    rw [if_neg hflatten, hlast, List.flatten_cons, applyAll_append]
    split
    · rename_i hrest
      rw [hrest]
      rfl
    · -- The table that was taken over after the first batch makes no difference later.
      obtain ⟨hsame, -⟩ := (sameDevices_reconcile applied table).applyAll rest.flatten
      exact hsame.reconcile_eq table

end Tree

end RemovableMedia
