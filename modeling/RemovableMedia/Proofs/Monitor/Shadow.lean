import RemovableMedia.Monitor.Shadow
import RemovableMedia.Proofs.Tree.Invariant

/-!
# The monitor's memory and the tree

The monitor decides what is news from a list of paths with their kinds and parents, and the tree
decides from its branches.  While the two know the same devices (`Tracks`), they decide alike:
what the monitor lets through keeps them in step (`Tracks.accept`), and what it holds back would
change nothing in the tree (`Tracks.apply_of_reject`).
-/

set_option autoImplicit false

namespace RemovableMedia.Monitor.Shadow

open RemovableMedia.Device (Record)

/-- What is remembered of the devices of a tree. -/
def ofTree (tree : Tree) : Shadow :=
  tree.nodes.map fun node => .ofRecord node.record

/-- Just the devices of a tree are remembered. -/
def Tracks (shadow : Shadow) (tree : Tree) : Prop :=
  List.Perm shadow (ofTree tree)

/-- What is remembered of a tree has its paths. -/
theorem map_path_ofTree (tree : Tree) :
    (ofTree tree).map Known.path = tree.nodes.map Node.path := by
  unfold ofTree
  rw [List.map_map]
  rfl

/-- With nothing remembered the empty tree is tracked. -/
theorem tracks_empty : Tracks [] .empty :=
  List.Perm.refl _

/-- A device that comes is news if it is admitted. -/
theorem accept_of_isInsert {shadow next : Shadow} {event : Device.Event}
    (h : event.action.isInsert = true) :
    shadow.accept event = some next ↔
      shadow.admits event.record = true ∧ shadow ++ [.ofRecord event.record] = next := by
  obtain ⟨action, record⟩ := event
  cases action with
  | add => simp [accept]
  | online => simp [accept]
  | remove => cases h
  | offline => cases h
  | change => cases h

namespace Tracks

variable {shadow : Shadow} {tree : Tree}

/-! ## Where the two decide alike -/

/-- A path is known exactly if a device is there, and with its kind and parent. -/
theorem find?_eq (h : shadow.Tracks tree) (hpaths : tree.UniquePaths) (path : String) :
    shadow.find? path = (tree.get? path).map fun node => .ofRecord node.record := by
  have hnodup : (List.map Known.path shadow).Nodup :=
    (h.map Known.path).nodup_iff.2 (map_path_ofTree tree ▸ hpaths)
  unfold find?
  rw [Keyed.find?_eq_of_perm hnodup h fun known => beq_iff_eq, ofTree, List.find?_map,
    Tree.get?_eq_find?]
  congr 2

/-- A disk is known exactly if it is in the tree. -/
theorem hasDisk_eq (h : shadow.Tracks tree) (hshape : tree.WellFormed) (path : String) :
    shadow.hasDisk path = tree.branches.any (Branch.holds path) := by
  unfold hasDisk
  rw [h.find?_eq hshape.paths, Bool.eq_iff_iff, List.any_eq_true]
  constructor
  · intro hdisk
    cases hget : tree.get? path with
    | none => simp [hget] at hdisk
    | some node =>
      simp only [hget, Option.map_some, Known.ofRecord, beq_iff_eq] at hdisk
      obtain ⟨branch, hbranch, hnode⟩ := Tree.mem_nodes.1 (Tree.mem_of_get? hget)
      rcases List.mem_cons.1 hnode with rfl | hchild
      · exact ⟨branch, hbranch, Tree.holds_iff.2 ⟨Tree.path_of_get? hget, hdisk⟩⟩
      · rw [(hshape.branches branch hbranch).child_kind node hchild] at hdisk
        cases hdisk
  · rintro ⟨branch, hbranch, hholds⟩
    obtain ⟨hpath, hkind⟩ := Tree.holds_iff.1 hholds
    have hget := hshape.paths.get?_eq_some_iff.2 ⟨Tree.root_mem_nodes hbranch, hpath⟩
    simp [hget, Known.ofRecord, hkind]

/-- The monitor admits a device exactly if the tree does. -/
theorem admits_eq (h : shadow.Tracks tree) (hshape : tree.WellFormed) (record : Record) :
    shadow.admits record = tree.admits record := by
  unfold admits Tree.admits Tree.contains
  rw [h.find?_eq hshape.paths, h.hasDisk_eq hshape, Option.isNone_map]
  cases tree.get? record.path <;> rfl

/-- The end of a device is news if the device is in the tree. -/
theorem accept_of_isRemoval (h : shadow.Tracks tree) (hshape : tree.WellFormed) {next : Shadow}
    {event : Device.Event} (hremoval : event.action.isRemoval = true) :
    shadow.accept event = some next ↔
      ∃ node, tree.get? event.record.path = some node ∧
        shadow.without (.ofRecord node.record) = next := by
  obtain ⟨action, record⟩ := event
  have hfind := h.find?_eq hshape.paths record.path
  cases action with
  | remove => simp [Shadow.accept, hfind]
  | offline => simp [Shadow.accept, hfind]
  | add => cases hremoval
  | online => cases hremoval
  | change => cases hremoval

/-- A change of a device is news if a device of its kind is in the tree. -/
theorem accept_of_change (h : shadow.Tracks tree) (hshape : tree.WellFormed) {next : Shadow}
    {event : Device.Event} (hchange : event.action = .change) :
    shadow.accept event = some next ↔
      (∃ node, tree.get? event.record.path = some node ∧
        node.record.kind = event.record.kind) ∧ shadow = next := by
  obtain ⟨action, record⟩ := event
  cases hchange
  simp only [Shadow.accept, h.find?_eq hshape.paths]
  cases tree.get? record.path with
  | none => simp
  | some node => simp [Known.ofRecord]

/-- The monitor forgets just what goes with a device. -/
theorem stays_iff (hshape : tree.WellFormed) {gone node : Node} (hgone : gone ∈ tree.nodes)
    (hnode : node ∈ tree.nodes) :
    (node.path != gone.path &&
        (gone.record.kind == .partition || node.record.parentPath != gone.path)) = true ↔
      node.path ∉ (tree.departing gone.path).map Node.path := by
  have hroot : gone.path ≠ Device.rootPath := (hshape.built gone hgone).path_ne_root
  rw [hshape.paths.path_mem_departing_iff hnode, hshape.mem_departing_iff hroot,
    and_iff_right hnode]
  by_cases hkind : gone.record.kind = .partition
  · have hparent := hshape.parentPath_ne_partition hnode hgone hkind
    simp [hkind, hparent]
  · simp [hkind]

/-! ## Staying in step -/

/-- A tree that is tracked is tracked with a device more that it admits. -/
theorem insert (h : shadow.Tracks tree) (hpaths : tree.UniquePaths) {record : Record}
    (hadmits : tree.admits record = true) :
    Tracks (shadow ++ [.ofRecord record]) (tree.insert record).1 := by
  have hnodes := (Tree.nodes_insert_perm hpaths hadmits).map fun node => Known.ofRecord node.record
  calc
    List.Perm (shadow ++ [.ofRecord record]) (.ofRecord record :: shadow) :=
      List.perm_append_singleton _ _
    List.Perm _ (.ofRecord record :: ofTree tree) := List.Perm.cons _ h
    List.Perm _ (ofTree (tree.insert record).1) := hnodes.symm

/-- A tree that is tracked is tracked without a device and those below it. -/
theorem remove (h : shadow.Tracks tree) (hshape : tree.WellFormed) {gone : Node}
    (hgone : gone ∈ tree.nodes) :
    Tracks (shadow.without (.ofRecord gone.record)) (tree.remove gone.path).1 := by
  have hkeep : ∀ node ∈ tree.nodes,
      (Known.path (.ofRecord node.record) != Known.path (.ofRecord gone.record) &&
        (Known.kind (.ofRecord gone.record) == .partition ||
          Known.parent (.ofRecord node.record) != Known.path (.ofRecord gone.record))) =
      decide (node.path ∉ (tree.departing gone.path).map Node.path) := by
    intro node hnode
    exact Bool.eq_iff_iff.2 ((stays_iff hshape hgone hnode).trans decide_eq_true_iff.symm)
  refine (h.filter _).trans ?_
  unfold ofTree
  rw [Tree.nodes_remove hshape.paths, List.filter_map]
  refine List.Perm.of_eq (congrArg _ ?_)
  exact List.filter_congr hkeep

/-- A change of a device's record changes nothing of what is remembered of it. -/
theorem change (h : shadow.Tracks tree) (hpaths : tree.UniquePaths) (record : Record) :
    shadow.Tracks (tree.change record).1 := by
  obtain ⟨found, hget, hplace, -, hchange⟩ | ⟨-, hchange⟩ := Tree.change_cases tree record
  · have hsame : ofTree (tree.change record).1 = ofTree tree := by
      rw [hchange]
      unfold ofTree Tree.update
      rw [Tree.nodes_map, List.map_map]
      refine List.map_congr_left fun node hnode => ?_
      by_cases hpath : node.path = record.path
      · obtain rfl := hpaths.eq_of_get? hget hnode hpath
        simp [hpath, Known.ofRecord, hplace.path, hplace.kind, hplace.parentPath]
      · simp [hpath]
    exact List.Perm.trans h (List.Perm.of_eq hsame.symm)
  · rwa [hchange]

/-- What the monitor lets through keeps it in step with the tree. -/
theorem accept (h : shadow.Tracks tree) (hshape : tree.WellFormed) {event : Device.Event}
    {next : Shadow} (haccept : shadow.accept event = some next) :
    next.Tracks (tree.apply event.record event.action).1 := by
  obtain hinsert | hremoval | hchange := Tree.effect_cases event.action
  · obtain ⟨hadmits, rfl⟩ := (accept_of_isInsert hinsert).1 haccept
    rw [Tree.apply_of_isInsert hinsert]
    exact h.insert hshape.paths (h.admits_eq hshape event.record ▸ hadmits)
  · obtain ⟨node, hget, rfl⟩ := (h.accept_of_isRemoval hshape hremoval).1 haccept
    rw [Tree.apply_of_isRemoval hremoval, ← Tree.path_of_get? hget]
    exact h.remove hshape (Tree.mem_of_get? hget)
  · obtain ⟨-, rfl⟩ := (h.accept_of_change hshape hchange).1 haccept
    rw [hchange]
    exact h.change hshape.paths event.record

/-- What the monitor holds back would be silent and would change nothing in the tree. -/
theorem apply_of_reject (h : shadow.Tracks tree) (hshape : tree.WellFormed)
    {event : Device.Event} (hreject : shadow.accept event = none) :
    tree.apply event.record event.action = (tree, []) := by
  have hnever : ∀ next, shadow.accept event ≠ some next := by simp [hreject]
  obtain hinsert | hremoval | hchange := Tree.effect_cases event.action
  · rw [Tree.apply_of_isInsert hinsert]
    refine Tree.insert_of_not_admits (Bool.eq_false_iff.2 fun hadmits => ?_)
    exact hnever _ ((accept_of_isInsert hinsert).2 ⟨h.admits_eq hshape _ ▸ hadmits, rfl⟩)
  · rw [Tree.apply_of_isRemoval hremoval]
    refine Tree.remove_of_get?_eq_none (Option.eq_none_iff_forall_ne_some.2 fun node hget => ?_)
    exact hnever _ ((h.accept_of_isRemoval hshape hremoval).2 ⟨node, hget, rfl⟩)
  · rw [hchange]
    obtain ⟨node, hget, hplace, -, -⟩ | ⟨-, hnothing⟩ := Tree.change_cases tree event.record
    · exact absurd ((h.accept_of_change hshape hchange).2 ⟨⟨node, hget, hplace.kind⟩, rfl⟩)
        (hnever shadow)
    · exact hnothing

/-! ## What is told -/

/-- A device that is let in is told of once. -/
theorem events_of_isInsert (h : shadow.Tracks tree) (hshape : tree.WellFormed)
    {event : Device.Event} {next : Shadow} (haccept : shadow.accept event = some next)
    (hinsert : event.action.isInsert = true) :
    (tree.apply event.record event.action).2 = [.added (.ofRecord event.record none)] := by
  obtain ⟨hadmits, -⟩ := (accept_of_isInsert hinsert).1 haccept
  rw [Tree.apply_of_isInsert hinsert]
  exact Tree.insert_events (h.admits_eq hshape event.record ▸ hadmits)

/-- Just what is forgotten is told to be gone. -/
theorem events_of_isRemoval (h : shadow.Tracks tree) (hshape : tree.WellFormed)
    {event : Device.Event} {next : Shadow} (haccept : shadow.accept event = some next)
    (hremoval : event.action.isRemoval = true) :
    List.Perm (tree.apply event.record event.action).2
      ((List.filter (fun known => known ∉ next) shadow).map fun known => .removed known.path) := by
  obtain ⟨gone, hget, rfl⟩ := (h.accept_of_isRemoval hshape hremoval).1 haccept
  have hgone := Tree.mem_of_get? hget
  have hforgets : ∀ node ∈ tree.nodes,
      decide (Known.ofRecord node.record ∉ shadow.without (.ofRecord gone.record)) =
        decide (node ∈ tree.departing gone.path) := by
    intro node hnode
    have hknown : Known.ofRecord node.record ∈ shadow :=
      h.mem_iff.2 (List.mem_map_of_mem hnode)
    have hstays := stays_iff hshape hgone hnode
    refine decide_eq_decide.2 ?_
    rw [← hshape.paths.path_mem_departing_iff hnode, ← not_iff_not, not_not, ← hstays]
    exact List.mem_filter.trans (and_iff_right hknown)
  rw [Tree.apply_of_isRemoval hremoval, Tree.remove_events, ← Tree.path_of_get? hget]
  refine ((hshape.paths.departing_perm _).map _).trans (List.Perm.symm ?_)
  refine ((h.filter _).map _).trans (List.Perm.of_eq ?_)
  unfold ofTree
  rw [List.filter_map, List.map_map]
  exact congrArg _ (List.filter_congr hforgets)

end Tracks

end RemovableMedia.Monitor.Shadow
