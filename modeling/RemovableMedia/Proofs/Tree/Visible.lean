import RemovableMedia.Proofs.Tree.Invariant

/-!
# What clients see of an action

Clients see devices through their descriptions, and a description leaves out the tag of a record and
nothing else (`ofRecord_eq_iff`).  An action that is silent leaves the tree as it is (`eq_of_silent`),
and an arrival or a departure that is told can be seen in a listing.  A change is told whenever the
record is another one: if just the tag is new, clients are told of a description that they know
already.  Hence an action is silent exactly if clients see no difference, but for such a change
(`silent_iff_unseen_iff`).
-/

set_option autoImplicit false

namespace RemovableMedia

open RemovableMedia.Device (Record)

/-! ## Descriptions -/

/-- The record without the mark of its source. -/
def Device.Record.untagged (record : Record) : Record :=
  { record with tag := none }

/-- Records are described alike exactly if they differ at most in their tags. -/
theorem Description.ofRecord_eq_iff {first second : Record} {mount : Option Mount.Info} :
    ofRecord first mount = ofRecord second mount ↔ first.untagged = second.untagged := by
  obtain ⟨path, media, tag⟩ := first
  obtain ⟨otherPath, otherMedia, otherTag⟩ := second
  -- the kind tells how the media were made, and the other fields tell from what
  cases media <;> cases otherMedia <;>
    simp [ofRecord, Record.untagged, Record.parentPath, Record.kind, Record.subtype, Record.state,
      Record.filesystem, Record.label, Device.Media.parentPath, Device.Media.kind, and_comm,
      and_left_comm]

namespace Tree

variable {tree : Tree} {record : Record}

/-- What a listing tells of the devices, one after another. -/
def descriptions (tree : Tree) : List Description :=
  tree.nodes.map Node.description

/-- There is a description for each device. -/
theorem length_descriptions (tree : Tree) : tree.descriptions.length = tree.nodes.length :=
  List.length_map _

/-- A change that gives a known device another tag and nothing else. -/
def Retags (tree : Tree) (record : Record) (action : Device.Action) : Prop :=
  action = .change ∧ ∃ node, tree.get? record.path = some node ∧
    node.record ≠ record ∧ node.record.untagged = record.untagged

/-! ## Arrivals and departures -/

/-- A device that comes in shows. -/
theorem descriptions_insert_ne (h : tree.UniquePaths) (hadmits : tree.admits record = true) :
    (tree.insert record).1.descriptions ≠ tree.descriptions := by
  intro hsame
  have hlength := (nodes_insert_perm h hadmits).length_eq
  rw [← length_descriptions, hsame, length_descriptions, List.length_cons] at hlength
  omega

/-- A device that goes shows. -/
theorem descriptions_remove_ne (h : tree.UniquePaths) {path : String} {node : Node}
    (hget : tree.get? path = some node) :
    (tree.remove path).1.descriptions ≠ tree.descriptions := by
  intro hsame
  have hshorter : (tree.remove path).1.nodes.length < tree.nodes.length := by
    rw [nodes_remove h, List.length_filter_lt_length_iff_exists]
    have hgoes : node.path ∈ (tree.departing path).map Node.path := by
      rw [path_of_get? hget]
      exact path_mem_departing hget
    exact ⟨node, mem_of_get? hget, by simpa using hgoes⟩
  rw [← length_descriptions, hsame, length_descriptions] at hshorter
  exact Nat.lt_irrefl _ hshorter

/-! ## Changes -/

/-- A change can be seen exactly if more than the tag is new. -/
theorem descriptions_update_eq_iff (h : tree.UniquePaths) {node : Node}
    (hget : tree.get? record.path = some node) :
    (tree.update record.path fun node => { node with record := record }).descriptions =
        tree.descriptions ↔
      node.record.untagged = record.untagged := by
  unfold descriptions update
  rw [nodes_map, List.map_map, List.map_inj_left]
  constructor
  · intro hall
    have hnode := hall node (mem_of_get? hget)
    rw [Function.comp_apply, if_pos (path_of_get? hget)] at hnode
    exact (Description.ofRecord_eq_iff.1 hnode).symm
  · intro hsame other hother
    rw [Function.comp_apply]
    split
    · rename_i hpath
      rw [h.eq_of_get? hget hother hpath]
      exact Description.ofRecord_eq_iff.2 hsame.symm
    · rfl

/-- A change that is told can be seen unless it is one of the tag only. -/
theorem descriptions_change_eq_iff (h : tree.UniquePaths)
    (htold : (tree.change record).2 ≠ []) :
    (tree.change record).1.descriptions = tree.descriptions ↔ tree.Retags record .change := by
  obtain ⟨node, hget, -, hne, hchange⟩ | ⟨-, hchange⟩ := change_cases tree record
  · rw [hchange, descriptions_update_eq_iff h hget]
    constructor
    · exact fun hsame => ⟨rfl, node, hget, hne, hsame⟩
    · rintro ⟨-, other, hother, -, hsame⟩
      rw [hget] at hother
      cases hother
      exact hsame
  · rw [hchange] at htold
    exact absurd rfl htold

/-- A device that gets another tag stays where it is, so this is told. -/
theorem told_of_retags {action : Device.Action} (h : tree.Retags record action) :
    ∃ description ∈ tree.descriptions,
      (tree.apply record action).2 = [.changed description] := by
  obtain ⟨rfl, node, hget, hne, hsame⟩ := h
  refine ⟨node.description, List.mem_map_of_mem (mem_of_get? hget), ?_⟩
  have hplace : node.record.SamePlace record := by
    have hmedia : node.record.untagged.media = record.untagged.media := by rw [hsame]
    exact ⟨path_of_get? hget, congrArg Device.Media.kind hmedia,
      congrArg Device.Media.parentPath hmedia⟩
  have hseen : node.description = .ofRecord record node.mount :=
    Description.ofRecord_eq_iff.2 hsame
  obtain ⟨other, hother, -, -, hchange⟩ | ⟨hknown, -⟩ := change_cases tree record
  · rw [hget] at hother
    cases hother
    rw [hseen, apply, hchange]
  · exact absurd (hknown node hget hplace) hne

/-! ## Every action -/

/-- An action of which nothing is told leaves the tree as it is. -/
theorem eq_of_silent {action : Device.Action} (h : (tree.apply record action).2 = []) :
    (tree.apply record action).1 = tree := by
  obtain hinsert | hremoval | rfl := effect_cases action
  · rw [apply_of_isInsert hinsert] at h ⊢
    cases hadmits : tree.admits record with
    | false => rw [insert_of_not_admits hadmits]
    | true =>
      rw [insert_events hadmits] at h
      cases h
  · rw [apply_of_isRemoval hremoval] at h ⊢
    cases hget : tree.get? record.path with
    | none => rw [remove_of_get?_eq_none hget]
    | some node =>
      rw [remove_events, List.map_eq_nil_iff] at h
      have hgoes := path_mem_departing hget
      rw [h] at hgoes
      cases hgoes
  · obtain ⟨node, -, -, -, hchange⟩ | ⟨-, hchange⟩ := change_cases tree record
    · rw [apply, hchange] at h
      cases h
    · rw [apply, hchange]

/-- What is told can be seen, unless it is that a device got another tag. -/
theorem descriptions_apply_eq_iff (h : tree.UniquePaths) {action : Device.Action}
    (htold : (tree.apply record action).2 ≠ []) :
    (tree.apply record action).1.descriptions = tree.descriptions ↔
      tree.Retags record action := by
  obtain hinsert | hremoval | rfl := effect_cases action
  · rw [apply_of_isInsert hinsert] at htold ⊢
    refine iff_of_false ?_ fun hretags => by rw [hretags.1] at hinsert; cases hinsert
    cases hadmits : tree.admits record with
    | false =>
      rw [insert_of_not_admits hadmits] at htold
      exact absurd rfl htold
    | true => exact descriptions_insert_ne h hadmits
  · rw [apply_of_isRemoval hremoval] at htold ⊢
    refine iff_of_false ?_ fun hretags => by rw [hretags.1] at hremoval; cases hremoval
    cases hget : tree.get? record.path with
    | none =>
      rw [remove_of_get?_eq_none hget] at htold
      exact absurd rfl htold
    | some node => exact descriptions_remove_ne h hget
  · exact descriptions_change_eq_iff h htold

/-- An action that is silent leaves the tree as it is.  It is silent exactly if clients see no
difference, unless it gives a known device another tag and nothing else; then clients are told of a
description that was there before. -/
theorem silent_iff_unseen_iff (h : tree.Reachable) (record : Record) (action : Device.Action) :
    ((tree.apply record action).2 = [] → (tree.apply record action).1 = tree) ∧
      (((tree.apply record action).2 = [] ↔
          (tree.apply record action).1.descriptions = tree.descriptions) ↔
        ¬ tree.Retags record action) ∧
      (tree.Retags record action →
        (tree.apply record action).1.descriptions = tree.descriptions ∧
          ∃ description ∈ tree.descriptions,
            (tree.apply record action).2 = [.changed description]) := by
  have hpaths := h.wellFormed.paths
  have hunseen : tree.Retags record action →
      (tree.apply record action).1.descriptions = tree.descriptions := by
    intro hretags
    obtain ⟨description, -, htold⟩ := told_of_retags hretags
    exact (descriptions_apply_eq_iff hpaths (by simp [htold])).2 hretags
  refine ⟨eq_of_silent, ?_, fun hretags => ⟨hunseen hretags, told_of_retags hretags⟩⟩
  constructor
  · intro hiff hretags
    obtain ⟨description, -, htold⟩ := told_of_retags hretags
    rw [hiff.2 (hunseen hretags)] at htold
    cases htold
  · intro hretags
    constructor
    · intro hsilent
      rw [eq_of_silent hsilent]
    · intro hsame
      by_contra htold
      exact hretags ((descriptions_apply_eq_iff hpaths htold).1 hsame)

/-- A partition of which the file system is new, while it is mounted. -/
theorem silent_iff_unseen_iff_of_partition :
    let mounted := (plugged.reconcile [⟨"/dev/sdb1", ⟨"/mnt", "rw"⟩⟩]).1
    let record : Record := ⟨"/dev/sdb1", .partition "/dev/sdb" (some "ext4") none, some "sdb1"⟩
    mounted.Reachable ∧ ¬ mounted.Retags record .change ∧
      ((mounted.apply record .change).2 = [] ↔
        (mounted.apply record .change).1.descriptions = mounted.descriptions) := by
  intro mounted record
  have hmounted : mounted.Reachable := plugged_reachable.reconcile _
  have hother : ¬ mounted.Retags record .change := by
    rintro ⟨-, node, hget, -, hsame⟩
    have hnode : mounted.get? record.path = some ⟨.usbPartition, some ⟨"/mnt", "rw"⟩⟩ := by decide
    rw [hnode] at hget
    cases hget
    revert hsame
    decide
  exact ⟨hmounted, hother, (silent_iff_unseen_iff hmounted record .change).2.1.2 hother⟩

/-- A stick that gets a tag is told to have changed, though its description is the same. -/
theorem tag_is_told_unseen :
    let tree := (Tree.empty.apply .usbStick .add).1
    let record := Record.usbStick.withTag "1"
    tree.Reachable ∧ record.Built ∧
      (tree.apply record .change).2 = [.changed (.ofRecord .usbStick none)] ∧
      ¬ ((tree.apply record .change).2 = [] ↔
        (tree.apply record .change).1.descriptions = tree.descriptions) := by
  intro tree record
  have htold : (tree.apply record .change).2 = [.changed (.ofRecord .usbStick none)] := by decide
  have hsame : (tree.apply record .change).1.descriptions = tree.descriptions := by decide
  refine ⟨Reachable.empty.apply .add Record.usbStick_built, .mark "1" Record.usbStick_built, htold,
    fun hiff => ?_⟩
  rw [hiff.2 hsame] at htold
  cases htold

end Tree

end RemovableMedia
