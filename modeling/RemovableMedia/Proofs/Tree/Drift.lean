import RemovableMedia.Proofs.Tree.Reconcile

/-!
# What a look at the live mounts tells

A live mount table states for each device the mount of its first row, whatever else it lists
(`Mount.Table.States`).  What clients are told of a device depends on the two mount points only, the
one that was believed and the one that is stated (`Node.Tells`).  Taking a table over makes every
device mounted as stated, tells just that, device by device in the order of the listing, and leaves
nothing to tell for a second time (`reconcile_tells_the_drift`).
-/

set_option autoImplicit false

namespace RemovableMedia

/-- The mount that a table states for a device: that of the first of its rows, if it has any. -/
inductive Mount.Table.States (table : Mount.Table) (device : String) : Option Mount.Info → Prop where
  | mounted {before after : Mount.Table} {entry : Mount.Entry}
      (htable : table = before ++ entry :: after) (hdevice : entry.device = device)
      (hfirst : ∀ row ∈ before, row.device ≠ device) : table.States device (some entry.info)
  | unmounted (hnone : ∀ row ∈ table, row.device ≠ device) : table.States device none

/-- What is told of a device that was believed mounted in one way and is found mounted in another:
nothing if it stayed at its place, with whatever options, and else where it was and where it is. -/
inductive Node.Tells (path : String) :
    Option Mount.Info → Option Mount.Info → List Notification → Prop where
  | stayed {believed live : Option Mount.Info}
      (hpoint : believed.map Mount.Info.point = live.map Mount.Info.point) :
      Node.Tells path believed live []
  | mounted (live : Mount.Info) : Node.Tells path none (some live) [.mounted path live]
  | unmounted (believed : Mount.Info) :
      Node.Tells path (some believed) none [.unmounted path believed.point]
  | moved {believed live : Mount.Info} (hpoint : believed.point ≠ live.point) :
      Node.Tells path (some believed) (some live)
        [.unmounted path believed.point, .mounted path live]

namespace Mount.Table

/-- What is looked up in a table is what the table states. -/
theorem states_lookup (table : Table) (device : String) :
    table.States device (table.lookup device) := by
  unfold lookup
  cases hfind : table.find? fun entry => entry.device == device with
  | none =>
    refine .unmounted fun row hrow hdevice => ?_
    simpa [hdevice] using List.find?_eq_none.1 hfind row hrow
  | some entry =>
    obtain ⟨hdevice, before, after, htable, hfirst⟩ := List.find?_eq_some_iff_append.1 hfind
    refine .mounted htable (by simpa using hdevice) fun row hrow => ?_
    simpa using hfirst row hrow

end Mount.Table

namespace Node

/-- The news of a device are what is to be told of its mounts. -/
theorem tells_drift (path : String) (believed live : Option Mount.Info) :
    Tells path believed live (drift path believed live) := by
  cases believed with
  | none =>
    cases live with
    | none => exact .stayed rfl
    | some live => exact .mounted live
  | some believed =>
    cases live with
    | none => exact .unmounted believed
    | some live =>
      by_cases hpoint : believed.point = live.point
      · have hquiet : drift path (some believed) (some live) = [] := if_pos hpoint
        rw [hquiet]
        exact .stayed (congrArg some hpoint)
      · have hnews : drift path (some believed) (some live) =
            [.unmounted path believed.point, .mounted path live] := if_neg hpoint
        rw [hnews]
        exact .moved hpoint

/-- Nothing is told just of a device that stayed at its place. -/
theorem Tells.eq_nil_iff {path : String} {believed live : Option Mount.Info}
    {told : List Notification} (h : Tells path believed live told) :
    told = [] ↔ believed.map Mount.Info.point = live.map Mount.Info.point := by
  cases h with
  | stayed hpoint => simpa using hpoint
  | mounted live => simp
  | unmounted believed => simp
  | moved hpoint => simpa using hpoint

end Node

namespace Tree

/-- Taking a table over, every device gets the mount that the table states and nothing else about
the tree changes; what is told is, in the order of the listing, what there is to tell of each
device; nothing is told exactly if every device stayed at its place; and the same table has no
effect for a second time. -/
theorem reconcile_tells_the_drift (tree : Tree) (table : Mount.Table) :
    let done := tree.reconcile table
    ∃ (live : Node → Option Mount.Info) (told : Node → List Notification),
      (∀ node, table.States node.path (live node) ∧
        Node.Tells node.path node.mount (live node) (told node)) ∧
      done.1 = tree.map (fun node => { node with mount := live node }) ∧
      done.2 = tree.nodes.flatMap told ∧
      (done.2 = [] ↔ ∀ node ∈ tree.nodes,
        node.mount.map Mount.Info.point = (live node).map Mount.Info.point) ∧
      done.1.reconcile table = (done.1, []) := by
  intro done
  have htells : ∀ node : Node,
      Node.Tells node.path node.mount (table.lookup node.path) (node.news table) :=
    fun node => Node.tells_drift node.path node.mount (table.lookup node.path)
  have hdone : done = (tree.map (Node.reconciled table), tree.nodes.flatMap (Node.news table)) :=
    reconcile_eq tree table
  refine ⟨fun node => table.lookup node.path, Node.news table, ?_, ?_, ?_, ?_, ?_⟩
  · exact fun node => ⟨table.states_lookup node.path, htells node⟩
  · rw [hdone]
    rfl
  · rw [hdone]
  · rw [hdone]
    refine List.flatMap_eq_nil_iff.trans (forall₂_congr fun node _ => ?_)
    exact (htells node).eq_nil_iff
  · exact reconcile_eq_self_iff.2 (reconciled_reconcile tree table)

end Tree

end RemovableMedia
