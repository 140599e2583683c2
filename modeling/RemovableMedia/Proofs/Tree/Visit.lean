import RemovableMedia.Tree

/-!
# Comparing devices with the live mounts

The mount of a device is taken from it before it is compared with the table, so each of the cases has
to put the right one back.  Together they leave it mounted as the first row for its path states, and
tell how this differs from what was believed (`Node.visit_eq`).  The devices are visited in the order
of the listing, and what is told is in this order too (`Tree.reconcile_eq`).
-/

set_option autoImplicit false

namespace RemovableMedia

/-- The first mount of a device in the table. -/
def Mount.Table.lookup (table : Table) (device : String) : Option Info :=
  (table.find? fun entry => entry.device == device).map Entry.info

namespace Node

/-- What it means for clients that a device believed mounted in one way is found mounted in
another.  Other options at the same place are no news. -/
def drift (path : String) : Option Mount.Info → Option Mount.Info → List Notification
  | none, none => []
  | none, some live => [.mounted path live]
  | some believed, none => [.unmounted path believed.point]
  | some believed, some live =>
    if believed.point = live.point then []
    else [.unmounted path believed.point, .mounted path live]

/-- The node with the mount that the table states. -/
def reconciled (table : Mount.Table) (node : Node) : Node :=
  { node with mount := table.lookup node.path }

/-- What the table has to tell of a node. -/
def news (table : Mount.Table) (node : Node) : List Notification :=
  drift node.path node.mount (table.lookup node.path)

/-- A visit leaves the device with the mount that the table states, and tells the drift. -/
theorem visit_eq (table : Mount.Table) (node : Node) :
    node.visit table = (node.reconciled table, node.news table) := by
  unfold visit reconciled news Mount.Table.lookup
  cases node.mount with
  | none =>
    -- without a belief, whatever the table has is news
    cases table.find? fun entry => entry.device == node.path with
    | none => rfl
    | some entry => rfl
  | some believed =>
    cases table.find? fun entry => entry.device == node.path with
    | none => rfl
    | some entry =>
      dsimp only [Option.map_some, drift]
      by_cases hpoint : believed.point = entry.info.point
      · rw [if_pos hpoint, if_pos hpoint]
      · rw [if_neg hpoint, if_neg hpoint]
        rfl

/-- Visits one after another tell what each of them tells, in their order. -/
theorem visitAll_eq (table : Mount.Table) (events : List Notification) (nodes : List Node) :
    visitAll table events nodes =
      (nodes.map (reconciled table), events ++ nodes.flatMap (news table)) := by
  induction nodes generalizing events with
  | nil => rw [visitAll, List.map_nil, List.flatMap_nil, List.append_nil]
  | cons node rest ih =>
    rw [visitAll, visit_eq]
    dsimp only
    rw [ih, List.map_cons, List.flatMap_cons, List.append_assoc]

end Node

/-- The device that stands on its own is visited before its partitions, and one branch before the
next. -/
theorem Branch.visitAll_eq (table : Mount.Table) (events : List Notification)
    (branches : List Branch) :
    visitAll table events branches =
      (branches.map (Branch.map (Node.reconciled table)),
        events ++ (branches.flatMap nodes).flatMap (Node.news table)) := by
  induction branches generalizing events with
  | nil => rw [visitAll, List.map_nil, List.flatMap_nil, List.flatMap_nil, List.append_nil]
  | cons branch rest ih =>
    rw [visitAll, Node.visit_eq]
    dsimp only
    rw [Node.visitAll_eq]
    dsimp only
    rw [ih, List.map_cons, List.flatMap_cons, List.flatMap_append, nodes, List.flatMap_cons]
    simp only [List.append_assoc]
    rfl

/-- Taking a table over changes each device to what the table states of it, and tells what it has to
tell of each, in the order of the listing. -/
theorem Tree.reconcile_eq (tree : Tree) (table : Mount.Table) :
    tree.reconcile table =
      (tree.map (Node.reconciled table), tree.nodes.flatMap (Node.news table)) := by
  rw [reconcile, Branch.visitAll_eq, List.nil_append]
  rfl

end RemovableMedia
