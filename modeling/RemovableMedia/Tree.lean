import RemovableMedia.Device.Action
import RemovableMedia.Message

/-!
# The device tree

The daemon's picture of what is plugged in: the devices that stand on their own in the order of
their arrival, each with its partitions, and for every one of them where it is believed to be
mounted.  Each operation returns the new tree together with the notifications of what it changed,
in the order in which clients must see them.
-/

set_option autoImplicit false

namespace RemovableMedia

/-- A device in the tree. -/
structure Node where
  record : Device.Record
  /-- Where the device is believed to be mounted. -/
  mount : Option Mount.Info
deriving DecidableEq, Repr

namespace Node

/-- The path of a device in the tree. -/
def path (node : Node) : String :=
  node.record.path

/-- What clients are told of a device in the tree. -/
def description (node : Node) : Description :=
  .ofRecord node.record node.mount

/-- Mounts a device, whose believed mount was taken from it, as it was found mounted, if it was, and
tells that it left its place and that it came to one. -/
def replaceMount (node : Node) (believed : Option Mount.Info) (current : Option Mount.Entry) :
    Node × List Notification :=
  let left := believed.map fun old => Notification.unmounted node.path old.point
  let mount := current.map Mount.Entry.info
  let came := mount.map (Notification.mounted node.path)
  ({ node with mount }, left.toList ++ came.toList)

/-- Compares the believed mount of a device with the first row that the table has for it.  The belief
is taken from the device, and whatever it is to be mounted as is put back: at its old place this is no
news, also with other options. -/
def visit (table : Mount.Table) (node : Node) : Node × List Notification :=
  let current := table.find? fun entry => entry.device == node.path
  let taken : Node := { node with mount := none }
  match node.mount, current with
  | none, none => (taken, [])
  | some believed, some entry =>
    if believed.point = entry.info.point then ({ taken with mount := some entry.info }, [])
    else taken.replaceMount (some believed) (some entry)
  | believed, current => taken.replaceMount believed current

/-- Compares devices one after another, and adds what there is to tell to what was told before. -/
def visitAll (table : Mount.Table) (events : List Notification) :
    List Node → List Node × List Notification
  | [] => ([], events)
  | node :: rest =>
    let (node, told) := node.visit table
    let (rest, events) := visitAll table (events ++ told) rest
    (node :: rest, events)

end Node

/-- A device that stands on its own, with its partitions in the order of their arrival. -/
structure Branch where
  root : Node
  children : List Node
deriving DecidableEq, Repr

namespace Branch

/-- The device and then its partitions. -/
def nodes (branch : Branch) : List Node :=
  branch.root :: branch.children

/-- The branch with every node changed by a function. -/
def map (f : Node → Node) (branch : Branch) : Branch :=
  ⟨f branch.root, branch.children.map f⟩

/-- The part of a branch that a path names: all of it, or one partition. -/
def find? (path : String) (branch : Branch) : Option (List Node) :=
  if branch.root.path = path then some branch.nodes
  else (branch.children.find? fun child => child.path = path).map ([·])

/-- Whether the branch is a disk that can hold the partitions that name a parent. -/
def holds (parent : String) (branch : Branch) : Bool :=
  branch.root.path == parent && branch.root.record.kind == .stateless

/-- Compares the devices of branches with the live table, of each branch first the one that stands on
its own. -/
def visitAll (table : Mount.Table) (events : List Notification) :
    List Branch → List Branch × List Notification
  | [] => ([], events)
  | branch :: rest =>
    let (root, told) := branch.root.visit table
    let (children, events) := Node.visitAll table (events ++ told) branch.children
    let (rest, events) := visitAll table events rest
    (⟨root, children⟩ :: rest, events)

end Branch

/-- The devices that stand on their own, in the order of their arrival. -/
structure Tree where
  branches : List Branch
deriving DecidableEq, Repr

namespace Tree

/-- The tree without devices. -/
def empty : Tree := ⟨[]⟩

/-- Every device: each one that stands on its own, followed by its partitions. -/
def nodes (tree : Tree) : List Node :=
  tree.branches.flatMap Branch.nodes

/-- The number of devices. -/
def size (tree : Tree) : Nat :=
  tree.branches.foldr (fun branch rest => branch.children.length + 1 + rest) 0

/-- Whether there is no device. -/
def isEmpty (tree : Tree) : Bool :=
  tree.branches.isEmpty

/-- The device at a path followed by its partitions. -/
def find? (tree : Tree) (path : String) : Option (List Node) :=
  tree.branches.findSome? (Branch.find? path)

/-- The device at a path. -/
def get? (tree : Tree) (path : String) : Option Node :=
  (tree.find? path).bind List.head?

/-- Whether there is a device at a path. -/
def contains (tree : Tree) (path : String) : Bool :=
  (tree.get? path).isSome

/-- The partitions of the device at a path. -/
def children (tree : Tree) (path : String) : List Node :=
  ((tree.find? path).map List.tail).getD []

/-- The tree with every node changed by a function. -/
def map (f : Node → Node) (tree : Tree) : Tree :=
  ⟨tree.branches.map (Branch.map f)⟩

/-- The tree with the device at a path changed by a function. -/
def update (path : String) (f : Node → Node) (tree : Tree) : Tree :=
  tree.map fun node => if node.path = path then f node else node

/-- The tree with one more partition on the disk that it names. -/
def graft (node : Node) (tree : Tree) : Tree :=
  ⟨tree.branches.map fun branch =>
    if branch.holds node.record.parentPath then
      { branch with children := branch.children ++ [node] }
    else branch⟩

/-- Brings a device in, unmounted and after all others of its level.  A path that is taken and a
partition without its disk are refused. -/
def insert (tree : Tree) (record : Device.Record) : Tree × List Notification :=
  let node : Node := ⟨record, none⟩
  if tree.contains record.path then (tree, [])
  else if record.isRoot then
    (⟨tree.branches ++ [⟨node, []⟩]⟩, [.added node.description])
  else if tree.branches.any (Branch.holds record.parentPath) then
    (tree.graft node, [.added node.description])
  else (tree, [])

/-- Takes the device at a path away, after its partitions. -/
def remove (tree : Tree) (path : String) : Tree × List Notification :=
  match tree.branches.find? fun branch => branch.root.path = path with
  | some branch =>
    (⟨tree.branches.filter fun branch => branch.root.path ≠ path⟩,
      branch.children.map (fun child => .removed child.path) ++ [.removed path])
  | none =>
    if tree.contains path then
      (⟨tree.branches.map fun branch =>
          { branch with children := branch.children.filter fun child => child.path ≠ path }⟩,
        [.removed path])
    else (tree, [])

/-- Replaces what is known of a device.  A record of another kind or with another parent is
refused, and an equal one is no news; the mount stays as it is believed. -/
def change (tree : Tree) (record : Device.Record) : Tree × List Notification :=
  match tree.get? record.path with
  | none => (tree, [])
  | some node =>
    if node.record.parentPath ≠ record.parentPath then (tree, [])
    else if node.record.kind ≠ record.kind then (tree, [])
    else if node.record = record then (tree, [])
    else
      (tree.update record.path fun node => { node with record := record },
        [.changed (Description.ofRecord record node.mount)])

/-- What an action on a device does to the tree. -/
def apply (tree : Tree) (record : Device.Record) : Device.Action → Tree × List Notification
  | .add | .online => tree.insert record
  | .remove | .offline => tree.remove record.path
  | .change => tree.change record

/-- Notes that a device is mounted.  It is no news if it is believed mounted in just that way. -/
def setMount (tree : Tree) (path : String) (info : Mount.Info) : Tree × Option Notification :=
  match tree.get? path with
  | none => (tree, none)
  | some node =>
    if node.mount = some info then (tree, none)
    else
      (tree.update path fun node => { node with mount := some info }, some (.mounted path info))

/-- Notes that a device is no longer mounted. -/
def clearMount (tree : Tree) (path : String) : Tree × Option Notification :=
  match (tree.get? path).bind Node.mount with
  | none => (tree, none)
  | some info =>
    (tree.update path fun node => { node with mount := none }, some (.unmounted path info.point))

/-- Takes over the mounts that the live table states, device by device. -/
def reconcile (tree : Tree) (table : Mount.Table) : Tree × List Notification :=
  let (branches, events) := Branch.visitAll table [] tree.branches
  (⟨branches⟩, events)

end Tree

end RemovableMedia
