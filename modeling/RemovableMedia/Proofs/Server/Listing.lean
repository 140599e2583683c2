import RemovableMedia.Proofs.Tree.Queries
import RemovableMedia.Server.Dispatch

/-!
# Listing one device and listing all

A client can ask for all devices, or for one and its partitions.  What it is told of the one is what
it would be told of it among all, in the same order (`listings_agree`): nothing more, and nothing is
left out.  The root stands for everything, and a path without a device for nothing.
-/

set_option autoImplicit false

namespace RemovableMedia

/-- Whether a message describes the device at a path or one of its partitions. -/
def Message.isAbout (path : String) : Message → Bool
  | device description => description.isAbout path
  | _ => false

namespace Server

open RemovableMedia.Mount (Host Orchestrator)

variable {σ : Type}

/-- The descriptions about a path are those of the nodes that are about it. -/
theorem filter_isAbout_describe (path : String) (nodes : List Node) :
    (describe nodes).filter (Message.isAbout path) =
      describe (nodes.filter fun node => node.description.isAbout path) :=
  List.filter_map

/-- What is listed for a path, if a device is there, is cut out of the list of all. -/
theorem describe_of_find? {tree : Tree} (h : tree.WellFormed) {path : String} {found : List Node}
    (hfind : tree.find? path = some found) :
    describe found = (describe tree.nodes).filter (Message.isAbout path) := by
  rw [filter_isAbout_describe, h.filter_isAbout, hfind]
  rfl

/-- All queries of the tree agree, and so do the listings.  What a client is told of all devices is, in
the order of the list, a line for each between the beginning and the end; nobody else is told anything,
and nothing changes.  Of one device it is told just those of the same lines, in the same order, that
describe the device or a partition of it.  The root stands for all devices, and a path without a device
is answered by one failure. -/
theorem listings_agree {host : Host σ} (h : host.tree.Reachable) (orchestrator : Orchestrator σ)
    (config : Config) (path : String) :
    let body : List Message := host.tree.nodes.map fun node => .device node.description
    let listed (lines : List Message) : List Message :=
      [.started "list_removable_device" [some path]] ++ lines ++
        [.finished "list_removable_device" [some path]]
    host.tree.QueriesAgree ∧
      execute orchestrator config .listAllRemovableDevices host =
        (⟨[.started "list_all_removable_devices" []] ++ body ++
          [.finished "list_all_removable_devices" []], []⟩, host) ∧
      execute orchestrator config (.listRemovableDevice path) host =
        if path = Device.rootPath then (⟨listed body, []⟩, host)
        else if host.tree.contains path then
          (⟨listed (body.filter (Message.isAbout path)), []⟩, host)
        else
          (⟨[.failed "list_removable_device" [some path] .noSuchRemovableDevice], []⟩, host) := by
  intro body listed
  have hlisting : ∀ lines : List Message,
      Outcome.listing (.listRemovableDevice path) lines = ⟨listed lines, []⟩ := fun _ => rfl
  refine ⟨h.queriesAgree, rfl, ?_⟩
  by_cases hroot : path = Device.rootPath
  · have hlisted : listed? host.tree path = some host.tree.nodes := if_pos hroot
    simp only [execute, hlisted, if_pos hroot, hlisting]
    rfl
  · have hlisted : listed? host.tree path = host.tree.find? path := if_neg hroot
    rw [if_neg hroot, ← host.tree.isSome_find?_eq_contains]
    cases hfind : host.tree.find? path with
    | none =>
      simp only [execute, hlisted, hfind]
      rfl
    | some found =>
      simp only [execute, hlisted, hfind, describe_of_find? h.wellFormed hfind, hlisting]
      rfl

/-- A stick with its partition beside another stick. -/
theorem listings_agree_of_sticks :
    let other : Device.Record := ⟨"/dev/sdc", .stateless .removableDisk, none⟩
    let host : Host Mount.Rehearsal :=
      ⟨(Tree.plugged.apply other .add).1, FileTree.empty, .start false⟩
    let body : List Message := host.tree.nodes.map fun node => .device node.description
    host.tree.Reachable ∧ body.length = 3 ∧
      (body.filter (Message.isAbout "/dev/sdb")).length = 2 ∧
      execute Mount.Rehearsal.orchestrator .standard (.listRemovableDevice "/dev/sdb") host =
        (⟨[.started "list_removable_device" [some "/dev/sdb"]] ++
          body.filter (Message.isAbout "/dev/sdb") ++
          [.finished "list_removable_device" [some "/dev/sdb"]], []⟩, host) := by
  intro other host body
  have hother : other.Built :=
    .make (show Device.Record.stateless? "/dev/sdc" .removableDisk = .ok other from rfl)
  have hreachable : host.tree.Reachable := Tree.plugged_reachable.apply .add hother
  refine ⟨hreachable, by decide, by decide, ?_⟩
  exact (listings_agree hreachable Mount.Rehearsal.orchestrator .standard "/dev/sdb").2.2

end Server

end RemovableMedia
