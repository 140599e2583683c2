import RemovableMedia.Proofs.Mount.Belief
import RemovableMedia.Proofs.Mount.Decision

/-!
# Powering off

A request to power off is passed on exactly if it names a plain disk of which no partition is believed
mounted (`poweroff_noted_of_idle`, `poweroff_of_not_idle`).  The disk itself is not looked at.  Nobody
can ask for a plain disk to be mounted, but a table that is taken over may state that one is, and that is
the only way in which it comes to be believed mounted (`run_disks_stated`).  So a disk that is asked to be
powered off is in use only if some table stated so (`poweroff_asks_of_idle_disks`), and then it may be
(`disk_in_use_is_powered_off`).
-/

set_option autoImplicit false

namespace RemovableMedia

open RemovableMedia.Device (Record)

/-! ## Disks of which no partition is believed mounted -/

namespace Tree

variable {tree : Tree}

/-- A plain disk is at the path, and none of its partitions is believed mounted. -/
def HasIdleDisk (tree : Tree) (path : String) : Prop :=
  ∃ disk ∈ tree.branches, disk.root.path = path ∧ disk.root.record.kind = .stateless ∧
    ∀ part ∈ disk.children, part.mount = none

/-- A tree has an idle disk at a path just if what is found there is a disk without a mounted
partition. -/
theorem WellFormed.hasIdleDisk_iff (h : tree.WellFormed) {path : String} :
    tree.HasIdleDisk path ↔
      ∃ node, tree.get? path = some node ∧ node.record.kind = .stateless ∧
        ∀ child ∈ tree.children path, child.mount = none := by
  constructor
  · rintro ⟨disk, hdisk, rfl, hkind, hparts⟩
    refine ⟨disk.root, h.paths.get?_path (root_mem_nodes hdisk), hkind, ?_⟩
    rwa [h.paths.children_root hdisk]
  · rintro ⟨node, hget, hkind, hparts⟩
    obtain ⟨disk, hdisk, hnode⟩ := mem_nodes.1 (mem_of_get? hget)
    rcases List.mem_cons.1 hnode with rfl | hchild
    · have hpath := path_of_get? hget
      refine ⟨disk, hdisk, hpath, hkind, ?_⟩
      rwa [← hpath, h.paths.children_root hdisk] at hparts
    · rw [(h.branches disk hdisk).child_kind node hchild] at hkind
      cases hkind

end Tree

namespace Mount

variable {σ : Type}

namespace Host

/-! ## Along a run -/

/-- Only a device that can be mounted is mounted on request. -/
theorem mountable_of_mount (orchestrator : Orchestrator σ) (config : Config) {path : String}
    {options : Option String} {host : Host σ} {event : Notification}
    (h : (host.mount orchestrator config path options).1 = .ok event) :
    ∃ node, host.tree.get? path = some node ∧ node.record.isMountable = true := by
  obtain ⟨code, hrefuses⟩ | ⟨decided, hgrants⟩ :=
    refuses_or_grants config.filesystems host.tree path options
  · rw [Host.mount, plan_of_refuses hrefuses] at h
    cases h
  · cases hgrants with
    | intro hget hmountable => exact ⟨_, hget, hmountable⟩

/-- No operation but taking over a table makes a plain disk believed mounted. -/
theorem run_disks_stated (orchestrator : Orchestrator σ) (config : Config) (files : FileTree)
    (mounts : σ) (operations : List (Operation σ)) :
    (Host.run orchestrator config ⟨.empty, files, mounts⟩ operations).2.tree.Believes
      fun path kind info => kind = .stateless →
        ∃ table, .reconcile table ∈ operations ∧ table.lookup path = some info := by
  refine run_believes ?_ Tree.WellFormed.empty.paths Tree.Believes.empty ?_
  · intro host path options node info hget hresult hkind
    obtain ⟨mounted, hmounted, hmountable⟩ := mountable_of_mount orchestrator config hresult
    rw [hget] at hmounted
    cases hmounted
    exact absurd hkind (Record.kind_ne_stateless hmountable)
  · exact fun table htable path kind info hlookup _ => ⟨table, htable, hlookup⟩

/-- Every run with records that are built keeps the shape of the tree. -/
theorem run_wellFormed (orchestrator : Orchestrator σ) (config : Config) {host : Host σ}
    (h : host.tree.WellFormed) {operations : List (Operation σ)}
    (hbuilt : ∀ operation ∈ operations, operation.Brings Record.Built) :
    (host.run orchestrator config operations).2.tree.WellFormed := by
  induction operations generalizing host with
  | nil => exact h
  | cons operation rest ih =>
    have hstep := host.perform_step orchestrator config (hbuilt operation List.mem_cons_self)
    exact ih (hstep.wellFormed h) fun other hother => hbuilt other (List.mem_cons_of_mem _ hother)

/-! ## One request -/

section Request

variable {orchestrator : Orchestrator σ} {path : String} {host : Host σ}

/-- A disk without mounted partitions is asked to be powered off, and what comes of it is the
answer. -/
theorem poweroff_noted_of_idle (hshape : host.tree.WellFormed) (h : host.tree.HasIdleDisk path) :
    ∃ result mounts, orchestrator.poweroff path host.mounts = (result, mounts) ∧
      host.noted.poweroff orchestrator.noting path =
        (result, ⟨host.tree, host.files, mounts, [(.poweroff path, result)]⟩) := by
  obtain ⟨node, hget, hkind, hunmounted⟩ := hshape.hasIdleDisk_iff.1 h
  have hget : host.noted.tree.get? path = some node := hget
  refine ⟨_, _, rfl, ?_⟩
  rw [poweroff_of_unmounted orchestrator.noting hget hkind hunmounted]
  rfl

/-- Every other request is refused, and nobody is asked. -/
theorem poweroff_of_not_idle (hshape : host.tree.WellFormed) (h : ¬ host.tree.HasIdleDisk path) :
    ∃ code, host.poweroff orchestrator path = (.error code, host) := by
  unfold Host.poweroff
  split
  · exact ⟨_, rfl⟩
  · rename_i node hget
    split
    · exact ⟨_, rfl⟩
    · rename_i hkind
      split
      · exact ⟨_, rfl⟩
      · rename_i hunmounted
        refine absurd (hshape.hasIdleDisk_iff.2 ⟨node, hget, not_not.1 hkind, ?_⟩) h
        simpa using hunmounted

end Request

/-- Whatever has happened on a host, a request to power off is passed on exactly if a plain disk is at
the path of which no partition is believed mounted.  It is passed on once, and what comes of it is the
answer, while devices and files stay as they are.  Every other request is answered with a reason against
it, and nothing happens.  If the disk itself is believed mounted, one of the tables that were taken over
states so. -/
theorem poweroff_asks_of_idle_disks (orchestrator : Orchestrator σ) (config : Config)
    (files : FileTree) (mounts : σ) (operations : List (Operation σ))
    (hbuilt : ∀ operation ∈ operations, operation.Brings Record.Built) (path : String) :
    let host := (Host.run orchestrator config ⟨.empty, files, mounts⟩ operations).2
    let done := host.noted.poweroff orchestrator.noting path
    Prod.map id plain done = host.poweroff orchestrator path ∧
      (host.tree.HasIdleDisk path → ∃ result after,
        orchestrator.poweroff path host.mounts = (result, after) ∧
          done = (result, ⟨host.tree, host.files, after, [(.poweroff path, result)]⟩)) ∧
      (¬ host.tree.HasIdleDisk path → ∃ code, done = (.error code, host.noted)) ∧
      ∀ disk ∈ host.tree.branches, disk.root.path = path → disk.root.record.kind = .stateless →
        ∀ info, disk.root.mount = some info →
          ∃ table, .reconcile table ∈ operations ∧ table.lookup path = some info := by
  intro host done
  have hshape : host.tree.WellFormed := run_wellFormed orchestrator config .empty hbuilt
  refine ⟨poweroff_noting orchestrator path host.noted, poweroff_noted_of_idle hshape, ?_, ?_⟩
  · have hnoted : host.noted.tree.WellFormed := hshape
    exact poweroff_of_not_idle hnoted
  · rintro disk hdisk rfl hkind info hmount
    exact run_disks_stated orchestrator config files mounts operations disk.root
      (Tree.root_mem_nodes hdisk) info hmount hkind

/-- A stick is powered off after its partition was mounted and unmounted. -/
theorem poweroff_asks_of_idle_disks_of_stick :
    let operations : List (Operation Rehearsal) := [.apply .usbStick .add,
      .apply .usbPartition .online, .mount "/dev/sdb1" none, .unmount "/dev/sdb1"]
    let host :=
      (Host.run Rehearsal.orchestrator .standard ⟨.empty, .empty, .start true⟩ operations).2
    let done := host.noted.poweroff Rehearsal.orchestrator.noting "/dev/sdb"
    (∀ operation ∈ operations, operation.Brings Record.Built) ∧
      host.tree.HasIdleDisk "/dev/sdb" ∧ done.1 = .ok () ∧
      done.2.mounts.notes = [(.poweroff "/dev/sdb", .ok ())] ∧ done.2.tree = host.tree := by
  intro operations host done
  have hbuilt : ∀ operation ∈ operations, operation.Brings Record.Built := by
    simp [operations, Operation.Brings, Record.usbStick_built, Record.usbPartition_built]
  have htree : host.tree = .plugged := by decide +kernel
  have hidle : host.tree.HasIdleDisk "/dev/sdb" := by
    rw [htree]
    unfold Tree.HasIdleDisk
    decide
  obtain ⟨-, hasks, -, -⟩ := poweroff_asks_of_idle_disks Rehearsal.orchestrator .standard .empty
    (.start true) operations hbuilt "/dev/sdb"
  obtain ⟨result, after, hasked, hdone⟩ := hasks hidle
  have hresult : result = .ok () := (congrArg Prod.fst hasked).symm
  rw [hresult] at hdone
  exact ⟨hbuilt, hidle, congrArg (·.1) hdone, congrArg (·.2.mounts.notes) hdone,
    congrArg (·.2.tree) hdone⟩

/-- A stick that is mounted as a whole is powered off. -/
theorem disk_in_use_is_powered_off :
    let info : Info := ⟨"/mnt", "rw"⟩
    let operations : List (Operation Rehearsal) :=
      [.apply .usbStick .add, .reconcile [⟨"/dev/sdb", info⟩]]
    let host :=
      (Host.run Rehearsal.orchestrator .standard ⟨.empty, .empty, .start true⟩ operations).2
    let done := host.noted.poweroff Rehearsal.orchestrator.noting "/dev/sdb"
    (∀ operation ∈ operations, operation.Brings Record.Built) ∧
      host.tree.get? "/dev/sdb" = some ⟨.usbStick, some info⟩ ∧
      done.1 = .ok () ∧ done.2.mounts.notes = [(.poweroff "/dev/sdb", .ok ())] := by
  intro info operations host done
  refine ⟨?_, by decide +kernel, by decide +kernel, by decide +kernel⟩
  simp [operations, Operation.Brings, Record.usbStick_built]

end Host

end Mount

end RemovableMedia
