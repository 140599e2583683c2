import RemovableMedia.Proofs.Files.Inside
import RemovableMedia.Proofs.Mount.Belief
import RemovableMedia.Proofs.Mount.Undo

/-!
# What is removed when a device is unmounted

When a device is unmounted, nothing is removed but the place where it is believed to be mounted, and
only if that is an empty directory and its path lies in the mount directory
(`unmount_keeps_or_removes`).  A mount point that was chosen for a device is one name below the mount
directory (`beyond_choosePoint`), so its place is strictly below.  A mount table may state any other
path, and every believed mount point is of one of these two kinds (`run_points_stated_or_chosen`).

A path that lies in the mount directory and does not go up from there leads to a place at or below that
of the mount directory (`unmount_removes_inside`).  So where a table states a mount at the mount
directory itself, that is removed like a mount point, and where it states one that goes up, it can be
anything (`mount_directory_is_removed`).
-/

set_option autoImplicit false

namespace RemovableMedia

/-! ## Removing a directory -/

namespace FileTree

/-- An empty directory is gone, and nothing else has changed. -/
structure Loses (tree : FileTree) (place : Location) (after : FileTree) : Prop where
  isDirectory : tree.isDirectoryAt place = true
  isEmpty : tree.hasEntriesAt place = false
  workingDirectory : after.workingDirectory = tree.workingDirectory
  entry?_eq : ∀ location,
    after.entry? location = if location = place then none else tree.entry? location

/-- A directory that is removed was empty, and it is all that is lost. -/
theorem loses_of_removeDirectory {tree removed : FileTree} {path : String}
    (h : tree.removeDirectory path = .ok removed) :
    ∃ place, tree.resolve path = .ok place ∧ tree.Loses place removed := by
  obtain ⟨directory, name, hleads, hdirectory, hempty, rfl⟩ := removeDirectory_eq_ok_iff.1 h
  exact ⟨directory ++ [name], hleads.resolve_eq hdirectory, hdirectory, hempty, rfl,
    entry?_erase (by simp)⟩

end FileTree

namespace Mount

variable {σ : Type}

/-! ## Mount points that were chosen -/

/-- A mount point that is chosen lies one name below the mount directory. -/
theorem beyond_choosePoint (mountDir : String) (tree : Tree) (files : FileTree)
    {record : Device.Record} (hdevice : Path.IsName (Path.lastPiece record.path)) :
    ∃ name, Path.beyond (choosePoint mountDir tree files record) mountDir = [.name name] := by
  obtain ⟨name, hname, hjoin⟩ := exists_choosePoint_eq_join mountDir tree files hdevice
  exact ⟨name, hjoin ▸ Path.beyond_join hname mountDir⟩

namespace Host

/-- A device is mounted at the point that is chosen for it. -/
theorem point_of_mount (orchestrator : Orchestrator σ) (config : Config) {path : String}
    {options : Option String} {host : Host σ} {node : Node} {info : Info}
    (hget : host.tree.get? path = some node)
    (h : (host.mount orchestrator config path options).1 = .ok (.mounted path info)) :
    info.point = choosePoint config.mountDir host.tree host.files node.record := by
  have hnoted := (congrArg Prod.fst (mount_noting orchestrator config path host.noted options)).trans h
  obtain ⟨mounted, request, files, mounts, hmounted, -, -, hpoint, hdone⟩ := mount_noted_eq_ok hnoted
  have hevent : Notification.mounted path request.info = .mounted path info :=
    Except.ok.inj ((congrArg Prod.fst hdone).symm.trans hnoted)
  cases hget.symm.trans hmounted
  rw [← hpoint, ← (Notification.mounted.inj hevent).2]
  rfl

/-- Every believed mount point is stated by a table that was taken over, or was chosen for the device. -/
theorem run_points_stated_or_chosen (orchestrator : Orchestrator σ) (config : Config)
    (files : FileTree) (mounts : σ) (operations : List (Operation σ)) :
    (Host.run orchestrator config ⟨.empty, files, mounts⟩ operations).2.tree.Believes
      fun path _ info =>
        (∃ table, .reconcile table ∈ operations ∧ table.lookup path = some info) ∨
          ∃ tree files record, Device.Record.path record = path ∧
            info.point = choosePoint config.mountDir tree files record := by
  refine run_believes ?_ Tree.WellFormed.empty.paths Tree.Believes.empty ?_
  · intro host path options node info hget hresult
    exact .inr ⟨host.tree, host.files, node.record, Tree.path_of_get? hget,
      point_of_mount orchestrator config hget hresult⟩
  · exact fun table htable path kind info hlookup => .inl ⟨table, htable, hlookup⟩

/-! ## A request to unmount -/

/-- Whatever has happened on a host, a request to unmount removes nothing, or it succeeds and removes
one empty directory: the place to which the believed mount point leads, whose path lies in the mount
directory.  If the mount directory is not the empty path, and the path of the mount point does not go up
from there, the place is at or below that of the mount directory, and at it only if the paths are the
same.  A mount point that was chosen on request neither goes up nor is the mount directory, if the path
of the device ends in a name; any other one is stated by a table that was taken over. -/
theorem unmount_removes_inside (orchestrator : Orchestrator σ) (config : Config) (files : FileTree)
    (mounts : σ) (operations : List (Operation σ)) (path : String) :
    let host := (Host.run orchestrator config ⟨.empty, files, mounts⟩ operations).2
    let done := host.unmount orchestrator config path
    done.2.files = host.files ∨
      ∃ node info place, host.tree.get? path = some node ∧ node.mount = some info ∧
        done.1 = .ok (.unmounted path info.point) ∧
        host.files.resolve info.point = .ok place ∧ host.files.Loses place done.2.files ∧
        Path.startsWith info.point config.mountDir = true ∧
        (config.mountDir ≠ "" → .up ∉ Path.beyond info.point config.mountDir →
          ∃ base names, host.files.walk (host.files.start config.mountDir)
              (Path.pieces config.mountDir) = .ok base ∧
            place = base ++ names ∧
            (names = [] ↔ Path.same info.point config.mountDir = true)) ∧
        ((∃ table, .reconcile table ∈ operations ∧ table.lookup path = some info) ∨
          (Path.IsName (Path.lastPiece path) →
            .up ∉ Path.beyond info.point config.mountDir ∧
              Path.same info.point config.mountDir = false)) := by
  intro host done
  obtain hkept | ⟨node, info, hget, hmount, hanswer, hinside, hremoved⟩ :=
    unmount_keeps_or_removes orchestrator config path host
  · exact .inl hkept
  · obtain ⟨place, hplace, hloses⟩ := FileTree.loses_of_removeDirectory hremoved
    refine .inr ⟨node, info, place, hget, hmount, hanswer, hplace, hloses, hinside, ?_, ?_⟩
    · intro hdir hup
      exact FileTree.exists_names_of_startsWith hdir hinside hup hplace hloses.isDirectory
    · -- whether the mount point can be the mount directory depends on where it comes from
      have hbelieved := run_points_stated_or_chosen orchestrator config files mounts operations node
        (Tree.mem_of_get? hget) info hmount
      rw [Tree.path_of_get? hget] at hbelieved
      refine hbelieved.imp_right ?_
      rintro ⟨tree, before, record, hpath, hpoint⟩ hdevice
      rw [← hpath] at hdevice
      obtain ⟨name, hbeyond⟩ := beyond_choosePoint config.mountDir tree before hdevice
      rw [← hpoint] at hbeyond
      refine ⟨by simp [hbeyond], Bool.eq_false_iff.2 fun hsame => ?_⟩
      rw [Path.same_iff_beyond_eq_nil hinside, hbeyond] at hsame
      cases hsame

/-- The directory that was made for a stick is removed from the mount directory. -/
theorem unmount_removes_inside_of_stick :
    let config := { Config.standard with mountDir := "media" }
    let operations : List (Operation Rehearsal) := [.apply .usbStick .add,
      .apply .usbPartition .online, .mount "/dev/sdb1" none]
    let host := (Host.run Rehearsal.orchestrator config ⟨.empty, .empty, .start true⟩ operations).2
    let done := host.unmount Rehearsal.orchestrator config "/dev/sdb1"
    done.1 = .ok (.unmounted "/dev/sdb1" "media/sdb1") ∧
      ∃ place base names, host.files.resolve "media/sdb1" = .ok place ∧
        host.files.Loses place done.2.files ∧
        host.files.walk (host.files.start "media") (Path.pieces "media") = .ok base ∧
        place = base ++ names ∧ names ≠ [] := by
  intro config operations host done
  have hbelieved : host.tree.get? "/dev/sdb1" =
      some ⟨.usbPartition, some ⟨"media/sdb1", "rw,nosuid,nodev,flush"⟩⟩ := by
    decide +kernel
  have hchanged : done.2.files ≠ host.files := by decide +kernel
  have hremoval :=
    unmount_removes_inside Rehearsal.orchestrator config .empty (.start true) operations "/dev/sdb1"
  have hhost : (Host.run Rehearsal.orchestrator config ⟨.empty, .empty, .start true⟩ operations).2 =
      host := rfl
  have hdone : host.unmount Rehearsal.orchestrator config "/dev/sdb1" = done := rfl
  dsimp only at hremoval
  rw [hhost, hdone] at hremoval
  clear_value done host
  obtain hkept | ⟨node, info, place, hget, hmount, hanswer, hplace, hloses, -, hbelow, -⟩ := hremoval
  · exact absurd hkept hchanged
  · cases hbelieved.symm.trans hget
    cases hmount
    obtain ⟨base, names, hbase, hnames, hsame⟩ := hbelow (by decide) (by decide +kernel)
    have hother : Path.same "media/sdb1" "media" = false := by decide +kernel
    refine ⟨hanswer, place, base, names, hplace, hloses, hbase, hnames, fun hnil => ?_⟩
    rw [hsame.1 hnil] at hother
    cases hother

/-- A table states that a stick is mounted at the mount directory itself, or at a place beside it whose
path goes through it.  That is what is removed when the stick is unmounted. -/
theorem mount_directory_is_removed :
    let config := { Config.standard with mountDir := "media" }
    let files := ((FileTree.empty.makeDirectories "media").1.makeDirectories "home").1
    let unmount := fun (point : String) =>
      let host := (Host.run Rehearsal.orchestrator config ⟨.empty, files, .start true⟩
        [.apply .usbStick .add, .apply .usbPartition .online,
          .reconcile [⟨"/dev/sdb1", ⟨point, "rw"⟩⟩]]).2
      host.unmount Rehearsal.orchestrator config "/dev/sdb1"
    files.isDirectory "media" = true ∧ files.isDirectory "home" = true ∧
      ((unmount "media").1 = .ok (.unmounted "/dev/sdb1" "media") ∧
        (unmount "media").2.files.isDirectory "media" = false ∧
        (unmount "media").2.files.isDirectory "home" = true) ∧
      ((unmount "media/../home").1 = .ok (.unmounted "/dev/sdb1" "media/../home") ∧
        (unmount "media/../home").2.files.isDirectory "media" = true ∧
        (unmount "media/../home").2.files.isDirectory "home" = false) := by
  decide +kernel

end Host

end Mount

end RemovableMedia
