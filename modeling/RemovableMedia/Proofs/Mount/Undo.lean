import RemovableMedia.Proofs.Mount.Decision
import RemovableMedia.Proofs.Tree.Bare

/-!
# Unmounting undoes mounting

A request to mount that succeeds notes one mount in the tree, and a request to unmount the same device
takes just that note back (`clearMount_setMount`).  The mount point is one name below the mount
directory, so it is found to lie in the mount directory when the device is unmounted, and is removed if
nothing is in it (`isDirectory_withoutDirectory`).
-/

set_option autoImplicit false

namespace RemovableMedia

/-! ## The tree -/

namespace Tree

variable {tree : Tree} {path : String} {node : Node}

/-- Changing no device leaves the tree as it is. -/
theorem map_id (tree : Tree) : tree.map id = tree := by
  simp [map]

/-- A device that is there and unmounted is found with the mount that is noted for it. -/
theorem get?_setMount (hget : tree.get? path = some node) (hmount : node.mount = none)
    (info : Mount.Info) :
    (tree.setMount path info).1.get? path = some { node with mount := some info } := by
  rw [setMount_of_unmounted hget hmount,
    get?_update (f := fun node => { node with mount := some info }) (fun _ hpath => hpath),
    if_pos rfl, hget]
  rfl

/-- A mount that is noted and then taken back leaves no trace. -/
theorem UniquePaths.clearMount_setMount (h : tree.UniquePaths) (hget : tree.get? path = some node)
    (hmount : node.mount = none) (info : Mount.Info) :
    (tree.setMount path info).1.clearMount path = (tree, some (.unmounted path info.point)) := by
  rw [clearMount_of_mounted (get?_setMount hget hmount info) rfl, setMount_of_unmounted hget hmount]
  refine Prod.ext ?_ rfl
  refine (map_map _ _ tree).trans (Eq.trans (map_congr fun other hother => ?_) tree.map_id)
  by_cases hpath : other.path = path
  · have hsame : other = node := h.eq_of_get? hget hother hpath
    subst hsame
    have hpath : other.record.path = path := hpath
    simp only [Function.comp_apply, Node.path, hpath, if_true, id, ← hmount]
  · simp [hpath]

end Tree

namespace Mount

variable {σ : Type}

/-! ## The mount point -/

/-- There is no directory left where an empty one was to be removed. -/
theorem isDirectory_withoutDirectory {files : FileTree} {point : String}
    (hname : Path.IsName (Path.lastPiece point)) (hempty : files.isNonEmptyDirectory point = false) :
    (withoutDirectory files point).isDirectory point = false := by
  refine Bool.eq_false_iff.2 fun hdirectory => ?_
  unfold withoutDirectory at hdirectory
  obtain ⟨location, hlocation, hplace⟩ := FileTree.isDirectory_eq_true_iff.1 hdirectory
  split at hdirectory <;> rename_i hremove
  · rename_i removed
    rw [hremove] at hlocation
    have hexists := FileTree.exists?_eq_true_iff.2 ⟨location, hlocation⟩
    rw [(FileTree.exists?_of_removeDirectory hremove).1] at hexists
    cases hexists
  · rw [hremove] at hlocation hplace
    obtain ⟨directory, hleads, rfl⟩ := FileTree.exists_leads_of_resolve hname hlocation
    have hentries : files.hasEntriesAt (directory ++ [Path.lastPiece point]) = false := by
      refine Bool.eq_false_iff.2 fun hentries => Bool.eq_false_iff.1 hempty ?_
      exact FileTree.isNonEmptyDirectory_eq_true_iff.2 ⟨_, hlocation, hplace, hentries⟩
    have hremoved := FileTree.removeDirectory_eq_ok_iff.2
      ⟨directory, _, hleads, hplace, hentries, rfl⟩
    rw [hremoved] at hremove
    cases hremove

/-! ## Both requests -/

namespace Host

variable {orchestrator : Orchestrator σ} {config : Config} {path : String} {options : Option String}

/-- A request to unmount leaves the files as they are, or it succeeds and removes the mount point that
is believed of the device. -/
theorem unmount_keeps_or_removes (orchestrator : Orchestrator σ) (config : Config) (path : String)
    (host : Host σ) :
    let done := host.unmount orchestrator config path
    done.2.files = host.files ∨
      ∃ node info, host.tree.get? path = some node ∧ node.mount = some info ∧
        done.1 = .ok (.unmounted path info.point) ∧
        Path.startsWith info.point config.mountDir = true ∧
        host.files.removeDirectory info.point = .ok done.2.files := by
  intro done
  cases hget : host.tree.get? path with
  | none =>
    left
    simp [done, Host.unmount, hget]
  | some node =>
    cases hmount : node.mount with
    | none =>
      left
      simp [done, Host.unmount, hget, hmount]
    | some info =>
      rcases hasked : orchestrator.unmount path info.point host.mounts with ⟨code | _, mounts⟩
      · left
        simp [done, Host.unmount, hget, hmount, hasked]
      · -- the orchestrator has agreed, so the answer is a success whatever the files do
        have hdone : done = (.ok (.unmounted path info.point),
            ⟨(host.tree.clearMount path).1,
              if Path.startsWith info.point config.mountDir then
                withoutDirectory host.files info.point
              else host.files, mounts⟩) := by
          simp [done, Host.unmount, hget, hmount, hasked, noteUnmount,
            Tree.clearMount_of_mounted hget hmount]
        rw [hdone]
        cases hinside : Path.startsWith info.point config.mountDir with
        | false => exact .inl rfl
        | true =>
          simp only [if_true, withoutDirectory]
          cases hremoved : host.files.removeDirectory info.point with
          | error e => exact .inl rfl
          | ok removed => exact .inr ⟨node, info, rfl, hmount, rfl, hinside, hremoved⟩

/-- Whatever comes of a request to unmount, everything stays in a directory. -/
theorem unmount_nested (orchestrator : Orchestrator σ) (config : Config) (path : String)
    {host : Host σ} (h : host.files.Nested) :
    (host.unmount orchestrator config path).2.files.Nested := by
  obtain hkept | ⟨node, info, -, -, -, -, hremoved⟩ :=
    unmount_keeps_or_removes orchestrator config path host
  · rwa [hkept]
  · exact h.removeDirectory hremoved

/-- What has happened when a request to mount succeeds. -/
theorem mount_noted_eq_ok {host : Host σ} {event : Notification}
    (h : (host.noted.mount orchestrator.noting config path options).1 = .ok event) :
    ∃ node request files mounts, host.tree.get? path = some node ∧ node.mount = none ∧
      request.device = path ∧
      request.point = choosePoint config.mountDir host.tree host.files node.record ∧
      host.noted.mount orchestrator.noting config path options =
        (.ok (.mounted path request.info),
          ⟨(host.tree.setMount path request.info).1, files, mounts, [(.mount request, .ok ())]⟩) := by
  obtain ⟨code, hrefuses⟩ | ⟨decided, hgrants⟩ :=
    refuses_or_grants config.filesystems host.tree path options
  · rw [mount_noted_of_refuses hrefuses] at h
    cases h
  · rw [mount_noted_of_grants hgrants] at h ⊢
    obtain ⟨node, hget, hrecord, hmount⟩ := hgrants.exists_node
    obtain ⟨request, hrequest⟩ : ∃ request,
        request = decided.request config.mountDir path host.tree host.files := ⟨_, rfl⟩
    have hdevice : request.device = path := by rw [hrequest]; rfl
    have hpoint : request.point =
        choosePoint config.mountDir host.tree host.files node.record := by
      rw [hrequest, hrecord]
      rfl
    rw [← hrequest] at h ⊢
    rcases hmade : host.files.makeDirectories request.point with ⟨made, outcome⟩
    cases outcome with
    | error e =>
      rw [carryOut_noted_of_unmade hmade] at h
      cases h
    | ok _ =>
      rcases hasked : orchestrator.mount request host.mounts with ⟨result, mounts⟩
      cases result with
      | error code =>
        rw [carryOut_noted_of_failed hmade hasked] at h
        cases h
      | ok _ =>
        rw [← hdevice] at hget
        have hmounted := carryOut_noted_of_mounted hmade hasked hget hmount
        rw [hdevice] at hget hmounted
        refine ⟨node, request, made, mounts, hget, hmount, hdevice, hpoint, hmounted.trans ?_⟩
        rw [Tree.setMount_of_unmounted hget hmount]

/-- A mounted device is unmounted when the orchestrator agrees, and its directory is taken away. -/
theorem unmount_noted_of_mounted {tree cleared : Tree} {files : FileTree} {mounts after : σ}
    {notes : List (Call × Except ErrorCode Unit)} {node : Node} {info : Info} {event : Notification}
    (hget : tree.get? path = some node) (hmount : node.mount = some info)
    (hinside : Path.startsWith info.point config.mountDir = true)
    (hasked : orchestrator.unmount path info.point mounts = (.ok (), after))
    (hclear : tree.clearMount path = (cleared, some event)) :
    Host.unmount orchestrator.noting config path ⟨tree, files, mounts, notes⟩ =
      (.ok event, ⟨cleared, withoutDirectory files info.point, after,
        notes ++ [(.unmount path info.point, .ok ())]⟩) := by
  simp only [Host.unmount, hget, hmount, hinside, Orchestrator.noting, Noted.ask, Orchestrator.ask,
    hasked, noteUnmount, hclear, if_true]

/-- When a device that was mounted on request is unmounted on request, whatever has become of the
files and of the orchestrator's state meanwhile, and the orchestrator succeeds and nothing is in the
mount point, then the request succeeds.  The orchestrator has been asked to unmount just what it was
asked to mount, and that is what is told.  The tree is just as it was before the mount, and there is no
directory left at the mount point. -/
theorem unmount_undoes_mount {host : Host σ} (hreachable : host.tree.Reachable)
    (hdevice : Path.IsName (Path.lastPiece path)) {event : Notification}
    (hmounted : (host.noted.mount orchestrator.noting config path options).1 = .ok event) :
    let mounted := (host.noted.mount orchestrator.noting config path options).2
    ∃ request : Request, request.device = path ∧ event = .mounted path request.info ∧
      mounted.mounts.notes = [(.mount request, .ok ())] ∧
      ∀ (files : FileTree) (mounts : σ), files.isNonEmptyDirectory request.point = false →
        (orchestrator.unmount path request.point mounts).1 = .ok () →
        let unmounted := Host.unmount orchestrator.noting config path
          ⟨mounted.tree, files, mounts, mounted.mounts.notes⟩
        unmounted.1 = .ok (.unmounted path request.point) ∧
          unmounted.2.mounts.notes =
            [(.mount request, .ok ()), (.unmount path request.point, .ok ())] ∧
          unmounted.2.tree = host.tree ∧
          unmounted.2.files.isDirectory request.point = false := by
  obtain ⟨node, request, made, state, hget, hmount, hpath, hpoint, hdone⟩ :=
    mount_noted_eq_ok hmounted
  rw [hdone] at hmounted ⊢
  refine ⟨request, hpath, (Except.ok.inj hmounted).symm, rfl, fun files mounts hempty hasked => ?_⟩
  rw [← Tree.path_of_get? hget] at hdevice
  obtain ⟨name, hname, hjoin⟩ :=
    exists_choosePoint_eq_join config.mountDir host.tree host.files hdevice
  have hpoint : request.info.point = Path.join config.mountDir name := hpoint.trans hjoin
  have hinside : Path.startsWith request.info.point config.mountDir = true := by
    rw [hpoint]
    exact Path.startsWith_join hname config.mountDir
  have hlast : Path.IsName (Path.lastPiece request.info.point) := by
    rw [hpoint, Path.lastPiece_join hname]
    exact hname
  rcases hanswer : orchestrator.unmount path request.point mounts with ⟨result, after⟩
  rw [hanswer] at hasked
  cases hasked
  have hclear := hreachable.wellFormed.paths.clearMount_setMount hget hmount request.info
  dsimp only
  rw [unmount_noted_of_mounted (Tree.get?_setMount hget hmount request.info) rfl hinside hanswer
    hclear]
  exact ⟨rfl, rfl, rfl, isDirectory_withoutDirectory hlast hempty⟩

/-- A stick's partition is mounted, and is unmounted while the directory that was made for it is still
empty. -/
theorem unmount_undoes_mount_of_stick :
    let orchestrator := Rehearsal.orchestrator
    let config := { Config.standard with mountDir := "media" }
    let host : Host Rehearsal := ⟨.plugged, .empty, .start true⟩
    let mounted := (host.noted.mount orchestrator.noting config "/dev/sdb1" none).2
    let unmounted := Host.unmount orchestrator.noting config "/dev/sdb1" mounted
    mounted.files.isDirectory "media/sdb1" = true ∧
      unmounted.1 = .ok (.unmounted "/dev/sdb1" "media/sdb1") ∧
      unmounted.2.tree = host.tree ∧
      unmounted.2.files.isDirectory "media/sdb1" = false := by
  intro orchestrator config host
  have hmounted : (host.noted.mount orchestrator.noting config "/dev/sdb1" none).1 =
      .ok (.mounted "/dev/sdb1" ⟨"media/sdb1", "rw,nosuid,nodev,flush"⟩) := by
    decide +kernel
  have hmade : (host.noted.mount orchestrator.noting config "/dev/sdb1" none).2.files.isDirectory
      "media/sdb1" = true := by
    decide +kernel
  have hempty : FileTree.isNonEmptyDirectory
      (host.noted.mount orchestrator.noting config "/dev/sdb1" none).2.files "media/sdb1" = false := by
    decide +kernel
  have hasked : (orchestrator.unmount "/dev/sdb1" "media/sdb1"
      (host.noted.mount orchestrator.noting config "/dev/sdb1" none).2.mounts.mounts).1 = .ok () := by
    decide +kernel
  obtain ⟨request, -, hevent, hnotes, hundoes⟩ :=
    unmount_undoes_mount Tree.plugged_reachable (by decide +kernel) hmounted
  have hpoint : request.point = "media/sdb1" :=
    (congrArg Info.point (Notification.mounted.inj hevent).2).symm
  rw [hpoint] at hundoes
  generalize host.noted.mount orchestrator.noting config "/dev/sdb1" none = done at *
  obtain ⟨hanswer, -, htree, hgone⟩ := hundoes _ _ hempty hasked
  exact ⟨hmade, hanswer, htree, hgone⟩

end Host

end Mount

end RemovableMedia
