import RemovableMedia.Proofs.Files.Directories
import RemovableMedia.Proofs.Mount.Attempt
import RemovableMedia.Proofs.Mount.Options
import RemovableMedia.Proofs.Mount.Point
import RemovableMedia.Proofs.Tree.Invariant

/-!
# What becomes of a request to mount

A request to mount is refused for the first reason that there is against it (`Refuses`), without
anything being done, or it is granted (`Grants`).  If it is granted and its mount point can be made,
the orchestrator is asked once.  If it fails, the mount point is removed again, unless it was there
before (`exists?_undone`); otherwise the answer and the tree tell of the mount that was asked for
(`mount_decides_and_rolls_back`).

Whether the mount point was there is seen before the directories that lead to it are made.  A mount
directory that goes up out of a directory which is missing then makes a difference: its mount points
are not there before, though the places that they stand for may be
(`roll_back_fails_above_missing_directories`).
-/

set_option autoImplicit false

namespace RemovableMedia.Mount

variable {σ : Type} {filesystems : Filesystems} {tree : Tree} {path : String} {options : Option String}

/-! ## The decision -/

/-- The options of a mount: the defaults if a client asks for nothing, and else what it asks for, of
which every piece is on the whitelist. -/
inductive Filesystem.Resolves (filesystem : Filesystem) : Option String → List String → Prop where
  | defaults : filesystem.Resolves none filesystem.defaults
  | chosen {text : String}
      (hlisted : ∀ piece ∈ Text.splitString ',' text, Whitelisted filesystem.allowed piece) :
      filesystem.Resolves (some text) (Text.splitString ',' text)

/-- The first reason against a mount.  Each one only counts where those before it do not apply. -/
inductive Refuses (filesystems : Filesystems) (tree : Tree) (path : String) (options : Option String) :
    ErrorCode → Prop where
  | unknown (hget : tree.get? path = none) : Refuses filesystems tree path options .noSuchRemovableDevice
  | unmountable {node : Node} (hget : tree.get? path = some node)
      (hmountable : node.record.isMountable = false) :
      Refuses filesystems tree path options .noSuchRemovableDevice
  | unrecognized {node : Node} (hget : tree.get? path = some node)
      (hmountable : node.record.isMountable = true) (hname : node.record.filesystem = none) :
      Refuses filesystems tree path options .fstypeNotRecognized
  | unsupported {node : Node} {name : String} (hget : tree.get? path = some node)
      (hmountable : node.record.isMountable = true) (hname : node.record.filesystem = some name)
      (hlisted : filesystems.get? name = none) :
      Refuses filesystems tree path options .unsupportedFstype
  | mounted {node : Node} {name : String} {filesystem : Filesystem} {info : Info}
      (hget : tree.get? path = some node) (hmountable : node.record.isMountable = true)
      (hname : node.record.filesystem = some name) (hlisted : filesystems.get? name = some filesystem)
      (hmount : node.mount = some info) :
      Refuses filesystems tree path options .deviceAlreadyMounted
  | forbidden {node : Node} {name : String} {filesystem : Filesystem} {text : String}
      (hget : tree.get? path = some node) (hmountable : node.record.isMountable = true)
      (hname : node.record.filesystem = some name) (hlisted : filesystems.get? name = some filesystem)
      (hmount : node.mount = none) (hoptions : options = some text)
      (hpiece : ∃ piece ∈ Text.splitString ',' text, ¬ Whitelisted filesystem.allowed piece) :
      Refuses filesystems tree path options .failedParsingMountOptions

/-- Nothing is against a mount, and it is to be done as planned. -/
inductive Grants (filesystems : Filesystems) (tree : Tree) (path : String) (options : Option String) :
    Plan → Prop where
  | intro {node : Node} {name : String} {filesystem : Filesystem} {resolved : List String}
      (hget : tree.get? path = some node) (hmountable : node.record.isMountable = true)
      (hname : node.record.filesystem = some name) (hlisted : filesystems.get? name = some filesystem)
      (hmount : node.mount = none) (hoptions : filesystem.Resolves options resolved) :
      Grants filesystems tree path options ⟨node.record, name, resolved⟩

/-- What is granted is granted for a device that is there and believed unmounted. -/
theorem Grants.exists_node {decided : Plan} (h : Grants filesystems tree path options decided) :
    ∃ node, tree.get? path = some node ∧ node.record = decided.record ∧ node.mount = none := by
  cases h with
  | intro hget _ _ _ hmount _ => exact ⟨_, hget, rfl, hmount⟩

/-- Options that are resolved are found by resolving them. -/
theorem Filesystem.Resolves.resolve_eq {filesystem : Filesystem} {resolved : List String}
    (h : filesystem.Resolves options resolved) : filesystem.resolve options = .ok resolved := by
  cases h with
  | defaults => rfl
  | chosen hlisted => exact Filesystem.resolve_eq_ok_iff.2 ⟨rfl, hlisted⟩

/-- A piece that is not on the whitelist makes the options fail. -/
theorem Filesystem.resolve_of_not_whitelisted {filesystem : Filesystem} {text : String}
    (h : ∃ piece ∈ Text.splitString ',' text, ¬ Whitelisted filesystem.allowed piece) :
    filesystem.resolve (some text) = .error .failedParsingMountOptions := by
  obtain ⟨piece, hpiece, hnot⟩ := h
  unfold Filesystem.resolve
  refine if_neg fun hall => hnot ?_
  exact Filesystem.accepts_iff.1 (List.all_eq_true.1 hall piece hpiece)

/-- Where there is a reason against a mount, the plan fails with it. -/
theorem plan_of_refuses {code : ErrorCode} (h : Refuses filesystems tree path options code) :
    plan filesystems tree path options = .error code := by
  cases h with
  | unknown hget =>
    unfold plan
    rw [hget]
    rfl
  | unmountable hget hmountable =>
    rw [Host.plan_eq hget, hmountable]
    rfl
  | unrecognized hget hmountable hname =>
    rw [Host.plan_eq hget, hmountable, hname]
    rfl
  | unsupported hget hmountable hname hlisted =>
    rw [Host.plan_eq hget, hmountable, hname]
    simp only [if_true, hlisted]
  | mounted hget hmountable hname hlisted hmount =>
    rw [Host.plan_eq hget, hmountable, hname]
    simp only [if_true, hlisted, hmount, Option.isSome_some]
  | forbidden hget hmountable hname hlisted hmount hoptions hpiece =>
    rw [Host.plan_eq hget, hmountable, hname, hoptions]
    simp [hlisted, hmount, Filesystem.resolve_of_not_whitelisted hpiece, Except.map]

/-- Where nothing is against a mount, it is planned. -/
theorem plan_of_grants {decided : Plan} (h : Grants filesystems tree path options decided) :
    plan filesystems tree path options = .ok decided := by
  cases h with
  | intro hget hmountable hname hlisted hmount hoptions =>
    rw [Host.plan_eq hget, hmountable, hname]
    simp [hlisted, hmount, hoptions.resolve_eq, Except.map]

/-- There is a reason against a mount, or there is none. -/
theorem refuses_or_grants (filesystems : Filesystems) (tree : Tree) (path : String)
    (options : Option String) :
    (∃ code, Refuses filesystems tree path options code) ∨
      ∃ decided, Grants filesystems tree path options decided := by
  cases hget : tree.get? path with
  | none => exact .inl ⟨_, .unknown hget⟩
  | some node =>
    cases hmountable : node.record.isMountable with
    | false => exact .inl ⟨_, .unmountable hget hmountable⟩
    | true =>
      cases hname : node.record.filesystem with
      | none => exact .inl ⟨_, .unrecognized hget hmountable hname⟩
      | some name =>
        cases hlisted : filesystems.get? name with
        | none => exact .inl ⟨_, .unsupported hget hmountable hname hlisted⟩
        | some filesystem =>
          cases hmount : node.mount with
          | some info => exact .inl ⟨_, .mounted hget hmountable hname hlisted hmount⟩
          | none =>
            cases options with
            | none => exact .inr ⟨_, .intro hget hmountable hname hlisted hmount .defaults⟩
            | some text =>
              by_cases hall : ∀ piece ∈ Text.splitString ',' text,
                  Whitelisted filesystem.allowed piece
              · exact .inr ⟨_, .intro hget hmountable hname hlisted hmount (.chosen hall)⟩
              · push Not at hall
                exact .inl ⟨_, .forbidden hget hmountable hname hlisted hmount rfl hall⟩

/-! ## The mount point -/

/-- The files after a mount failed for which a mount point had been made. -/
def undone (files made : FileTree) (point : String) : FileTree :=
  if files.exists? point then made else withoutDirectory made point

/-- Where everything lies in a directory, undoing the making of a mount point that never goes up
leaves it just where it was there before, and loses nothing. -/
theorem exists?_undone {files made : FileTree} {point : String} (hnested : files.Nested)
    (hup : .up ∉ Path.parts point) (hmade : files.makeDirectories point = (made, .ok ())) :
    (undone files made point).exists? point = files.exists? point ∧
      files.Within (undone files made point) := by
  have hmakes := FileTree.makeDirectories_makes files point
  rw [hmade] at hmakes
  unfold undone
  cases hexists : files.exists? point with
  | true =>
    obtain ⟨location, hlocation⟩ := FileTree.exists?_eq_true_iff.1 hexists
    exact ⟨FileTree.exists?_eq_true_iff.2 ⟨location, hmakes.within.resolve hlocation⟩, hmakes.within⟩
  | false =>
    rw [if_neg Bool.false_ne_true]
    by_cases hempty : point = ""
    · subst hempty
      cases hmade
      exact ⟨rfl, .refl files⟩
    · obtain ⟨between, hbetween, hmake⟩ :=
        FileTree.makeDirectories_fresh hnested hup hempty hexists hmade
      obtain ⟨removed, hremoved, hkept⟩ :=
        FileTree.removeDirectory_of_makeDirectory (hbetween.nested hnested) hmake
      have hwithout : withoutDirectory made point = removed := by
        unfold withoutDirectory
        rw [hremoved]
      rw [hwithout]
      exact ⟨(FileTree.exists?_of_removeDirectory hremoved).1, hbetween.within.trans hkept⟩

/-- Everything stays in a directory when a mount point is taken away. -/
theorem withoutDirectory_nested {files : FileTree} (h : files.Nested) (point : String) :
    (withoutDirectory files point).Nested := by
  unfold withoutDirectory
  split
  · rename_i hremoved
    exact h.removeDirectory hremoved
  · exact h

/-! ## The whole request -/

namespace Host

/-- Whatever comes of a request to mount, everything stays in a directory. -/
theorem mount_nested (orchestrator : Orchestrator σ) (config : Config) (path : String)
    (options : Option String) {host : Host σ} (h : host.files.Nested) :
    (host.mount orchestrator config path options).2.files.Nested := by
  unfold Host.mount
  cases plan config.filesystems host.tree path options with
  | error code => exact h
  | ok decided =>
    simp only
    generalize decided.request config.mountDir path host.tree host.files = request
    unfold carryOut
    rcases hmakes : host.files.makeDirectories request.point with ⟨made, outcome⟩
    have hmade : made.Nested := by
      have hmade := h.makeDirectories request.point
      rwa [hmakes] at hmade
    cases outcome with
    | error e => exact hmade
    | ok _ =>
      rcases orchestrator.mount request host.mounts with ⟨result, mounts⟩
      cases result with
      | error code =>
        dsimp only
        split
        · exact hmade
        · exact withoutDirectory_nested hmade request.point
      | ok _ =>
        simp only [noteMount]
        split <;> exact hmade

section Noted

variable {orchestrator : Orchestrator σ} {config : Config} {request : Request} {host : Host σ}
  {made : FileTree}

/-- A request that is refused asks for nothing and changes nothing. -/
theorem mount_noted_of_refuses {code : ErrorCode}
    (h : Refuses config.filesystems host.tree path options code) :
    host.noted.mount orchestrator.noting config path options = (.error code, host.noted) := by
  have hplan : plan config.filesystems host.noted.tree path options = .error code :=
    plan_of_refuses h
  unfold Host.mount
  rw [hplan]

/-- A request that is granted is carried out as planned. -/
theorem mount_noted_of_grants {decided : Plan}
    (h : Grants config.filesystems host.tree path options decided) :
    host.noted.mount orchestrator.noting config path options =
      host.noted.carryOut orchestrator.noting
        (decided.request config.mountDir path host.tree host.files) := by
  have hplan : plan config.filesystems host.noted.tree path options = .ok decided :=
    plan_of_grants h
  unfold Host.mount
  rw [hplan]
  rfl

/-- If the mount point cannot be made, nobody is asked. -/
theorem carryOut_noted_of_unmade {e : OsError}
    (hmade : host.files.makeDirectories request.point = (made, .error e)) :
    host.noted.carryOut orchestrator.noting request =
      (.error .genericError, { host.noted with files := made }) := by
  simp only [carryOut, noted, hmade]

/-- If the orchestrator fails, its reason is the answer and the mount point is undone. -/
theorem carryOut_noted_of_failed {code : ErrorCode} {mounts : σ}
    (hmade : host.files.makeDirectories request.point = (made, .ok ()))
    (hasked : orchestrator.mount request host.mounts = (.error code, mounts)) :
    host.noted.carryOut orchestrator.noting request =
      (.error code, ⟨host.tree, undone host.files made request.point, mounts,
        [(.mount request, .error code)]⟩) := by
  simp only [carryOut, noted, Orchestrator.noting, Noted.ask, Orchestrator.ask, hmade, hasked]
  rfl

/-- If the orchestrator succeeds, the device is told and believed to be mounted. -/
theorem carryOut_noted_of_mounted {mounts : σ} {node : Node}
    (hmade : host.files.makeDirectories request.point = (made, .ok ()))
    (hasked : orchestrator.mount request host.mounts = (.ok (), mounts))
    (hget : host.tree.get? request.device = some node) (hmount : node.mount = none) :
    host.noted.carryOut orchestrator.noting request =
      (.ok (.mounted request.device request.info),
        ⟨host.tree.update request.device fun node => { node with mount := some request.info }, made,
          mounts, [(.mount request, .ok ())]⟩) := by
  simp [carryOut, noted, Orchestrator.noting, Noted.ask, Orchestrator.ask, hmade, hasked, noteMount,
    Tree.setMount_of_unmounted hget hmount]

/-- Nobody is asked for anything but the mount that was granted. -/
theorem granted_of_mount_noted {call : Call} {answer : Except ErrorCode Unit}
    (h : (call, answer) ∈
      (host.noted.mount orchestrator.noting config path options).2.mounts.notes) :
    ∃ decided, Grants config.filesystems host.tree path options decided ∧
      call = .mount (decided.request config.mountDir path host.tree host.files) := by
  obtain ⟨code, hrefuses⟩ | ⟨decided, hgrants⟩ :=
    refuses_or_grants config.filesystems host.tree path options
  · rw [mount_noted_of_refuses hrefuses] at h
    cases h
  · refine ⟨decided, hgrants, ?_⟩
    rw [mount_noted_of_grants hgrants] at h
    obtain ⟨node, hget, -, hmount⟩ := hgrants.exists_node
    generalize hrequest : decided.request config.mountDir path host.tree host.files = request at h ⊢
    have hdevice : request.device = path := hrequest ▸ rfl
    rcases hmade : host.files.makeDirectories request.point with ⟨made, e | _⟩
    · rw [carryOut_noted_of_unmade hmade] at h
      cases h
    · rcases hasked : orchestrator.mount request host.mounts with ⟨code | _, mounts⟩
      · rw [carryOut_noted_of_failed hmade hasked] at h
        exact congrArg Prod.fst (List.mem_singleton.1 h)
      · rw [carryOut_noted_of_mounted hmade hasked (hdevice.symm ▸ hget) hmount] at h
        exact congrArg Prod.fst (List.mem_singleton.1 h)

end Noted

/-- Every request to mount is refused or granted.  If it is refused, the answer is the first reason
against it, and nothing has happened.  If it is granted and its mount point cannot be made, nobody is
asked.  If it can be made, it is there when the orchestrator is asked, just once, for the device with
its file system and the options that were resolved, at the mount point that was chosen.  When the
orchestrator fails, its reason is the answer, the tree is as it was, and the mount point is there if
and only if it was there before, provided that neither the mount directory nor the device's own name
goes up.  When it succeeds, both the answer and the tree have the mount point and the options with
commas between them, and all other devices are as they were. -/
theorem mount_decides_and_rolls_back (orchestrator : Orchestrator σ) (config : Config) (path : String)
    (options : Option String) (host : Host σ) :
    let done := host.noted.mount orchestrator.noting config path options
    ((∃ code, Refuses config.filesystems host.tree path options code) ∨
      ∃ decided, Grants config.filesystems host.tree path options decided) ∧
    (∀ code, Refuses config.filesystems host.tree path options code →
      done = (.error code, host.noted)) ∧
    ∀ decided, Grants config.filesystems host.tree path options decided →
      let point := choosePoint config.mountDir host.tree host.files decided.record
      let request : Request := ⟨path, point, decided.filesystem, decided.options⟩
      (∀ made e, host.files.makeDirectories point = (made, .error e) →
        done = (.error .genericError, { host.noted with files := made })) ∧
      ∀ made, host.files.makeDirectories point = (made, .ok ()) →
        (Path.IsName (Path.lastPiece path) → made.isDirectory point = true) ∧
        ∃ result mounts, orchestrator.mount request host.mounts = (result, mounts) ∧
          done.2.mounts = ⟨mounts, [(.mount request, result)]⟩ ∧
          (∀ code, result = .error code →
            done.1 = .error code ∧ done.2.tree = host.tree ∧
            (host.files.Nested → .up ∉ Path.parts config.mountDir → Path.lastPiece path ≠ ".." →
              done.2.files.exists? point = host.files.exists? point ∧
                host.files.Within done.2.files)) ∧
          (result = .ok () →
            let info : Info := ⟨point, ",".intercalate decided.options⟩
            done.1 = .ok (.mounted path info) ∧ done.2.files = made ∧
            done.2.tree.get? path = some ⟨decided.record, some info⟩ ∧
            ∀ other, other ≠ path → done.2.tree.get? other = host.tree.get? other) := by
  intro done
  refine ⟨refuses_or_grants _ _ _ _, fun code hrefuses => ?_, fun decided hgrants => ?_⟩
  · exact mount_noted_of_refuses hrefuses
  · intro point request
    have hdone : done = host.noted.carryOut orchestrator.noting request :=
      mount_noted_of_grants hgrants
    obtain ⟨node, hget, hrecord, hmount⟩ := hgrants.exists_node
    have hpath : decided.record.path = path := hrecord ▸ Tree.path_of_get? hget
    refine ⟨fun made e hmade => ?_, fun made hmade => ⟨fun hdevice => ?_, ?_⟩⟩
    · rw [hdone]
      exact carryOut_noted_of_unmade hmade
    · rw [← hpath] at hdevice
      obtain ⟨name, hname, hjoin⟩ :=
        exists_choosePoint_eq_join config.mountDir host.tree host.files hdevice
      -- the last name is joined to the mount directory, so the point is not empty
      have hne : point ≠ "" := by
        intro hempty
        exact Path.join_ne_empty hname config.mountDir (hjoin.symm.trans hempty)
      exact FileTree.isDirectory_of_makeDirectories hne hmade
    · rcases hasked : orchestrator.mount request host.mounts with ⟨result, mounts⟩
      refine ⟨result, mounts, rfl, ?_⟩
      cases result with
      | error code =>
        have hcarried := hdone.trans (carryOut_noted_of_failed hmade hasked)
        have hfiles : done.2.files = undone host.files made point := congrArg (·.2.files) hcarried
        refine ⟨congrArg (·.2.mounts) hcarried, fun _ hcode => ?_, nofun⟩
        cases hcode
        refine ⟨congrArg (·.1) hcarried, congrArg (·.2.tree) hcarried, fun hnested hdir hdevice => ?_⟩
        rw [← hpath] at hdevice
        rw [hfiles]
        exact exists?_undone hnested
          (up_not_mem_parts_choosePoint hdir host.tree host.files hdevice) hmade
      | ok _ =>
        have hcarried := hdone.trans (carryOut_noted_of_mounted hmade hasked hget hmount)
        have htree : done.2.tree =
            host.tree.update path fun node => { node with mount := some request.info } :=
          congrArg (·.2.tree) hcarried
        have hlook : ∀ other, done.2.tree.get? other =
            if other = path then some { node with mount := some request.info }
            else host.tree.get? other := by
          intro other
          rw [htree, Tree.get?_update (f := fun node => { node with mount := some request.info })
            (fun _ hpath => hpath), hget]
          rfl
        refine ⟨congrArg (·.2.mounts) hcarried, nofun, fun _ => ⟨congrArg (·.1) hcarried,
          congrArg (·.2.files) hcarried, ?_, fun other hother => ?_⟩⟩
        · rw [hlook, if_pos rfl, ← hrecord]
          rfl
        · rw [hlook, if_neg hother]

/-- A host on which a stick is plugged in and all mounts fail. -/
def failing (files : FileTree) : Host Rehearsal :=
  ⟨.plugged, files, { Rehearsal.start true with
    refusals := { Refusals.none with mount := some .mountPointBusy } }⟩

/-- In a plain mount directory, the directory that was made for a stick is gone again when its mount
fails. -/
theorem mount_decides_and_rolls_back_of_busy :
    let host := failing .empty
    let config := { Config.standard with mountDir := "media" }
    let request : Request :=
      ⟨"/dev/sdb1", "media/sdb1", "vfat", ["rw", "nosuid", "nodev", "flush"]⟩
    let done := host.noted.mount Rehearsal.orchestrator.noting config "/dev/sdb1" none
    done.2.mounts.notes = [(.mount request, .error .mountPointBusy)] ∧
      done.1 = .error .mountPointBusy ∧ done.2.tree = host.tree ∧
      host.files.exists? "media/sdb1" = false ∧ done.2.files.exists? "media/sdb1" = false ∧
      host.files.Within done.2.files := by
  intro host config request
  have hgrants : Grants config.filesystems host.tree "/dev/sdb1" none
      ⟨.usbPartition, "vfat", ["rw", "nosuid", "nodev", "flush"]⟩ := by
    have hget : host.tree.get? "/dev/sdb1" = some ⟨.usbPartition, none⟩ := by decide +kernel
    have hlisted : config.filesystems.get? "vfat" =
        some ⟨["rw", "nosuid", "nodev", "flush"], ownerlessWords⟩ := by
      decide +kernel
    exact .intro hget rfl rfl hlisted rfl .defaults
  have hpoint : choosePoint config.mountDir host.tree host.files .usbPartition = "media/sdb1" := by
    decide +kernel
  have hmade : host.files.makeDirectories "media/sdb1" =
      ((host.files.makeDirectories "media/sdb1").1, .ok ()) := by
    decide +kernel
  have habsent : host.files.exists? "media/sdb1" = false := by decide +kernel
  obtain ⟨-, -, hgranted⟩ :=
    mount_decides_and_rolls_back Rehearsal.orchestrator config "/dev/sdb1" none host
  obtain ⟨-, hasks⟩ := hgranted _ hgrants
  dsimp only at hasks
  rw [hpoint] at hasks
  obtain ⟨-, result, mounts, hasked, hnotes, hfailed, -⟩ := hasks _ hmade
  have hresult : result = .error .mountPointBusy := (congrArg Prod.fst hasked).symm
  obtain ⟨hanswer, htree, hback⟩ := hfailed _ hresult
  obtain ⟨hexists, hwithin⟩ := hback .empty (by decide +kernel) (by decide +kernel)
  rw [hresult] at hnotes
  exact ⟨congrArg Noted.notes hnotes, hanswer, htree, habsent, hexists.trans habsent, hwithin⟩

/-- A mount directory that goes up out of directories which are missing.  In the first one they are made
below the mount point, which is therefore left behind, though it was not there before.  In the second
one the mount point was there before, but not under its path, so it is taken away. -/
theorem roll_back_fails_above_missing_directories :
    let mount := fun (mountDir : String) (host : Host Rehearsal) =>
      host.mount Rehearsal.orchestrator { Config.standard with mountDir } "/dev/sdb1" none
    let fresh := failing .empty
    let left := mount "media/sdb1/hub/../.." fresh
    let used := failing (FileTree.empty.makeDirectories "media/sdb1").1
    let taken := mount "x/../media" used
    fresh.tree.Reachable ∧
      (left.1 = .error .mountPointBusy ∧
        left.2.mounts.calls = [.mount ⟨"/dev/sdb1", "media/sdb1/hub/../../sdb1", "vfat",
          ["rw", "nosuid", "nodev", "flush"]⟩] ∧
        fresh.files.exists? "media/sdb1/hub/../../sdb1" = false ∧
        left.2.files.exists? "media/sdb1/hub/../../sdb1" = true) ∧
      taken.1 = .error .mountPointBusy ∧
        used.files.isDirectory "media/sdb1" = true ∧ taken.2.files.exists? "media/sdb1" = false := by
  intro mount fresh left used taken
  exact ⟨Tree.plugged_reachable, by decide +kernel, by decide +kernel, by decide +kernel,
    by decide +kernel⟩

end Host

end RemovableMedia.Mount
