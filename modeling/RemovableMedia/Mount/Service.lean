import RemovableMedia.Config
import RemovableMedia.Mount.Orchestrator
import RemovableMedia.Mount.Point

/-!
# Mounting on request

What a request to mount, unmount or power off a device means: what it is checked against, what is
asked of the orchestrator, and how directories and the device tree follow.  A request that is
refused changes nothing in the tree.
-/

set_option autoImplicit false

namespace RemovableMedia.Mount

/-- What requests work on: the devices, the files, and the orchestrator's state. -/
structure Host (σ : Type) where
  tree : Tree
  files : FileTree
  mounts : σ

/-- How a device is to be mounted. -/
structure Plan where
  record : Device.Record
  filesystem : String
  options : List String
deriving DecidableEq, Repr

/-- How a device is to be mounted on request, or the first reason not to do it. -/
def plan (filesystems : Filesystems) (tree : Tree) (path : String) (options : Option String) :
    Except ErrorCode Plan := do
  let node ←
    match tree.get? path with
    | some node => pure node
    | none => throw .noSuchRemovableDevice
  if !node.record.isMountable then throw .noSuchRemovableDevice
  let name ←
    match node.record.filesystem with
    | some name => pure name
    | none => throw .fstypeNotRecognized
  let filesystem ←
    match filesystems.get? name with
    | some filesystem => pure filesystem
    | none => throw .unsupportedFstype
  if node.mount.isSome then throw .deviceAlreadyMounted
  let options ← filesystem.resolve options
  return ⟨node.record, name, options⟩

/-- The request that a plan leads to. -/
def Plan.request (plan : Plan) (mountDir path : String) (tree : Tree) (files : FileTree) :
    Request :=
  ⟨path, choosePoint mountDir tree files plan.record, plan.filesystem, plan.options⟩

/-- The files without a directory, if that can be removed. -/
def withoutDirectory (files : FileTree) (path : String) : FileTree :=
  match files.removeDirectory path with
  | .ok files => files
  | .error _ => files

namespace Host

variable {σ : Type}

/-- Notes in the tree that a request was carried out. -/
def noteMount (host : Host σ) (request : Request) : Except ErrorCode Notification × Host σ :=
  match host.tree.setMount request.device request.info with
  | (tree, some event) => (.ok event, { host with tree })
  | (tree, none) => (.error .genericError, { host with tree })

/-- Has a request carried out.  A mount point that had to be made is removed again if the
orchestrator fails. -/
def carryOut (orchestrator : Orchestrator σ) (request : Request) (host : Host σ) :
    Except ErrorCode Notification × Host σ :=
  match host.files.makeDirectories request.point with
  | (files, .error _) => (.error .genericError, { host with files })
  | (files, .ok ()) =>
    match orchestrator.mount request host.mounts with
    | (.error code, mounts) =>
      let files :=
        if host.files.exists? request.point then files else withoutDirectory files request.point
      (.error code, { host with files, mounts })
    | (.ok (), mounts) => noteMount { host with files, mounts } request

/-- Mounts a device. -/
def mount (orchestrator : Orchestrator σ) (config : Config) (path : String)
    (options : Option String) (host : Host σ) : Except ErrorCode Notification × Host σ :=
  match plan config.filesystems host.tree path options with
  | .error code => (.error code, host)
  | .ok plan =>
    host.carryOut orchestrator (plan.request config.mountDir path host.tree host.files)

/-- Notes in the tree that a device is no longer mounted. -/
def noteUnmount (host : Host σ) (path : String) : Except ErrorCode Notification × Host σ :=
  match host.tree.clearMount path with
  | (tree, some event) => (.ok event, { host with tree })
  | (tree, none) => (.error .genericError, { host with tree })

/-- Unmounts a device.  Its mount point is removed if it lies in the mount directory and is
empty. -/
def unmount (orchestrator : Orchestrator σ) (config : Config) (path : String) (host : Host σ) :
    Except ErrorCode Notification × Host σ :=
  match host.tree.get? path with
  | none => (.error .noSuchRemovableDevice, host)
  | some node =>
    match node.mount with
    | none => (.error .deviceNotMounted, host)
    | some info =>
      match orchestrator.unmount path info.point host.mounts with
      | (.error code, mounts) => (.error code, { host with mounts })
      | (.ok (), mounts) =>
        let files :=
          if Path.startsWith info.point config.mountDir then
            withoutDirectory host.files info.point
          else host.files
        noteUnmount { host with files, mounts } path

/-- Powers a disk off of which nothing is mounted. -/
def poweroff (orchestrator : Orchestrator σ) (path : String) (host : Host σ) :
    Except ErrorCode Unit × Host σ :=
  match host.tree.get? path with
  | none => (.error .noSuchRemovableDevice, host)
  | some node =>
    if node.record.kind ≠ .stateless then (.error .noSuchRemovableDevice, host)
    else if (host.tree.children path).any fun child => child.mount.isSome then
      (.error .deviceAlreadyMounted, host)
    else
      match orchestrator.poweroff path host.mounts with
      | (outcome, mounts) => (outcome, { host with mounts })

/-- Takes over what is mounted at the moment. -/
def reconcile (orchestrator : Orchestrator σ) (host : Host σ) :
    Except String (List Notification) × Host σ :=
  match orchestrator.table host.mounts with
  | .ok table =>
    let (tree, events) := host.tree.reconcile table
    (.ok events, { host with tree })
  | .error reason => (.error reason, host)

end Host

end RemovableMedia.Mount
