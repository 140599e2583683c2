import RemovableMedia.Proofs.Mount.Attempt
import RemovableMedia.Proofs.Tree.Invariant

/-!
# What happens on a host

A host lives through actions on its devices, requests to mount and unmount, and looks at the live
mount table; meanwhile its files and the state of its orchestrator may change in any way.  A
request that is carried out changes the mount of one device and tells of it, and every other
request leaves the tree alone (`mount_cases`, `unmount_cases`).
-/

set_option autoImplicit false

namespace RemovableMedia

open RemovableMedia.Device (Record)

/-! ## Steps of the tree -/

/-- What may be done to a tree with records that are allowed, and what is told of it.  Only a
device that is believed unmounted is mounted, and only one that is believed mounted is
unmounted. -/
inductive Tree.Step (allowed : Record → Prop) (tree : Tree) : List Notification → Tree → Prop where
  | silent : tree.Step allowed [] tree
  | apply {record : Record} (action : Device.Action) (hrecord : allowed record) :
      tree.Step allowed (tree.apply record action).2 (tree.apply record action).1
  | mounted {path : String} {node : Node} (info : Mount.Info) (hget : tree.get? path = some node)
      (hmount : node.mount = none) :
      tree.Step allowed [.mounted path info] (tree.setMount path info).1
  | unmounted {path : String} {node : Node} {info : Mount.Info}
      (hget : tree.get? path = some node) (hmount : node.mount = some info) :
      tree.Step allowed [.unmounted path info.point] (tree.clearMount path).1
  | reconcile (table : Mount.Table) :
      tree.Step allowed (tree.reconcile table).2 (tree.reconcile table).1

namespace Tree.Step

variable {allowed : Record → Prop} {tree next : Tree} {events : List Notification}

/-- No step makes a path occur twice. -/
theorem uniquePaths (hstep : tree.Step allowed events next) (h : tree.UniquePaths) :
    next.UniquePaths := by
  cases hstep with
  | silent => exact h
  | apply action hrecord => exact h.apply _ action
  | mounted info => exact h.remounted (setMount_remounted tree _ info)
  | unmounted => exact h.remounted (clearMount_remounted tree _)
  | reconcile table => exact h.remounted (reconcile_remounted tree table)

/-- Steps with records that are built keep the shape of the tree. -/
theorem wellFormed (hstep : tree.Step Record.Built events next) (h : tree.WellFormed) :
    next.WellFormed := by
  cases hstep with
  | silent => exact h
  | apply action hrecord => exact h.apply hrecord action
  | mounted info => exact h.remounted (setMount_remounted tree _ info)
  | unmounted => exact h.remounted (clearMount_remounted tree _)
  | reconcile table => exact h.remounted (reconcile_remounted tree table)

end Tree.Step

namespace Mount

variable {σ : Type}

/-! ## Histories -/

/-- One thing that happens on a host. -/
inductive Operation (σ : Type) where
  | apply (record : Record) (action : Device.Action)
  | mount (path : String) (options : Option String)
  | unmount (path : String)
  /-- The mounts that a table states are taken over. -/
  | reconcile (table : Table)
  /-- Others change the files and the state of the orchestrator. -/
  | interfere (files : FileTree) (mounts : σ)

/-- Whether an operation brings only records that are allowed. -/
def Operation.Brings (allowed : Record → Prop) : Operation σ → Prop
  | .apply record _ => allowed record
  | _ => True

/-- What is told of a request. -/
def told : Except ErrorCode Notification → List Notification
  | .ok event => [event]
  | .error _ => []

namespace Host

/-- What is told of an operation, and the host after it. -/
def perform (orchestrator : Orchestrator σ) (config : Config) (host : Host σ) :
    Operation σ → List Notification × Host σ
  | .apply record action =>
    let (tree, events) := host.tree.apply record action
    (events, { host with tree })
  | .mount path options =>
    let (result, host) := host.mount orchestrator config path options
    (told result, host)
  | .unmount path =>
    let (result, host) := host.unmount orchestrator config path
    (told result, host)
  | .reconcile table =>
    let (tree, events) := host.tree.reconcile table
    (events, { host with tree })
  | .interfere files mounts => ([], { host with files, mounts })

/-- What is told of operations one after another, and the host after them. -/
def run (orchestrator : Orchestrator σ) (config : Config) (host : Host σ) :
    List (Operation σ) → List Notification × Host σ
  | [] => ([], host)
  | operation :: rest =>
    let (events, host) := host.perform orchestrator config operation
    let (later, host) := host.run orchestrator config rest
    (events ++ later, host)

/-! ## Requests -/

/-- A request to mount either changes the mount of a device that was believed unmounted and tells
of it, or leaves the tree alone. -/
theorem mount_cases (orchestrator : Orchestrator σ) (config : Config) (path : String)
    (options : Option String) (host : Host σ) :
    (∃ node info, host.tree.get? path = some node ∧ node.mount = none ∧
      (host.mount orchestrator config path options).1 = .ok (.mounted path info) ∧
      (host.mount orchestrator config path options).2.tree = (host.tree.setMount path info).1) ∨
    ∃ code, (host.mount orchestrator config path options).1 = .error code ∧
      (host.mount orchestrator config path options).2.tree = host.tree := by
  have hattempt := mount_attempt orchestrator config path options host
  generalize host.mount orchestrator config path options = done at hattempt ⊢
  cases hattempt with
  | refused code files => exact .inr ⟨code, rfl, rfl⟩
  | failed files hwants hasked => exact .inr ⟨_, rfl, rfl⟩
  | carriedOut files hwants hasked =>
    obtain ⟨hdevice, hget, hmount⟩ := hwants
    exact .inl ⟨_, _, hget, hmount, rfl, rfl⟩

/-- A request to unmount either clears the mount of a device that was believed mounted and tells
of it, or leaves the tree alone. -/
theorem unmount_cases (orchestrator : Orchestrator σ) (config : Config) (path : String)
    (host : Host σ) :
    (∃ node info, host.tree.get? path = some node ∧ node.mount = some info ∧
      (host.unmount orchestrator config path).1 = .ok (.unmounted path info.point) ∧
      (host.unmount orchestrator config path).2.tree = (host.tree.clearMount path).1) ∨
    ∃ code, (host.unmount orchestrator config path).1 = .error code ∧
      (host.unmount orchestrator config path).2.tree = host.tree := by
  have hattempt := unmount_attempt orchestrator config path host
  generalize host.unmount orchestrator config path = done at hattempt ⊢
  cases hattempt with
  | refused code files => exact .inr ⟨code, rfl, rfl⟩
  | failed files hwants hasked => exact .inr ⟨_, rfl, rfl⟩
  | carriedOut files hwants hasked =>
    obtain ⟨hget, hmount⟩ := hwants
    exact .inl ⟨_, _, hget, hmount, rfl, rfl⟩

/-! ## Operations -/

/-- Every operation is a step of the tree. -/
theorem perform_step {allowed : Record → Prop} (orchestrator : Orchestrator σ) (config : Config)
    (host : Host σ) {operation : Operation σ} (hbrings : operation.Brings allowed) :
    host.tree.Step allowed (host.perform orchestrator config operation).1
      (host.perform orchestrator config operation).2.tree := by
  cases operation with
  | apply record action => exact .apply action hbrings
  | mount path options =>
    simp only [perform]
    obtain ⟨node, info, hget, hmount, hresult, htree⟩ | ⟨code, hresult, htree⟩ :=
      mount_cases orchestrator config path options host
    · rw [hresult, htree]
      exact .mounted info hget hmount
    · rw [hresult, htree]
      exact .silent
  | unmount path =>
    simp only [perform]
    obtain ⟨node, info, hget, hmount, hresult, htree⟩ | ⟨code, hresult, htree⟩ :=
      unmount_cases orchestrator config path host
    · rw [hresult, htree]
      exact .unmounted hget hmount
    · rw [hresult, htree]
      exact .silent
  | reconcile table => exact .reconcile table
  | interfere files mounts => exact .silent

end Host

/-! ## A partition that moves -/

/-- A partition comes to a stick and is mounted, is then found mounted at another place, and goes
with the stick. -/
def Rehearsal.partitionMoves : List (Operation Rehearsal) :=
  [.apply .usbPartition .online, .mount "/dev/sdb1" none,
    .reconcile [⟨"/dev/sdb1", ⟨"/mnt", "rw"⟩⟩], .apply .usbStick .remove]

end Mount

end RemovableMedia
