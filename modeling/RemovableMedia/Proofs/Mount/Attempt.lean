import RemovableMedia.Mount.Service
import RemovableMedia.Proofs.Tree.Operations

/-!
# What can come of a request

A request to mount, unmount or power off is refused before anybody is asked, or the orchestrator is
asked for one thing.  If the orchestrator fails, so does the request, for the same reason and without
a change of the tree.  If the orchestrator succeeds, so does the request: the tree was looked at
before, so there is nothing left that could go wrong (`mount_attempt`, `unmount_attempt` and
`poweroff_attempt`).

What an orchestrator is asked for can be noted (`Orchestrator.noting`), which changes nothing else
(`mount_noting`, `unmount_noting` and `poweroff_noting`).
-/

set_option autoImplicit false

namespace RemovableMedia.Mount

variable {σ : Type}

/-! ## Asking an orchestrator -/

/-- Has an orchestrator do something. -/
def Orchestrator.ask (orchestrator : Orchestrator σ) : Call → σ → Except ErrorCode Unit × σ
  | .mount request => orchestrator.mount request
  | .unmount device point => orchestrator.unmount device point
  | .poweroff device => orchestrator.poweroff device

/-- The state of an orchestrator, and what it was asked for with what came of it, the latest last. -/
structure Noted (σ : Type) where
  mounts : σ
  notes : List (Call × Except ErrorCode Unit)

/-- Has an orchestrator do something and notes it. -/
def Noted.ask (orchestrator : Orchestrator σ) (call : Call) (noted : Noted σ) :
    Except ErrorCode Unit × Noted σ :=
  let (result, mounts) := orchestrator.ask call noted.mounts
  (result, ⟨mounts, noted.notes ++ [(call, result)]⟩)

/-- An orchestrator that also notes what it is asked for. -/
def Orchestrator.noting (orchestrator : Orchestrator σ) : Orchestrator (Noted σ) where
  mount request := Noted.ask orchestrator (.mount request)
  unmount device point := Noted.ask orchestrator (.unmount device point)
  poweroff device := Noted.ask orchestrator (.poweroff device)
  table noted := orchestrator.table noted.mounts

/-- An orchestrator that notes is asked as the plain one, and the call is noted with what came of
it. -/
theorem ask_noting (orchestrator : Orchestrator σ) (call : Call) :
    orchestrator.noting.ask call = Noted.ask orchestrator call := by
  cases call <;> rfl

/-! ## Outcomes -/

namespace Host

/-- What can come of a request.  What it wants is a call together with what follows if the call
succeeds: the answer and the tree. -/
inductive Attempt {α : Type} (orchestrator : Orchestrator σ) (host : Host σ)
    (wants : Call → α → Tree → Prop) : Except ErrorCode α × Host σ → Prop
  /-- Nobody is asked. -/
  | refused (code : ErrorCode) (files : FileTree) :
      Attempt orchestrator host wants (.error code, { host with files })
  | failed {call : Call} {answer : α} {tree : Tree} {code : ErrorCode} {mounts : σ}
      (files : FileTree) (hwants : wants call answer tree)
      (hasked : orchestrator.ask call host.mounts = (.error code, mounts)) :
      Attempt orchestrator host wants (.error code, { host with files, mounts })
  | carriedOut {call : Call} {answer : α} {tree : Tree} {mounts : σ}
      (files : FileTree) (hwants : wants call answer tree)
      (hasked : orchestrator.ask call host.mounts = (.ok (), mounts)) :
      Attempt orchestrator host wants (.ok answer, ⟨tree, files, mounts⟩)

/-- A device that is believed unmounted is to be mounted as the call states. -/
inductive WantsMount (tree : Tree) (path : String) : Call → Notification → Tree → Prop
  | intro {request : Request} {node : Node} (hdevice : request.device = path)
      (hget : tree.get? path = some node) (hmount : node.mount = none) :
      WantsMount tree path (.mount request) (.mounted path request.info)
        (tree.setMount path request.info).1

/-- A device is to be unmounted from where it is believed to be mounted. -/
inductive WantsUnmount (tree : Tree) (path : String) : Call → Notification → Tree → Prop
  | intro {node : Node} {info : Info} (hget : tree.get? path = some node)
      (hmount : node.mount = some info) :
      WantsUnmount tree path (.unmount path info.point) (.unmounted path info.point)
        (tree.clearMount path).1

/-- A disk of which no partition is believed mounted is to be powered off. -/
inductive WantsPoweroff (tree : Tree) (path : String) : Call → Unit → Tree → Prop
  | intro {node : Node} (hget : tree.get? path = some node)
      (hkind : node.record.kind = .stateless)
      (hunmounted : ∀ child ∈ tree.children path, child.mount = none) :
      WantsPoweroff tree path (.poweroff path) () tree

/-- What is planned for a device that is there: the first reason against it decides. -/
theorem plan_eq {filesystems : Filesystems} {tree : Tree} {path : String} {node : Node}
    (hget : tree.get? path = some node) (options : Option String) :
    plan filesystems tree path options =
      if node.record.isMountable then
        match node.record.filesystem with
        | none => .error .fstypeNotRecognized
        | some name =>
          match filesystems.get? name with
          | none => .error .unsupportedFstype
          | some filesystem =>
            if node.mount.isSome then .error .deviceAlreadyMounted
            else (filesystem.resolve options).map fun options => ⟨node.record, name, options⟩
      else .error .noSuchRemovableDevice := by
  unfold plan
  rw [hget]
  simp only [pure_bind]
  cases node.record.isMountable with
  | false => rfl
  | true =>
    cases node.record.filesystem with
    | none => rfl
    | some name =>
      simp only [if_true]
      cases filesystems.get? name with
      | none => rfl
      | some filesystem =>
        cases node.mount with
        | some info => rfl
        | none => cases filesystem.resolve options <;> rfl

/-- Only a device that is there and believed unmounted is planned to be mounted. -/
theorem node_of_plan {filesystems : Filesystems} {tree : Tree} {path : String}
    {options : Option String} {decided : Plan}
    (h : plan filesystems tree path options = .ok decided) :
    ∃ node, tree.get? path = some node ∧ node.mount = none := by
  cases hget : tree.get? path with
  | none =>
    rw [plan, hget] at h
    cases h
  | some node =>
    refine ⟨node, rfl, ?_⟩
    rw [plan_eq hget] at h
    cases hmount : node.mount with
    | none => rfl
    | some info => grind

/-- Carrying out a request for a device that is believed unmounted is an attempt to mount it. -/
theorem carryOut_attempt (orchestrator : Orchestrator σ) {request : Request} {host : Host σ}
    {node : Node} (hget : host.tree.get? request.device = some node) (hmount : node.mount = none) :
    Attempt orchestrator host (WantsMount host.tree request.device)
      (host.carryOut orchestrator request) := by
  have hwants := WantsMount.intro rfl hget hmount
  unfold carryOut
  rcases host.files.makeDirectories request.point with ⟨files, made⟩
  cases made with
  | error e => exact .refused .genericError files
  | ok _ =>
    rcases hasked : orchestrator.mount request host.mounts with ⟨result, mounts⟩
    cases result with
    | error code => exact .failed _ hwants hasked
    | ok _ =>
      -- the device was unmounted when the request was planned, so there is news of it
      simp only [noteMount, Tree.setMount_of_unmounted hget hmount]
      rw [Tree.setMount_of_unmounted hget hmount] at hwants
      exact .carriedOut files hwants hasked

/-- A request to mount. -/
theorem mount_attempt (orchestrator : Orchestrator σ) (config : Config) (path : String)
    (options : Option String) (host : Host σ) :
    Attempt orchestrator host (WantsMount host.tree path)
      (host.mount orchestrator config path options) := by
  unfold Host.mount
  split
  · exact .refused _ host.files
  · rename_i decided hplan
    obtain ⟨node, hget, hmount⟩ := node_of_plan hplan
    let request := decided.request config.mountDir path host.tree host.files
    have hdevice : host.tree.get? request.device = some node := hget
    exact carryOut_attempt orchestrator hdevice hmount

/-- A request to unmount. -/
theorem unmount_attempt (orchestrator : Orchestrator σ) (config : Config) (path : String)
    (host : Host σ) :
    Attempt orchestrator host (WantsUnmount host.tree path)
      (host.unmount orchestrator config path) := by
  unfold Host.unmount
  cases hget : host.tree.get? path with
  | none => exact .refused _ host.files
  | some node =>
    cases hmount : node.mount with
    | none =>
      simp only [hmount]
      exact .refused .deviceNotMounted host.files
    | some info =>
      have hwants := WantsUnmount.intro hget hmount
      rcases hasked : orchestrator.unmount path info.point host.mounts with ⟨result, mounts⟩
      cases result with
      | error code =>
        simp only [hmount, hasked]
        exact .failed host.files hwants hasked
      | ok _ =>
        simp only [hmount, hasked, noteUnmount, Tree.clearMount_of_mounted hget hmount]
        rw [Tree.clearMount_of_mounted hget hmount] at hwants
        exact .carriedOut _ hwants hasked

/-- The orchestrator alone decides whether a disk without a mounted partition is powered off. -/
theorem poweroff_of_unmounted (orchestrator : Orchestrator σ) {path : String} {host : Host σ}
    {node : Node} (hget : host.tree.get? path = some node)
    (hkind : node.record.kind = .stateless)
    (hunmounted : ∀ child ∈ host.tree.children path, child.mount = none) :
    host.poweroff orchestrator path =
      ((orchestrator.poweroff path host.mounts).1,
        { host with mounts := (orchestrator.poweroff path host.mounts).2 }) := by
  have hnone : ((host.tree.children path).any fun child => child.mount.isSome) = false := by
    simpa using hunmounted
  simp [Host.poweroff, hget, hkind, hnone]

/-- A request to power off. -/
theorem poweroff_attempt (orchestrator : Orchestrator σ) (path : String) (host : Host σ) :
    Attempt orchestrator host (WantsPoweroff host.tree path)
      (host.poweroff orchestrator path) := by
  cases hget : host.tree.get? path with
  | none =>
    simp only [Host.poweroff, hget]
    exact .refused _ host.files
  | some node =>
    by_cases hkind : node.record.kind = .stateless
    · by_cases hunmounted : ∀ child ∈ host.tree.children path, child.mount = none
      · have hwants := WantsPoweroff.intro hget hkind hunmounted
        rw [poweroff_of_unmounted orchestrator hget hkind hunmounted]
        rcases hasked : orchestrator.poweroff path host.mounts with ⟨result, mounts⟩
        cases result with
        | error code => exact .failed host.files hwants hasked
        | ok _ => exact .carriedOut host.files hwants hasked
      · have hmounted : ((host.tree.children path).any fun child => child.mount.isSome) = true := by
          simpa [Option.isSome_iff_ne_none] using hunmounted
        simp only [Host.poweroff, hget, hkind, hmounted, ne_eq, not_true_eq_false, if_false, if_true]
        exact .refused .deviceAlreadyMounted host.files
    · simp only [Host.poweroff, hget, hkind, ne_eq, not_false_eq_true, if_true]
      exact .refused .noSuchRemovableDevice host.files

/-! ## Noting what is asked for -/

/-- The host of an orchestrator that has not noted anything yet. -/
def noted (host : Host σ) : Host (Noted σ) :=
  ⟨host.tree, host.files, host.mounts, []⟩

/-- The host without the notes of its orchestrator. -/
def plain (host : Host (Noted σ)) : Host σ :=
  ⟨host.tree, host.files, host.mounts.mounts⟩

section Noting

variable (orchestrator : Orchestrator σ) (config : Config) (path : String) (host : Host (Noted σ))

/-- Carrying out a request is the same with notes. -/
theorem carryOut_noting (request : Request) :
    Prod.map id plain (host.carryOut orchestrator.noting request) =
      host.plain.carryOut orchestrator request := by
  unfold carryOut plain
  rcases host.files.makeDirectories request.point with ⟨files, made⟩
  cases made with
  | error e => rfl
  | ok _ =>
    simp only [Orchestrator.noting, Noted.ask, Orchestrator.ask]
    rcases orchestrator.mount request host.mounts.mounts with ⟨result, mounts⟩
    cases result with
    | error code => rfl
    | ok _ =>
      simp only [noteMount]
      rcases host.tree.setMount request.device request.info with ⟨tree, event⟩
      cases event <;> rfl

/-- Mounting is the same with notes. -/
theorem mount_noting (options : Option String) :
    Prod.map id plain (host.mount orchestrator.noting config path options) =
      host.plain.mount orchestrator config path options := by
  unfold Host.mount
  simp only [plain]
  cases plan config.filesystems host.tree path options with
  | error code => rfl
  | ok decided => exact carryOut_noting orchestrator host _

/-- Unmounting is the same with notes. -/
theorem unmount_noting :
    Prod.map id plain (host.unmount orchestrator.noting config path) =
      host.plain.unmount orchestrator config path := by
  unfold Host.unmount
  simp only [plain]
  cases host.tree.get? path with
  | none => rfl
  | some node =>
    cases hmount : node.mount with
    | none =>
      simp only [hmount]
      rfl
    | some info =>
      simp only [hmount, Orchestrator.noting, Noted.ask, Orchestrator.ask]
      rcases orchestrator.unmount path info.point host.mounts.mounts with ⟨result, mounts⟩
      cases result with
      | error code => rfl
      | ok _ =>
        simp only [noteUnmount]
        rcases host.tree.clearMount path with ⟨tree, event⟩
        cases event <;> rfl

/-- Powering off is the same with notes. -/
theorem poweroff_noting :
    Prod.map id plain (host.poweroff orchestrator.noting path) =
      host.plain.poweroff orchestrator path := by
  obtain ⟨tree, files, mounts, notes⟩ := host
  change _ = Host.poweroff orchestrator path ⟨tree, files, mounts⟩
  unfold Host.poweroff
  cases tree.get? path with
  | none => rfl
  | some node =>
    dsimp only
    split
    · rfl
    · split <;> rfl

end Noting

end Host

end RemovableMedia.Mount
