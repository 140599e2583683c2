import RemovableMedia.Proofs.Mount.Attempt
import RemovableMedia.Proofs.Server.Answer
import RemovableMedia.Proofs.Tree.Invariant

/-!
# What commands do

A command lists something, is refused before the orchestrator is asked, or asks the orchestrator for
one thing and then fails or succeeds with it (`execute_effect`).  So a command that fails leaves the
devices as they were, a mount or unmount that succeeds changes the mount of one device and tells of
it once, and what the orchestrator has carried out is never answered with a failure
(`failure_changes_nothing`).
-/

set_option autoImplicit false

namespace RemovableMedia.Server

open RemovableMedia.Mount (Call Host Info Noted Orchestrator Rehearsal Request)

variable {σ : Type}

/-! ## Effects -/

/-- What a command asks of the orchestrator, and what follows if that succeeds: what all clients are
told, and the tree. -/
inductive Wants (tree : Tree) : Command → Call → List Notification → Tree → Prop
  | mount {path : String} {options : Option String} {call : Call} {event : Notification}
      {after : Tree} (h : Host.WantsMount tree path call event after) :
      Wants tree (.mount path options) call [event] after
  | unmount {path : String} {call : Call} {event : Notification} {after : Tree}
      (h : Host.WantsUnmount tree path call event after) :
      Wants tree (.unmount path) call [event] after
  | poweroff {path : String} {call : Call} {after : Tree}
      (h : Host.WantsPoweroff tree path call () after) :
      Wants tree (.poweroff path) call [] after

/-- What a command can do: its outcome, the host after it, and what the orchestrator was asked for
with what came of it. -/
inductive Effect (orchestrator : Orchestrator σ) (host : Host σ) (command : Command) :
    Outcome → Host σ → List (Call × Except ErrorCode Unit) → Prop
  | listed {body : List Message} (hbody : Listing command body) :
      Effect orchestrator host command (.listing command body) host []
  | refused (code : ErrorCode) (files : FileTree) :
      Effect orchestrator host command (.refusal command code) { host with files } []
  | failed {call : Call} {events : List Notification} {tree : Tree} {code : ErrorCode} {mounts : σ}
      (files : FileTree) (hwants : Wants host.tree command call events tree)
      (hasked : orchestrator.ask call host.mounts = (.error code, mounts)) :
      Effect orchestrator host command (.refusal command code) { host with files, mounts }
        [(call, .error code)]
  | carriedOut {call : Call} {events : List Notification} {tree : Tree} {mounts : σ}
      (files : FileTree) (hwants : Wants host.tree command call events tree)
      (hasked : orchestrator.ask call host.mounts = (.ok (), mounts)) :
      Effect orchestrator host command ⟨[.success command], events⟩ ⟨tree, files, mounts⟩
        [(call, .ok ())]

/-- A call that is noted is the only one that was made, with what came of it. -/
theorem ask_of_noting {orchestrator : Orchestrator σ} {call : Call} {mounts : σ}
    {result : Except ErrorCode Unit} {noted : Noted σ}
    (h : orchestrator.noting.ask call ⟨mounts, []⟩ = (result, noted)) :
    orchestrator.ask call mounts = (result, noted.mounts) ∧ noted.notes = [(call, result)] := by
  rw [Mount.ask_noting, Noted.ask] at h
  obtain ⟨rfl, rfl⟩ := Prod.mk.inj h
  exact ⟨rfl, rfl⟩

/-- What comes of a request is an effect of the command that makes it. -/
theorem Effect.of_attempt {orchestrator : Orchestrator σ} {host : Host σ} {command : Command}
    {α : Type} {wants : Call → α → Tree → Prop} {done : Except ErrorCode α × Host (Noted σ)}
    (hattempt : Host.Attempt orchestrator.noting host.noted wants done)
    (answer : Except ErrorCode α → Outcome) (events : α → List Notification)
    (hok : ∀ given, answer (.ok given) = ⟨[.success command], events given⟩)
    (herror : ∀ code, answer (.error code) = .refusal command code)
    (hwants : ∀ call given tree, wants call given tree →
      Wants host.tree command call (events given) tree) :
    Effect orchestrator host command (answer done.1) done.2.plain done.2.mounts.notes := by
  cases hattempt with
  | refused code files =>
    rw [herror]
    exact .refused code files
  | failed files hwanted hasked =>
    obtain ⟨hask, hnotes⟩ := ask_of_noting hasked
    rw [herror]
    simp only [hnotes]
    exact .failed files (hwants _ _ _ hwanted) hask
  | carriedOut files hwanted hasked =>
    obtain ⟨hask, hnotes⟩ := ask_of_noting hasked
    rw [hok]
    simp only [hnotes]
    exact .carriedOut files (hwants _ _ _ hwanted) hask

/-- A command has the same outcome when its calls are noted. -/
theorem execute_noting (orchestrator : Orchestrator σ) (config : Config) (command : Command)
    (host : Host (Noted σ)) :
    Prod.map id Host.plain (execute orchestrator.noting config command host) =
      execute orchestrator config command host.plain := by
  cases command with
  | mount path options =>
    have hmount := Host.mount_noting orchestrator config path host options
    simp only [execute, ← hmount]
    rfl
  | unmount path =>
    have hunmount := Host.unmount_noting orchestrator config path host
    simp only [execute, ← hunmount]
    rfl
  | poweroff path =>
    have hpoweroff := Host.poweroff_noting orchestrator path host
    simp only [execute, ← hpoweroff]
    rfl
  | listRemovableDevice path =>
    simp only [execute, Host.plain]
    cases listed? host.tree path <;> rfl
  | listSupportedFilesystemOptions name =>
    simp only [execute]
    cases config.filesystems.get? name <;> rfl
  | listAllRemovableDevices | listSupportedFilesystems => rfl

/-- What the orchestrator is asked for by a command, with what came of it. -/
def executeCalls (orchestrator : Orchestrator σ) (config : Config) (command : Command)
    (host : Host σ) : List (Call × Except ErrorCode Unit) :=
  (execute orchestrator.noting config command host.noted).2.mounts.notes

/-- Every command has one of the effects. -/
theorem execute_effect (orchestrator : Orchestrator σ) (config : Config) (command : Command)
    (host : Host σ) :
    Effect orchestrator host command (execute orchestrator config command host).1
      (execute orchestrator config command host).2
      (executeCalls orchestrator config command host) := by
  -- outcome and calls are read off the same run, the one that is noted
  have hplain : host = host.noted.plain := rfl
  rw [hplain, ← execute_noting, ← hplain, executeCalls]
  cases command with
  | listAllRemovableDevices => exact .listed (.all _)
  | listRemovableDevice path =>
    dsimp only [execute]
    cases listed? host.noted.tree path with
    | none => exact .refused .noSuchRemovableDevice host.files
    | some nodes => exact .listed (.one path nodes)
  | mount path options =>
    have hattempt := Host.mount_attempt orchestrator.noting config path options host.noted
    exact .of_attempt hattempt (.ofChange (.mount path options)) (fun event => [event]) (fun _ => rfl)
      (fun _ => rfl) fun _ _ _ => .mount
  | unmount path =>
    have hattempt := Host.unmount_attempt orchestrator.noting config path host.noted
    exact .of_attempt hattempt (.ofChange (.unmount path)) (fun event => [event]) (fun _ => rfl)
      (fun _ => rfl) fun _ _ _ => .unmount
  | listSupportedFilesystems => exact .listed (.filesystems _)
  | listSupportedFilesystemOptions name =>
    dsimp only [execute]
    cases config.filesystems.get? name with
    | none => exact .refused .unsupportedFstype host.files
    | some filesystem => exact .listed (.options name _)
  | poweroff path =>
    have hattempt := Host.poweroff_attempt orchestrator.noting path host.noted
    exact .of_attempt hattempt (.ofAttempt (.poweroff path)) (fun _ => []) (fun _ => rfl)
      (fun _ => rfl) fun _ _ _ => .poweroff

/-! ## What an outcome tells of its effect -/

/-- In a listing only the first and the last line name the command. -/
theorem eq_of_mem_listing {command : Command} {body : List Message} (hbody : Listing command body)
    {message : Message} (hmem : message ∈ (Outcome.listing command body).replies)
    (hcommand : message.command? ≠ none) :
    message = .start command ∨ message = .finish command := by
  simp only [Outcome.listing, List.mem_cons, List.mem_append, List.not_mem_nil, or_false] at hmem
  obtain hstart | hin | hfinish := hmem
  · exact .inl hstart
  · exact absurd (hbody.plain message hin).2 hcommand
  · exact .inr hfinish

namespace Effect

variable {orchestrator : Orchestrator σ} {host after : Host σ} {command : Command}
  {outcome : Outcome} {calls : List (Call × Except ErrorCode Unit)}

/-- A failure is all that is told, and it comes with no change of the devices and with nothing
carried out. -/
theorem of_failed (heffect : Effect orchestrator host command outcome after calls) {name : String}
    {args : Arguments} {code : ErrorCode} (hmem : .failed name args code ∈ outcome.replies) :
    outcome = ⟨[.failed name args code], []⟩ ∧ after.tree = host.tree ∧
      ∀ asked ∈ calls, asked.2 = .error code := by
  cases heffect with
  | listed hbody =>
    obtain h | h := eq_of_mem_listing hbody hmem (by simp [Message.command?]) <;> cases h
  | refused refusal files =>
    have hsame := List.mem_singleton.1 hmem
    cases hsame
    exact ⟨rfl, rfl, by simp⟩
  | failed files hwants hasked =>
    have hsame := List.mem_singleton.1 hmem
    cases hsame
    exact ⟨rfl, rfl, by simp⟩
  | carriedOut files hwants hasked =>
    have hsame := List.mem_singleton.1 hmem
    cases hsame

/-- A success comes with just what the command wants. -/
theorem of_succeeded (heffect : Effect orchestrator host command outcome after calls)
    {name : String} {args : Arguments} (hmem : .succeeded name args ∈ outcome.replies) :
    ∃ call events, Wants host.tree command call events after.tree ∧
      outcome = ⟨[.success command], events⟩ ∧ calls = [(call, .ok ())] := by
  cases heffect with
  | listed hbody =>
    obtain h | h := eq_of_mem_listing hbody hmem (by simp [Message.command?]) <;> cases h
  | refused code files =>
    have hsame := List.mem_singleton.1 hmem
    cases hsame
  | failed files hwants hasked =>
    have hsame := List.mem_singleton.1 hmem
    cases hsame
  | carriedOut files hwants hasked => exact ⟨_, _, hwants, rfl, rfl⟩

/-- What the orchestrator carried out is answered with success. -/
theorem replies_of_carriedOut (heffect : Effect orchestrator host command outcome after calls)
    {call : Call} (hmem : (call, .ok ()) ∈ calls) : outcome.replies = [.success command] := by
  cases heffect with
  | listed hbody => simp at hmem
  | refused code files => simp at hmem
  | failed files hwants hasked => simp at hmem
  | carriedOut files hwants hasked => rfl

end Effect

/-- What a mount wants is that the device is told and noted as mounted. -/
theorem Wants.of_mount {tree after : Tree} {path : String} {options : Option String} {call : Call}
    {events : List Notification} (hwants : Wants tree (.mount path options) call events after)
    (h : tree.UniquePaths) :
    ∃ node request, tree.get? path = some node ∧ node.mount = none ∧
      Request.device request = path ∧ call = .mount request ∧
      events = [.mounted path request.info] ∧ after = tree.remount node (some request.info) := by
  cases hwants with
  | mount hwants =>
    obtain ⟨hdevice, hget, hmount⟩ := hwants
    refine ⟨_, _, hget, hmount, hdevice, rfl, rfl, ?_⟩
    rw [Tree.setMount_of_unmounted hget hmount, h.update_eq_remount hget]

/-- What an unmount wants is that the device is told and noted as unmounted. -/
theorem Wants.of_unmount {tree after : Tree} {path : String} {call : Call}
    {events : List Notification} (hwants : Wants tree (.unmount path) call events after)
    (h : tree.UniquePaths) :
    ∃ node info, tree.get? path = some node ∧ node.mount = some info ∧
      call = .unmount path info.point ∧ events = [.unmounted path info.point] ∧
      after = tree.remount node none := by
  cases hwants with
  | unmount hwants =>
    obtain ⟨hget, hmount⟩ := hwants
    refine ⟨_, _, hget, hmount, rfl, rfl, ?_⟩
    rw [Tree.clearMount_of_mounted hget hmount, h.update_eq_remount hget]

/-! ## Frames -/

/-- Noting what the orchestrator is asked for makes no other difference. -/
theorem dispatch_noting (orchestrator : Orchestrator σ) (config : Config) (frame : String)
    (host : Host (Noted σ)) :
    Prod.map id Host.plain (dispatch orchestrator.noting config frame host) =
      dispatch orchestrator config frame host.plain := by
  unfold dispatch
  cases recognize config frame with
  | error e => rfl
  | ok command =>
    simp only [← execute_noting]
    rfl

/-- What the orchestrator is asked for by a frame, with what came of it. -/
def dispatchCalls (orchestrator : Orchestrator σ) (config : Config) (frame : String)
    (host : Host σ) : List (Call × Except ErrorCode Unit) :=
  (dispatch orchestrator.noting config frame host.noted).2.mounts.notes

/-- A frame that is no command does nothing, and any other has an effect of the command. -/
theorem dispatch_cases (orchestrator : Orchestrator σ) (config : Config) (frame : String)
    (host : Host σ) :
    (∃ e, dispatch orchestrator config frame host = (.error e, host) ∧
      dispatchCalls orchestrator config frame host = []) ∨
    ∃ command outcome after, Command.parse frame = .ok command ∧
      dispatch orchestrator config frame host = (.ok outcome, after) ∧
      Effect orchestrator host command outcome after
        (dispatchCalls orchestrator config frame host) := by
  unfold dispatchCalls dispatch
  cases hcommand : recognize config frame with
  | error e => exact .inl ⟨e, rfl, rfl⟩
  | ok command =>
    exact .inr ⟨command, _, _, parse_of_recognize hcommand, rfl,
      execute_effect orchestrator config command host⟩

/-- The calls are those of the run itself.  A frame that is no command changes nothing at all, and
nobody is asked for anything.  A failure is all that is told, leaves the devices as they were, and
nothing was carried out.  A mount or an unmount that succeeds was carried out, is told of once, and
changes the mount of one device.  Whatever was carried out is answered with success. -/
theorem failure_changes_nothing (orchestrator : Orchestrator σ) (config : Config) (frame : String)
    (host : Host σ) (h : host.tree.Reachable) :
    let done := dispatch orchestrator config frame host
    let calls := dispatchCalls orchestrator config frame host
    Prod.map id Host.plain (dispatch orchestrator.noting config frame host.noted) = done ∧
    (∀ e, done.1 = .error e → done.2 = host ∧ calls = []) ∧
    ∀ outcome, done.1 = .ok outcome → ∃ command, Command.parse frame = .ok command ∧
      (∀ name args code, .failed name args code ∈ outcome.replies →
        outcome = ⟨[.failed name args code], []⟩ ∧ done.2.tree = host.tree ∧
          ∀ asked ∈ calls, asked.2 = .error code) ∧
      (∀ path options name args, command = .mount path options →
        .succeeded name args ∈ outcome.replies →
        ∃ node ∈ host.tree.nodes, ∃ request : Request,
          node.path = path ∧ node.mount = none ∧ request.device = path ∧
          outcome = ⟨[.success command], [.mounted path request.info]⟩ ∧
          done.2.tree = host.tree.remount node (some request.info) ∧
          calls = [(.mount request, .ok ())]) ∧
      (∀ path name args, command = .unmount path →
        .succeeded name args ∈ outcome.replies →
        ∃ node ∈ host.tree.nodes, ∃ info : Info,
          node.path = path ∧ node.mount = some info ∧
          outcome = ⟨[.success command], [.unmounted path info.point]⟩ ∧
          done.2.tree = host.tree.remount node none ∧
          calls = [(.unmount path info.point, .ok ())]) ∧
      ∀ call, (call, .ok ()) ∈ calls → outcome.replies = [.success command] := by
  have hpaths : host.tree.UniquePaths := h.wellFormed.paths
  refine ⟨dispatch_noting orchestrator config frame host.noted, ?_⟩
  obtain ⟨e, hdone, hcalls⟩ | ⟨command, outcome, after, hparse, hdone, heffect⟩ :=
    dispatch_cases orchestrator config frame host
  · rw [hdone]
    refine ⟨fun _ _ => ⟨rfl, hcalls⟩, ?_⟩
    rintro outcome ⟨⟩
  · rw [hdone]
    constructor
    · rintro e ⟨⟩
    rintro _ ⟨⟩
    refine ⟨command, hparse, fun _ _ _ => heffect.of_failed, ?_, ?_,
      fun _ => heffect.replies_of_carriedOut⟩
    · rintro path options name args rfl hmem
      obtain ⟨call, events, hwants, houtcome, hcalls⟩ := heffect.of_succeeded hmem
      obtain ⟨node, request, hget, hmount, hdevice, rfl, rfl, htree⟩ := hwants.of_mount hpaths
      exact ⟨node, Tree.mem_of_get? hget, request, Tree.path_of_get? hget, hmount, hdevice,
        houtcome, htree, hcalls⟩
    · rintro path name args rfl hmem
      obtain ⟨call, events, hwants, houtcome, hcalls⟩ := heffect.of_succeeded hmem
      obtain ⟨node, info, hget, hmount, rfl, rfl, htree⟩ := hwants.of_unmount hpaths
      exact ⟨node, Tree.mem_of_get? hget, info, Tree.path_of_get? hget, hmount, houtcome, htree,
        hcalls⟩

/-- A rehearsal that finds the mount point of the partition busy, and one that mounts the partition. -/
theorem failure_changes_nothing_of_busy :
    let ready := Rehearsal.start true
    let busy := { ready with
      refusals := { Mount.Refusals.none with mount := some .mountPointBusy } }
    let frame := "mount(\"/dev/sdb1\", nil)"
    let command := Command.mount "/dev/sdb1" none
    let info : Info := ⟨"/media/sdb1", "rw,nosuid,nodev,flush"⟩
    let host (rehearsal : Rehearsal) : Host Rehearsal := ⟨.plugged, .empty, rehearsal⟩
    let done (rehearsal : Rehearsal) :=
      dispatch Rehearsal.orchestrator .standard frame (host rehearsal)
    let calls (rehearsal : Rehearsal) :=
      dispatchCalls Rehearsal.orchestrator .standard frame (host rehearsal)
    Tree.plugged.Reachable ∧
      ((done busy).1 = .ok ⟨[.failure command .mountPointBusy], []⟩ ∧
        (done busy).2.tree = .plugged ∧ ∀ asked ∈ calls busy, asked.2 = .error .mountPointBusy) ∧
      (done ready).1 = .ok ⟨[.success command], [.mounted "/dev/sdb1" info]⟩ ∧
        ∃ node ∈ Tree.plugged.nodes, ∃ request : Request,
          node.path = "/dev/sdb1" ∧ node.mount = none ∧ request.info = info ∧
          (done ready).2.tree = Tree.plugged.remount node (some request.info) ∧
          calls ready = [(.mount request, .ok ())] := by
  intro ready busy frame command info host done calls
  have hbusy : (done busy).1 = .ok ⟨[.failure command .mountPointBusy], []⟩ := by decide +kernel
  have hready : (done ready).1 = .ok ⟨[.success command], [.mounted "/dev/sdb1" info]⟩ := by
    decide +kernel
  obtain ⟨-, -, hrefused⟩ := failure_changes_nothing Rehearsal.orchestrator .standard frame
    (host busy) Tree.plugged_reachable
  obtain ⟨_, -, hfailed, -⟩ := hrefused _ hbusy
  obtain ⟨-, hsame, hcalls⟩ := hfailed _ _ _ (List.mem_singleton.2 rfl)
  obtain ⟨-, -, hanswered⟩ := failure_changes_nothing Rehearsal.orchestrator .standard frame
    (host ready) Tree.plugged_reachable
  obtain ⟨parsed, hparsed, -, hmounted, -⟩ := hanswered _ hready
  have hframe : Command.parse frame = .ok command := by decide +kernel
  obtain rfl : parsed = command := Except.ok.inj (hparsed.symm.trans hframe)
  obtain ⟨node, hnode, request, hpath, hmount, -, houtcome, htree, hasked⟩ :=
    hmounted _ _ _ _ rfl (List.mem_singleton.2 rfl)
  have hinfo : info = request.info := by simpa using houtcome
  exact ⟨Tree.plugged_reachable, ⟨hbusy, hsame, hcalls⟩, hready, node, hnode, request, hpath,
    hmount, hinfo.symm, htree, hasked⟩

end RemovableMedia.Server
