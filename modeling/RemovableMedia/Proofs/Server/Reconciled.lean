import RemovableMedia.Proofs.Server.Effect
import RemovableMedia.Proofs.Tree.Reconcile

/-!
# Commands and the live mounts

The daemon notes by itself what it has mounted and unmounted, and from time to time takes over the
live mount table.  As long as nobody else mounts anything, the two agree: whatever commands are
carried out, taking over the table then changes nothing and tells nothing
(`commands_keep_reconciled`).
-/

set_option autoImplicit false

namespace RemovableMedia

open RemovableMedia.Mount (Call Host Orchestrator Rehearsal Table)

/-! ## The live table -/

/-- What a call does to the live mount table once it is carried out. -/
def Mount.Call.effect : Call → Table → Table
  | .mount request, table => table ++ [⟨request.device, request.info⟩]
  | .unmount device _, table => table.filter fun entry => entry.device ≠ device
  | .poweroff _, table => table

/-- An orchestrator with a live mount table, of which `live` says what it is in each state: what is
carried out has its effect on the table, and what fails has none. -/
structure Mount.Orchestrator.Tracks {σ : Type} (orchestrator : Orchestrator σ)
    (live : σ → Table → Prop) : Prop where
  carriedOut : ∀ {call : Call} {mounts after : σ} {table : Table}, live mounts table →
    orchestrator.ask call mounts = (.ok (), after) → live after (call.effect table)
  failed : ∀ {call : Call} {mounts after : σ} {table : Table} {code : ErrorCode}, live mounts table →
    orchestrator.ask call mounts = (.error code, after) → live after table

namespace Mount.Rehearsal

/-- The table of a rehearsal that keeps one. -/
def Shows (rehearsal : Rehearsal) (table : Table) : Prop :=
  rehearsal.tracks = true ∧ rehearsal.table = table

/-- A rehearsal answers each call, refused or not, and has its effect on the table if it succeeds.
-/
theorem ask_eq (call : Call) (rehearsal : Rehearsal) :
    ∃ refusal, orchestrator.ask call rehearsal = rehearsal.answer call refusal call.effect := by
  cases call with
  | mount request => exact ⟨_, rfl⟩
  | unmount device point => exact ⟨_, rfl⟩
  | poweroff device => exact ⟨_, rfl⟩

/-- A rehearsal tracks the table that it shows. -/
theorem orchestrator_tracks : orchestrator.Tracks Shows where
  carriedOut {call mounts after table} hlive hasked := by
    obtain ⟨htracks, rfl⟩ := hlive
    obtain ⟨refusal, hask⟩ := ask_eq call mounts
    rw [hask] at hasked
    cases refusal with
    | none =>
      simp only [answer, htracks, if_true] at hasked
      cases hasked
      exact ⟨rfl, rfl⟩
    | some code => cases hasked
  failed {call mounts after table code} hlive hasked := by
    obtain ⟨refusal, hask⟩ := ask_eq call mounts
    rw [hask] at hasked
    cases refusal with
    | none => cases hasked
    | some refused =>
      cases hasked
      exact hlive

end Mount.Rehearsal

namespace Server

variable {σ : Type} {orchestrator : Orchestrator σ} {live : σ → Table → Prop}

/-! ## One command -/

section Wants

variable {tree after : Tree} {command : Command} {call : Call} {events : List Notification}

/-- What a command wants is a tree that operations make. -/
theorem Wants.reachable (hwants : Wants tree command call events after) (h : tree.Reachable) :
    after.Reachable := by
  cases hwants with
  | mount hwants =>
    cases hwants
    exact h.setMount _ _
  | unmount hwants =>
    cases hwants
    exact h.clearMount _
  | poweroff hwants =>
    cases hwants
    exact h

/-- What a command notes in the tree is what the call does to the table. -/
theorem Wants.reconciled (hwants : Wants tree command call events after) {table : Table}
    (h : tree.Reconciled table) : after.Reconciled (call.effect table) := by
  cases hwants with
  | mount hwants =>
    obtain ⟨rfl, hget, hmount⟩ := hwants
    exact h.setMount hget hmount _
  | unmount hwants =>
    obtain ⟨hget, hmount⟩ := hwants
    exact h.clearMount hget hmount
  | poweroff hwants =>
    cases hwants
    exact h

end Wants

/-- A tree that is made by the operations and agrees with the live table. -/
structure InStep (live : σ → Table → Prop) (host : Host σ) (table : Table) : Prop where
  reachable : host.tree.Reachable
  live : live host.mounts table
  reconciled : host.tree.Reconciled table

/-- A command keeps the tree in agreement with the live table. -/
theorem execute_inStep (htracks : orchestrator.Tracks live) (config : Config) (command : Command)
    {host : Host σ} {table : Table} (h : InStep live host table) :
    ∃ next, InStep live (execute orchestrator config command host).2 next := by
  have heffect := execute_effect orchestrator config command host
  generalize (execute orchestrator config command host).1 = outcome at heffect
  generalize (execute orchestrator config command host).2 = after at heffect ⊢
  generalize executeCalls orchestrator config command host = calls at heffect
  cases heffect with
  | listed hbody => exact ⟨table, h⟩
  | refused code files => exact ⟨table, h.reachable, h.live, h.reconciled⟩
  | failed files hwants hasked =>
    exact ⟨table, h.reachable, htracks.failed h.live hasked, h.reconciled⟩
  | carriedOut files hwants hasked =>
    exact ⟨_, hwants.reachable h.reachable, htracks.carriedOut h.live hasked,
      hwants.reconciled h.reconciled⟩

/-! ## Any commands -/

/-- The host after commands that are carried out one after another. -/
def executeAll (orchestrator : Orchestrator σ) (config : Config) (host : Host σ)
    (commands : List Command) : Host σ :=
  commands.foldl (fun host command => (execute orchestrator config command host).2) host

/-- After any commands the tree still agrees with the live table. -/
theorem executeAll_inStep (htracks : orchestrator.Tracks live) (config : Config)
    (commands : List Command) {host : Host σ} {table : Table} (h : InStep live host table) :
    ∃ next, InStep live (executeAll orchestrator config host commands) next := by
  induction commands generalizing host table with
  | nil => exact ⟨table, h⟩
  | cons command rest ih =>
    obtain ⟨next, hnext⟩ := execute_inStep htracks config command h
    exact ih hnext

/-- If the tree agrees with the live table and only commands change what is mounted, then the two
agree after any commands, so that taking over the table neither changes nor tells anything. -/
theorem commands_keep_reconciled (htracks : orchestrator.Tracks live) (config : Config)
    (commands : List Command) (host : Host σ) (h : host.tree.Reachable) (table : Table)
    (hlive : live host.mounts table) (hreconciled : host.tree.Reconciled table) :
    let after := executeAll orchestrator config host commands
    after.tree.Reachable ∧ ∃ next, live after.mounts next ∧ after.tree.Reconciled next ∧
      after.tree.reconcile next = (after.tree, []) := by
  intro after
  obtain ⟨next, hnext⟩ := executeAll_inStep htracks config commands ⟨h, hlive, hreconciled⟩
  exact ⟨hnext.reachable, next, hnext.live, hnext.reconciled,
    Tree.reconcile_eq_self_iff.2 hnext.reconciled⟩

/-- The partition of a stick is mounted, listed and unmounted. -/
theorem commands_keep_reconciled_of_stick :
    let host : Host Rehearsal := ⟨.plugged, .empty, .start true⟩
    let commands := [.mount "/dev/sdb1" none, .listAllRemovableDevices, .unmount "/dev/sdb1"]
    let after := executeAll Rehearsal.orchestrator .standard host commands
    Rehearsal.orchestrator.Tracks Rehearsal.Shows ∧ Tree.plugged.Reachable ∧
      host.mounts.Shows [] ∧ Tree.plugged.Reconciled [] ∧
      ∃ next, after.mounts.Shows next ∧ after.tree.Reconciled next ∧
        after.tree.reconcile next = (after.tree, []) := by
  intro host commands after
  have hlive : host.mounts.Shows [] := ⟨rfl, rfl⟩
  have hreconciled : Tree.plugged.Reconciled [] := by
    unfold Tree.Reconciled
    decide
  obtain ⟨-, hafter⟩ := commands_keep_reconciled Rehearsal.orchestrator_tracks .standard commands
    host Tree.plugged_reachable [] hlive hreconciled
  exact ⟨Rehearsal.orchestrator_tracks, Tree.plugged_reachable, hlive, hreconciled, hafter⟩

end Server

end RemovableMedia
