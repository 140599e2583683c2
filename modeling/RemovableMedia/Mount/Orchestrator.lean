import RemovableMedia.Mount.Request

/-!
# Orchestrators

Whoever carries out what is decided: mounts, unmounts and powering off, and who knows what is
mounted at the moment.  Each operation may change the orchestrator's own state, also when it
fails.

A rehearsal is an orchestrator that only pretends.  It keeps a mount table in memory, writes down
what it is asked for, and fails where it is told to.
-/

set_option autoImplicit false

namespace RemovableMedia.Mount

/-- The operations of somebody with state `σ` who carries out mounts. -/
structure Orchestrator (σ : Type) where
  mount : Request → σ → Except ErrorCode Unit × σ
  unmount : (device point : String) → σ → Except ErrorCode Unit × σ
  poweroff : (device : String) → σ → Except ErrorCode Unit × σ
  /-- What is mounted, or why that is not known. -/
  table : σ → Except String Table

/-- How it is reported that the mount table is not known. -/
def tableFailureMessage (reason : String) : String :=
  "Failed to read mount table: " ++ reason

/-- What somebody was asked to do. -/
inductive Call where
  | mount (request : Request)
  | unmount (device point : String)
  | poweroff (device : String)
deriving DecidableEq, Repr

/-- What a rehearsal is told to refuse. -/
structure Refusals where
  mount : Option ErrorCode
  unmount : Option ErrorCode
  poweroff : Option ErrorCode
  table : Bool
deriving DecidableEq, Repr

/-- Refusing nothing. -/
def Refusals.none : Refusals := ⟨.none, .none, .none, false⟩

/-- The state of a rehearsal. -/
structure Rehearsal where
  table : Table
  /-- What was asked for, the latest last. -/
  calls : List Call
  refusals : Refusals
  /-- Whether the table follows what is carried out. -/
  tracks : Bool
deriving DecidableEq, Repr

namespace Rehearsal

/-- A rehearsal with nothing mounted. -/
def start (tracks : Bool) : Rehearsal :=
  ⟨[], [], .none, tracks⟩

/-- Answers a call, with what it does to the table if it is not refused. -/
def answer (call : Call) (refusal : Option ErrorCode) (effect : Table → Table)
    (rehearsal : Rehearsal) : Except ErrorCode Unit × Rehearsal :=
  let noted := { rehearsal with calls := rehearsal.calls ++ [call] }
  match refusal with
  | some code => (.error code, noted)
  | none => (.ok (), if noted.tracks then { noted with table := effect noted.table } else noted)

/-- The operations of a rehearsal. -/
def orchestrator : Orchestrator Rehearsal where
  mount request rehearsal :=
    rehearsal.answer (.mount request) rehearsal.refusals.mount
      fun table => table ++ [⟨request.device, request.info⟩]
  unmount device point rehearsal :=
    rehearsal.answer (.unmount device point) rehearsal.refusals.unmount
      fun table => table.filter fun entry => entry.device ≠ device
  poweroff device rehearsal :=
    rehearsal.answer (.poweroff device) rehearsal.refusals.poweroff id
  table rehearsal :=
    if rehearsal.refusals.table then .error "table unavailable" else .ok rehearsal.table

end Rehearsal

end RemovableMedia.Mount
