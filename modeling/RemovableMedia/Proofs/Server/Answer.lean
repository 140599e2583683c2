import RemovableMedia.Proofs.Message
import RemovableMedia.Server.Dispatch

/-!
# Answers

A command is answered with its success, with its failure or with a listing of what it asks for, and
every answer repeats the command (`execute_answers`).  No part of an answer is a notification.
-/

set_option autoImplicit false

namespace RemovableMedia.Server

open RemovableMedia.Mount (Host Orchestrator)

/-- What the listing that a command asks for can consist of. -/
inductive Listing : Command → List Message → Prop
  | all (nodes : List Node) : Listing .listAllRemovableDevices (describe nodes)
  | one (path : String) (nodes : List Node) : Listing (.listRemovableDevice path) (describe nodes)
  | filesystems (names : List String) :
      Listing .listSupportedFilesystems [.supportedFilesystems names]
  | options (filesystem : String) (options : List String) :
      Listing (.listSupportedFilesystemOptions filesystem) [.supportedFilesystemOptions options]

/-- What a command can be answered with. -/
inductive Answer (command : Command) : List Message → Prop
  | succeeded (h : command.isListing = false) : Answer command [.success command]
  | failed (code : ErrorCode) : Answer command [.failure command code]
  | listed {body : List Message} (h : Listing command body) :
      Answer command (.start command :: (body ++ [.finish command]))

/-- Only a command that asks for a listing gets one. -/
theorem Listing.isListing {command : Command} {body : List Message} (h : Listing command body) :
    command.isListing = true := by
  cases h <;> rfl

/-- The messages of a listing are neither notifications nor repetitions of a command. -/
theorem Listing.plain {command : Command} {body : List Message} (h : Listing command body) :
    ∀ message ∈ body, message.notification? = none ∧ message.command? = none := by
  intro message hmem
  cases h with
  | all nodes | one path nodes =>
    obtain ⟨node, -, rfl⟩ := List.mem_map.1 hmem
    exact ⟨rfl, rfl⟩
  | filesystems names | options filesystem options =>
    rw [List.mem_singleton.1 hmem]
    exact ⟨rfl, rfl⟩

/-- No answer is a notification. -/
theorem Answer.notification?_eq_none {command : Command} {replies : List Message}
    (h : Answer command replies) : ∀ message ∈ replies, message.notification? = none := by
  intro message hmem
  cases h with
  | succeeded | failed =>
    rw [List.mem_singleton.1 hmem]
    rfl
  | listed hbody =>
    rw [List.mem_cons, List.mem_append, List.mem_singleton] at hmem
    rcases hmem with rfl | hmem | rfl
    · rfl
    · exact (hbody.plain message hmem).1
    · rfl

variable {σ : Type}

/-- What comes of a change answers its command. -/
theorem answer_ofChange {command : Command} (h : command.isListing = false)
    (result : Except ErrorCode Notification) :
    Answer command (Outcome.ofChange command result).replies := by
  cases result with
  | ok event => exact .succeeded h
  | error code => exact .failed code

/-- What comes of an attempt answers its command. -/
theorem answer_ofAttempt {command : Command} (h : command.isListing = false)
    (result : Except ErrorCode Unit) :
    Answer command (Outcome.ofAttempt command result).replies := by
  cases result with
  | ok _ => exact .succeeded h
  | error code => exact .failed code

/-- Every command is answered. -/
theorem execute_answers (orchestrator : Orchestrator σ) (config : Config) (command : Command)
    (host : Host σ) : Answer command (execute orchestrator config command host).1.replies := by
  cases command with
  | listAllRemovableDevices => exact .listed (.all _)
  | listRemovableDevice path =>
    dsimp only [execute]
    cases listed? host.tree path with
    | none => exact .failed _
    | some nodes => exact .listed (.one path nodes)
  | mount path options => exact answer_ofChange rfl _
  | unmount path => exact answer_ofChange rfl _
  | listSupportedFilesystems => exact .listed (.filesystems _)
  | listSupportedFilesystemOptions name =>
    dsimp only [execute]
    cases config.filesystems.get? name with
    | none => exact .failed _
    | some filesystem => exact .listed (.options name _)
  | poweroff path => exact answer_ofAttempt rfl _

/-- A frame that is recognized parses as its command. -/
theorem parse_of_recognize {config : Config} {frame : String} {command : Command}
    (h : recognize config frame = .ok command) : Command.parse frame = .ok command := by
  unfold recognize at h
  cases hparse : Command.parse frame with
  | error e => simp [hparse] at h
  | ok found =>
    rw [hparse] at h
    dsimp only at h
    split at h
    · cases h
    · exact h

/-- What a frame comes to answers the command that it is recognized as. -/
theorem dispatch_eq_ok {orchestrator : Orchestrator σ} {config : Config} {frame : String}
    {host : Host σ} {outcome : Outcome}
    (h : (dispatch orchestrator config frame host).1 = .ok outcome) :
    ∃ command, recognize config frame = .ok command ∧ Answer command outcome.replies := by
  unfold dispatch at h
  cases hcommand : recognize config frame with
  | error e => simp [hcommand] at h
  | ok command =>
    rw [hcommand] at h
    obtain rfl := Except.ok.inj h
    exact ⟨command, rfl, execute_answers orchestrator config command host⟩

/-- A frame that comes to nothing is not recognized. -/
theorem dispatch_eq_error {orchestrator : Orchestrator σ} {config : Config} {frame : String}
    {host : Host σ} {e : CommandError}
    (h : (dispatch orchestrator config frame host).1 = .error e) :
    recognize config frame = .error e := by
  unfold dispatch at h
  cases hcommand : recognize config frame with
  | error found =>
    rw [hcommand] at h
    exact congrArg Except.error (Except.error.inj h)
  | ok command =>
    rw [hcommand] at h
    cases h

end RemovableMedia.Server
