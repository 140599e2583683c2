import Mathlib.Data.List.Forall2
import RemovableMedia.Message.Parser
import RemovableMedia.Proofs.Command

/-!
# Messages on the wire

Every message is read from its line (`ofLine_line`).  What is read is the message with its texts
cleaned; a description is read with just the fields that its kind has.
-/

set_option autoImplicit false

namespace RemovableMedia

open RemovableMedia.Line (clean)

/-! ## Descriptions -/

/-- A mount with texts as arguments can carry them. -/
def Mount.Info.cleaned (info : Mount.Info) : Mount.Info :=
  ⟨clean info.point, clean info.options⟩

namespace Description

/-- What is read of a description: the fields that its kind has, with cleaned texts. -/
def received (device : Description) : Description :=
  let parentPath := clean device.parentPath
  let path := clean device.path
  let subtype := device.subtype.getD .unknown
  let state := device.state.getD .unknown
  let filesystem := device.filesystem.map clean
  let label := device.label.map clean
  let mount := device.mount.map Mount.Info.cleaned
  match device.kind with
  | .stateless => ⟨parentPath, path, .stateless, some subtype, none, none, none, none⟩
  | .stateful => ⟨parentPath, path, .stateful, some subtype, some state, filesystem, label, mount⟩
  | .partition => ⟨parentPath, path, .partition, none, none, filesystem, label, mount⟩

/-- Cleaning leaves the word of a kind as it is. -/
theorem clean_kind (kind : Device.Kind) : clean kind.word = kind.word := by
  cases kind <;> decide

/-- Cleaning leaves the word of a subtype as it is. -/
theorem clean_subtype (subtype : Device.Subtype) : clean subtype.word = subtype.word := by
  cases subtype <;> decide

/-- Cleaning leaves the word of a state as it is. -/
theorem clean_state (state : Device.MediaState) : clean state.word = state.word := by
  cases state <;> decide

/-- A mount that is written in two arguments is read back, cleaned. -/
theorem readMount_map_clean (mount : Option Mount.Info) :
    readMount (mount.map (clean ∘ Mount.Info.point)) (mount.map (clean ∘ Mount.Info.options)) =
      mount.map Mount.Info.cleaned := by
  cases mount <;> rfl

/-- A description that is written in arguments is read back as what is received of it. -/
theorem ofArgs_args (device : Description) :
    ofArgs (device.args.map (Option.map clean)) = .ok device.received := by
  obtain ⟨parentPath, path, kind, subtype, state, filesystem, label, mount⟩ := device
  cases kind <;>
    simp [ofArgs, args, contentArgs, textAt, ofRest, readSubtype, readState, clean_kind,
      clean_subtype, clean_state, readMount_map_clean, received, bind, Except.bind, pure,
      Except.pure]

end Description

/-! ## Notifications and messages -/

/-- What is read of a notification. -/
def Notification.received : Notification → Notification
  | added device => added device.received
  | removed path => removed (clean path)
  | changed device => changed device.received
  | mounted path info => mounted (clean path) info.cleaned
  | unmounted path point => unmounted (clean path) (clean point)

namespace Message

/-- What is read of a message. -/
def received : Message → Message
  | started command args => started (clean command) (args.map (Option.map clean))
  | finished command args => finished (clean command) (args.map (Option.map clean))
  | succeeded command args => succeeded (clean command) (args.map (Option.map clean))
  | failed command args code => failed (clean command) (args.map (Option.map clean)) code
  | device description => device description.received
  | supportedFilesystems names => supportedFilesystems (names.map clean)
  | supportedFilesystemOptions options => supportedFilesystemOptions (options.map clean)
  | notification event => notification event.received

/-- Each message has a name that lines can have. -/
theorem isName_name (message : Message) : Line.isName message.name.toList = true := by
  cases message with
  | notification event =>
    cases event <;>
    · simp only [name, Notification.name]
      decide
  | _ =>
    simp only [name]
    decide

/-- Cleaning leaves the word of an error code as it is. -/
theorem clean_code (code : ErrorCode) : clean code.word = code.word := by
  cases code <;> decide

/-- Texts are read back from arguments none of which is absent. -/
theorem texts_map_some (entries : List String) : texts (entries.map some) = .ok entries := by
  induction entries with
  | nil => rfl
  | cons entry rest ih => simp [texts, ih, Except.map]

/-- A failure is read from its command, the arguments and the code after them. -/
theorem ofFailure_append (command : String) (args : Arguments) (code : ErrorCode) :
    ofFailure (some command :: (args ++ [some code.word])) = .ok (failed command args code) := by
  simp [ofFailure]

/-- Every message is read from its line. -/
theorem ofLine_line (message : Message) : ofLine message.line = .ok message.received := by
  have hmap : ∀ entries : List String,
      (entries.map some).map (Option.map clean) = (entries.map clean).map some := by
    simp
  cases message with
  | started command args | finished command args | succeeded command args => rfl
  | failed command args code =>
    have hargs : (some command :: (args ++ [some code.word])).map (Option.map clean) =
        some (clean command) :: (args.map (Option.map clean) ++ [some code.word]) := by
      simp [clean_code]
    simp only [ofLine, ofParts, line, Line.make, name, Message.args, hargs, ofFailure_append]
    rfl
  | device description =>
    simp only [ofLine, ofParts, line, Line.make, name, Message.args, Description.ofArgs_args]
    rfl
  | supportedFilesystems names | supportedFilesystemOptions options =>
    simp only [ofLine, ofParts, line, Line.make, name, Message.args, hmap, texts_map_some]
    rfl
  | notification event =>
    cases event with
    | added description | changed description =>
      simp only [ofLine, ofParts, line, Line.make, name, Message.args, Notification.name,
        Notification.args, Description.ofArgs_args]
      rfl
    | removed | mounted | unmounted => rfl

/-! ## Messages as they are read -/

/-- Whether a message is read as another: its text is read as a line, and the line as the other
message. -/
def ReadAs (message read : Message) : Prop :=
  ∃ line, Line.parse message.line.render = .ok line ∧ ofLine line = .ok read

/-- A message is read as what is received of it. -/
theorem readAs_received (message : Message) : message.ReadAs message.received :=
  ⟨message.line, Line.parse_render_make message.isName_name message.args, message.ofLine_line⟩

/-- Messages are read as what is received of each. -/
theorem forall₂_readAs_received (messages : List Message) :
    List.Forall₂ ReadAs messages (messages.map received) := by
  rw [List.forall₂_map_right_iff, List.forall₂_same]
  exact fun message _ => message.readAs_received

/-- A message is written without a newline. -/
theorem newline_not_mem_render (message : Message) : '\n' ∉ message.line.render.toList :=
  Line.newline_not_mem_render_make message.isName_name message.args

/-- The bytes of messages that are written one after another. -/
def bytes (messages : List Message) : List UInt8 :=
  messages.flatMap fun message => Text.Utf8.encode message.line.wire

/-- What a message tells of that happened to a device. -/
def notification? : Message → Option Notification
  | notification event => some event
  | _ => none

/-- Whether a message tells of something that happened to a device. -/
def isNotification (message : Message) : Bool :=
  message.notification?.isSome

/-- Whether a message is part of the answer to a command. -/
def isReply (message : Message) : Bool :=
  message.notification?.isNone

/-- A message is no reply just if it is a notification. -/
theorem isReply_eq_false_iff {message : Message} :
    message.isReply = false ↔ message.isNotification = true := by
  unfold isReply isNotification
  cases message.notification? <;> simp

/-- Only the message of a notification has it. -/
theorem eq_of_notification?_eq_some {message : Message} {event : Notification}
    (h : message.notification? = some event) : message = notification event := by
  cases message with
  | notification found => exact congrArg notification (Option.some.inj h)
  | _ => cases h

/-- The notifications among messages are the messages of the notifications that they have. -/
theorem filter_isNotification (messages : List Message) :
    messages.filter isNotification = (messages.filterMap notification?).map notification := by
  induction messages with
  | nil => rfl
  | cons message rest ih =>
    cases h : message.notification? with
    | none => simp [isNotification, h, ih]
    | some event =>
      rw [List.filter_cons_of_pos (by simp [isNotification, h]), List.filterMap_cons_some h, ih,
        List.map_cons, eq_of_notification?_eq_some h]

end Message

end RemovableMedia
