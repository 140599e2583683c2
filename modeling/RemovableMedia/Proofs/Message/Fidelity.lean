import RemovableMedia.Proofs.Device.Record
import RemovableMedia.Proofs.Message

/-!
# What arrives of a message

The reader of messages drops some of what a description can hold, such as the file system of a
plain disk.  The daemon does not say such things: its descriptions are those of device records, and
only devices that can be mounted have a mount.  So of every message that the daemon sends all
fields arrive (`sent_message_arrives`), with texts cleaned and nothing else changed.
-/

set_option autoImplicit false

namespace RemovableMedia

open RemovableMedia.Line (clean)

/-! ## Cleaned messages -/

namespace Description

/-- The description with its texts cleaned. -/
def cleaned (device : Description) : Description :=
  { device with
    parentPath := clean device.parentPath
    path := clean device.path
    filesystem := device.filesystem.map clean
    label := device.label.map clean
    mount := device.mount.map Mount.Info.cleaned }

/-- The arguments of a cleaned description are the cleaned arguments of the description. -/
theorem args_cleaned (device : Description) :
    device.cleaned.args = device.args.map (Option.map clean) := by
  have hpoint : (device.mount.map Mount.Info.cleaned).map Mount.Info.point =
      (device.mount.map Mount.Info.point).map clean := by
    cases device.mount <;> rfl
  have hoptions : (device.mount.map Mount.Info.cleaned).map Mount.Info.options =
      (device.mount.map Mount.Info.options).map clean := by
    cases device.mount <;> rfl
  have hcontent : device.cleaned.contentArgs = device.contentArgs.map (Option.map clean) := by
    simp only [contentArgs, cleaned, hpoint, hoptions, List.map_cons, List.map_nil]
  have hkind : device.cleaned.kind = device.kind := rfl
  unfold args
  rw [hcontent, hkind]
  cases device.kind <;> simp [cleaned, clean_kind, clean_subtype, clean_state]

/-- The description of a record arrives with all its fields, as long as no plain disk is said to
be mounted. -/
theorem received_ofRecord {record : Device.Record} {mount : Option Mount.Info}
    (h : record.kind = .stateless → mount = none) :
    (ofRecord record mount).received = (ofRecord record mount).cleaned := by
  obtain ⟨path, media, tag⟩ := record
  cases media with
  | stateless subtype =>
    obtain rfl := h rfl
    rfl
  | stateful subtype state filesystem label => rfl
  | partition parent filesystem label => rfl

end Description

/-- The notification with its texts cleaned. -/
def Notification.cleaned : Notification → Notification
  | added device => added device.cleaned
  | removed path => removed (clean path)
  | changed device => changed device.cleaned
  | mounted path info => mounted (clean path) info.cleaned
  | unmounted path point => unmounted (clean path) (clean point)

namespace Message

/-- The message with its texts cleaned. -/
def cleaned : Message → Message
  | started command args => started (clean command) (args.map (Option.map clean))
  | finished command args => finished (clean command) (args.map (Option.map clean))
  | succeeded command args => succeeded (clean command) (args.map (Option.map clean))
  | failed command args code => failed (clean command) (args.map (Option.map clean)) code
  | device description => device description.cleaned
  | supportedFilesystems names => supportedFilesystems (names.map clean)
  | supportedFilesystemOptions options => supportedFilesystemOptions (options.map clean)
  | notification event => notification event.cleaned

/-- Cleaning leaves the name of a message as it is. -/
theorem name_cleaned (message : Message) : message.cleaned.name = message.name := by
  cases message with
  | notification event => cases event <;> rfl
  | _ => rfl

/-- Cleaning keeps the number of arguments and the places of those that are absent. -/
theorem args_cleaned (message : Message) :
    message.cleaned.args = message.args.map (Option.map clean) := by
  cases message with
  | started command args | finished command args | succeeded command args => rfl
  | failed command args code => simp [cleaned, Message.args, clean_code]
  | device description => exact description.args_cleaned
  | supportedFilesystems names | supportedFilesystemOptions options => simp [cleaned, Message.args]
  | notification event =>
    cases event with
    | added description | changed description => exact description.args_cleaned
    | removed path | mounted path info | unmounted path point => rfl

/-! ## Messages of the daemon -/

/-- What the daemon can say: answers to commands, and what happens to devices, each of which is
described by its record and its mount. -/
inductive Sent : Message → Prop where
  | start (command : Command) : Sent (.start command)
  | finish (command : Command) : Sent (.finish command)
  | success (command : Command) : Sent (.success command)
  | failure (command : Command) (code : ErrorCode) : Sent (.failure command code)
  | listed (record : Device.Record) (mount : Option Mount.Info)
      (h : record.kind = .stateless → mount = none) : Sent (.device (.ofRecord record mount))
  | supportedFilesystems (names : List String) : Sent (.supportedFilesystems names)
  | supportedFilesystemOptions (options : List String) : Sent (.supportedFilesystemOptions options)
  | added (record : Device.Record) (mount : Option Mount.Info)
      (h : record.kind = .stateless → mount = none) :
      Sent (.notification (.added (.ofRecord record mount)))
  | changed (record : Device.Record) (mount : Option Mount.Info)
      (h : record.kind = .stateless → mount = none) :
      Sent (.notification (.changed (.ofRecord record mount)))
  | removed (path : String) : Sent (.notification (.removed path))
  | mounted (path : String) (info : Mount.Info) : Sent (.notification (.mounted path info))
  | unmounted (path point : String) : Sent (.notification (.unmounted path point))

/-- The reader leaves out nothing of what the daemon says. -/
theorem Sent.received_eq {message : Message} (h : message.Sent) :
    message.received = message.cleaned := by
  cases h with
  | start | finish | success | failure => rfl
  | supportedFilesystems | supportedFilesystemOptions => rfl
  | listed record mount h => exact congrArg device (Description.received_ofRecord h)
  | added record mount h =>
    exact congrArg (fun described => notification (.added described))
      (Description.received_ofRecord h)
  | changed record mount h =>
    exact congrArg (fun described => notification (.changed described))
      (Description.received_ofRecord h)
  | removed | mounted | unmounted => rfl

/-- The text of every message of the daemon is read as a line, and this line as the message itself
with its texts cleaned, which has the same name, the same number of arguments and the same of them
absent. -/
theorem sent_message_arrives {message : Message} (h : message.Sent) :
    (∃ line, Line.parse message.line.render = .ok line ∧ ofLine line = .ok message.cleaned) ∧
      message.cleaned.name = message.name ∧
      message.cleaned.args = message.args.map (Option.map clean) := by
  obtain ⟨line, hparse, hread⟩ := message.readAs_received
  rw [h.received_eq] at hread
  exact ⟨⟨line, hparse, hread⟩, message.name_cleaned, message.args_cleaned⟩

/-- A mounted partition that is labelled with the end of a line and the beginning of another. -/
theorem sent_message_arrives_of_forged_label :
    let record : Device.Record :=
      ⟨"/dev/sdb1", .partition "/dev/sdb" none (some "\", nil)\nfailed(\"é"), some "sdb1"⟩
    let mount : Mount.Info := ⟨"/media/stick", ""⟩
    (record.kind = .stateless → some mount = none) ∧
      ∃ line,
        Line.parse (notification (.changed (.ofRecord record (some mount)))).line.render =
            .ok line ∧
          ofLine line = .ok (notification (.changed ⟨"/dev/sdb", "/dev/sdb1", .partition, none,
            none, none, some "_, nil)_failed(_é", some ⟨"/media/stick", ""⟩⟩)) := by
  intro record mount
  have hmount : record.kind = .stateless → some mount = none := by
    intro hkind
    cases hkind
  obtain ⟨⟨line, hparse, hread⟩, -⟩ :=
    sent_message_arrives (Sent.changed record (some mount) hmount)
  refine ⟨hmount, line, hparse, hread.trans ?_⟩
  decide +kernel

end Message

end RemovableMedia
