import RemovableMedia.Command
import RemovableMedia.Device.Record
import RemovableMedia.ErrorCode
import RemovableMedia.Mount.Entry

/-!
# Messages

What the daemon says to a client: the answers to commands, which repeat the command they answer,
the descriptions of devices in a listing, and notifications of what happened to a device, which
every client receives.
-/

set_option autoImplicit false

namespace RemovableMedia

/-- What a client learns of one device. -/
structure Description where
  parentPath : String
  path : String
  kind : Device.Kind
  subtype : Option Device.Subtype
  state : Option Device.MediaState
  filesystem : Option String
  label : Option String
  mount : Option Mount.Info
deriving DecidableEq, Repr

namespace Description

/-- The description of a device together with its mount. -/
def ofRecord (record : Device.Record) (mount : Option Mount.Info) : Description where
  parentPath := record.parentPath
  path := record.path
  kind := record.kind
  subtype := record.subtype
  state := record.state
  filesystem := record.filesystem
  label := record.label
  mount := mount

/-- Whether the described device stands on its own. -/
def isRoot (device : Description) : Bool :=
  device.parentPath == Device.rootPath

/-- The file system, label, mount point and mount options as arguments. -/
def contentArgs (device : Description) : Arguments :=
  [device.filesystem, device.label, device.mount.map Mount.Info.point,
    device.mount.map Mount.Info.options]

/-- The arguments of a line that describes a device; which there are depends on the kind. -/
def args (device : Description) : Arguments :=
  let subtype := (device.subtype.getD .unknown).word
  let state := (device.state.getD .unknown).word
  [some device.parentPath, some device.path, some device.kind.word] ++
    match device.kind with
    | .stateless => [some subtype]
    | .stateful => some subtype :: some state :: device.contentArgs
    | .partition => device.contentArgs

end Description

/-- Something that happened to a device. -/
inductive Notification where
  | added (device : Description)
  | removed (path : String)
  | changed (device : Description)
  | mounted (path : String) (info : Mount.Info)
  | unmounted (path : String) (point : String)
deriving DecidableEq, Repr

namespace Notification

/-- The path of the device it happened to. -/
def path : Notification → String
  | added device => device.path
  | removed path => path
  | changed device => device.path
  | mounted path _ => path
  | unmounted path _ => path

/-- The name of a notification on the wire. -/
def name : Notification → String
  | added _ => "removable_device_added"
  | removed _ => "removable_device_removed"
  | changed _ => "removable_device_changed"
  | mounted _ _ => "removable_device_mounted"
  | unmounted _ _ => "removable_device_unmounted"

/-- The arguments of a notification on the wire. -/
def args : Notification → Arguments
  | added device => device.args
  | removed path => [some path]
  | changed device => device.args
  | mounted path info => [some path, some info.point, some info.options]
  | unmounted path point => [some path, some point]

/-- A notification as a line. -/
def line (notification : Notification) : Line :=
  Line.make notification.name notification.args

end Notification

/-- A message of the daemon. -/
inductive Message where
  | started (command : String) (args : Arguments)
  | finished (command : String) (args : Arguments)
  | succeeded (command : String) (args : Arguments)
  | failed (command : String) (args : Arguments) (code : ErrorCode)
  | device (description : Description)
  | supportedFilesystems (names : List String)
  | supportedFilesystemOptions (options : List String)
  | notification (event : Notification)
deriving DecidableEq, Repr

namespace Message

/-- The beginning of the listing that answers a command. -/
def start (command : Command) : Message :=
  .started command.name command.args

/-- The end of the listing that answers a command. -/
def finish (command : Command) : Message :=
  .finished command.name command.args

/-- The answer to a command that was carried out. -/
def success (command : Command) : Message :=
  .succeeded command.name command.args

/-- The answer to a command that was refused. -/
def failure (command : Command) (code : ErrorCode) : Message :=
  .failed command.name command.args code

/-- The name of a message on the wire. -/
def name : Message → String
  | started _ _ => "started"
  | finished _ _ => "finished"
  | succeeded _ _ => "succeeded"
  | failed _ _ _ => "failed"
  | device _ => "removable_device"
  | supportedFilesystems _ => "supported_filesystems"
  | supportedFilesystemOptions _ => "supported_filesystem_options"
  | .notification event => event.name

/-- The arguments of a message on the wire. -/
def args : Message → Arguments
  | started command args => some command :: args
  | finished command args => some command :: args
  | succeeded command args => some command :: args
  | failed command args code => some command :: (args ++ [some code.word])
  | .device description => description.args
  | supportedFilesystems names => names.map some
  | supportedFilesystemOptions options => options.map some
  | .notification event => event.args

/-- A message as a line. -/
def line (message : Message) : Line :=
  Line.make message.name message.args

/-- The name of the command that a message answers. -/
def command? : Message → Option String
  | started command _ => some command
  | finished command _ => some command
  | succeeded command _ => some command
  | failed command _ _ => some command
  | _ => none

end Message

end RemovableMedia
