import RemovableMedia.Line.Parser

/-!
# Commands

What a client can ask of the daemon.  A command is a line with one of seven names and a fixed
number of arguments, of which only the options of a mount may be absent.
-/

set_option autoImplicit false

namespace RemovableMedia

/-- A request of a client. -/
inductive Command where
  | listAllRemovableDevices
  | listRemovableDevice (path : String)
  | mount (path : String) (options : Option String)
  | unmount (path : String)
  | listSupportedFilesystems
  | listSupportedFilesystemOptions (filesystem : String)
  | poweroff (path : String)
deriving DecidableEq, Repr

/-- Why a line is not a command. -/
inductive CommandError where
  | malformed (cause : LineError)
  | unknown (name : String)
  | wrongArity (command : String) (expected got : Nat)
  | nilArgument (command : String) (index : Nat)
deriving DecidableEq, Repr

/-- How a refusal is worded. -/
def CommandError.message : CommandError → String
  | .malformed cause => "malformed command: " ++ cause.message
  | .unknown name => "unknown command: " ++ name
  | .wrongArity command expected got => s!"{command} expects {expected} argument(s), got {got}"
  | .nilArgument command index => s!"{command} argument {index} must not be nil"

namespace Command

/-- The name of a command on the wire. -/
def name : Command → String
  | listAllRemovableDevices => "list_all_removable_devices"
  | listRemovableDevice _ => "list_removable_device"
  | mount _ _ => "mount"
  | unmount _ => "unmount"
  | listSupportedFilesystems => "list_supported_filesystems"
  | listSupportedFilesystemOptions _ => "list_supported_filesystem_options"
  | poweroff _ => "poweroff"

/-- The arguments of a command on the wire. -/
def args : Command → Arguments
  | listAllRemovableDevices => []
  | listRemovableDevice path => [some path]
  | mount path options => [some path, options]
  | unmount path => [some path]
  | listSupportedFilesystems => []
  | listSupportedFilesystemOptions filesystem => [some filesystem]
  | poweroff path => [some path]

/-- A command as a line. -/
def line (command : Command) : Line :=
  Line.make command.name command.args

/-- Whether the answer to a command is a listing, which has a beginning and an end. -/
def isListing : Command → Bool
  | listAllRemovableDevices => true
  | listRemovableDevice _ => true
  | listSupportedFilesystems => true
  | listSupportedFilesystemOptions _ => true
  | _ => false

/-- A command without arguments. -/
def nullary (command : Command) (args : Arguments) : Except CommandError Command :=
  match args with
  | [] => .ok command
  | _ => .error (.wrongArity command.name 0 args.length)

/-- A command with one argument, which must be a text. -/
def unary (command : String → Command) (args : Arguments) : Except CommandError Command :=
  match args with
  | [some text] => .ok (command text)
  | [none] => .error (.nilArgument (command "").name 0)
  | _ => .error (.wrongArity (command "").name 1 args.length)

/-- A mount command: a text and options that may be absent. -/
def ofMountArgs (args : Arguments) : Except CommandError Command :=
  match args with
  | [some path, options] => .ok (mount path options)
  | [none, _] => .error (.nilArgument "mount" 0)
  | _ => .error (.wrongArity "mount" 2 args.length)

/-- The command that a line states. -/
def ofLine (line : Line) : Except CommandError Command :=
  if line.name = "list_all_removable_devices" then nullary listAllRemovableDevices line.args
  else if line.name = "list_removable_device" then unary listRemovableDevice line.args
  else if line.name = "mount" then ofMountArgs line.args
  else if line.name = "unmount" then unary unmount line.args
  else if line.name = "list_supported_filesystems" then nullary listSupportedFilesystems line.args
  else if line.name = "list_supported_filesystem_options" then
    unary listSupportedFilesystemOptions line.args
  else if line.name = "poweroff" then unary poweroff line.args
  else .error (.unknown line.name)

/-- The command that a text states. -/
def parse (text : String) : Except CommandError Command :=
  match Line.parse text with
  | .ok line => ofLine line
  | .error cause => .error (.malformed cause)

end Command

end RemovableMedia
