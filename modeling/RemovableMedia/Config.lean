import RemovableMedia.Files.OsError
import RemovableMedia.Mount.Filesystem
import RemovableMedia.Text.Quoted

/-!
# Configuration

Where the daemon listens and mounts, whether it may power devices off, and which filesystems it
supports.  Everything has a default.  The default options of a file system have to be among those
that a client may ask for.
-/

set_option autoImplicit false

namespace RemovableMedia

/-- What can be configured. -/
structure Config where
  socketPath : String
  pidFile : String
  /-- The directory under which mount points are made. -/
  mountDir : String
  poweroffEnabled : Bool
  filesystems : Mount.Filesystems
deriving DecidableEq, Repr

/-- Why there is no configuration. -/
inductive ConfigError where
  | unreadable (path : String) (reason : OsError)
  /-- The text is malformed, or a setting has a value of the wrong type. -/
  | invalid (path : String)
  | defaultNotAllowed (filesystem option : String)
deriving DecidableEq, Repr

/-- How a failure is worded, up to what is wrong with a malformed text. -/
def ConfigError.message : ConfigError → String
  | .unreadable path reason => s!"Failed to read config {path}: {reason.message}"
  | .invalid path => s!"Invalid config {path}"
  | .defaultNotAllowed filesystem option =>
    s!"Filesystem {filesystem}: default option {Text.quoted option} is not in allowed_options"

namespace Config

/-- The configuration in which nothing is stated. -/
def standard : Config where
  socketPath := "/var/run/mediad.sock"
  pidFile := "/var/run/mediad.pid"
  mountDir := "/media"
  poweroffEnabled := true
  filesystems := .standard

/-- The first default option that a client could not ask for, with its file system. -/
def forbiddenDefault? (filesystems : Mount.Filesystems) : Option (String × String) :=
  filesystems.findSome? fun (name, filesystem) =>
    (filesystem.defaults.find? fun option => !filesystem.allows option).map fun option =>
      (name, option)

/-- A configuration whose default options are all allowed. -/
def checked (config : Config) : Except ConfigError Config :=
  match forbiddenDefault? config.filesystems with
  | some (filesystem, option) => .error (.defaultNotAllowed filesystem option)
  | none => .ok config

/-- The configuration with the socket path that the environment states, unless that is empty. -/
def withSocket (config : Config) : Option String → Config
  | some path => if path = "" then config else { config with socketPath := path }
  | none => config

end Config

end RemovableMedia
