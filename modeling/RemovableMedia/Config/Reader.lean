import RemovableMedia.Config
import RemovableMedia.Files.FileTree
import RemovableMedia.Toml.Parser

/-!
# Reading configurations

How the settings are found in the values of a configuration text.  Settings that are not stated
keep their defaults and unknown ones are passed over, but a setting of the wrong type is refused.
-/

set_option autoImplicit false

namespace RemovableMedia

open RemovableMedia.Mount (Filesystem Filesystems)

namespace Toml

/-- The text of a string. -/
def asString : Toml → Option String
  | .string text => some text
  | _ => none

/-- The value of a boolean. -/
def asBool : Toml → Option Bool
  | .bool value => some value
  | _ => none

/-- The texts of an array of strings. -/
def asStrings : Toml → Option (List String)
  | .array items => items.mapM asString
  | _ => none

/-- The fields of a table. -/
def asTable : Toml → Option Fields
  | .table _ fields => some fields
  | _ => none

/-- The value of a setting, or its default if it is not stated. -/
def setting {α : Type} (fields : Fields) (key : String) (read : Toml → Option α)
    (default : α) : Option α :=
  match fields.get? key with
  | none => some default
  | some value => read value

/-- The options of a file system: a table, or the two lists in an array. -/
def asFilesystem : Toml → Option Filesystem
  | .table _ fields => do
    let defaults ← setting fields "default_options" asStrings []
    let allowed ← setting fields "allowed_options" asStrings []
    return ⟨defaults, allowed⟩
  | .array items => do
    let defaults ← (items[0]?.map asStrings).getD (some [])
    let allowed ← (items[1]?.map asStrings).getD (some [])
    return ⟨defaults, allowed⟩
  | .datetime => some ⟨[], []⟩
  | _ => none

/-- The supported filesystems in the order of their names. -/
def asFilesystems (value : Toml) : Option Filesystems := do
  let fields ← value.asTable
  let filesystems ← fields.mapM fun (name, value) => value.asFilesystem.map fun filesystem =>
    (name, filesystem)
  return filesystems.mergeSort fun a b => decide (a.1 ≤ b.1)

end Toml

namespace Config

/-- The settings of a configuration text. -/
def ofFields (fields : Toml.Fields) : Option Config := do
  let socketPath ← Toml.setting fields "socket_path" Toml.asString standard.socketPath
  let pidFile ← Toml.setting fields "pid_file" Toml.asString standard.pidFile
  let mountDir ← Toml.setting fields "mount_dir" Toml.asString standard.mountDir
  let poweroffEnabled ← Toml.setting fields "enable_poweroff" Toml.asBool standard.poweroffEnabled
  let filesystems ← Toml.setting fields "filesystems" Toml.asFilesystems standard.filesystems
  return { socketPath, pidFile, mountDir, poweroffEnabled, filesystems }

/-- The configuration that a text states; the path is where the text is from. -/
def parse (path text : String) : Except ConfigError Config :=
  match (Toml.parse? text).bind ofFields with
  | some config => config.checked
  | none => .error (.invalid path)

/-- The configuration in a file. -/
def read (files : FileTree) (path : String) : Except ConfigError Config :=
  match files.readText path with
  | .ok text => parse path text
  | .error reason => .error (.unreadable path reason)

/-- The file that is read when none is named, if there is one. -/
def usualPath : String := "/etc/mediad.toml"

/-- The configuration in a named file, which has to exist, or in the usual one; the environment
may state another socket path. -/
def load (files : FileTree) (path socket : Option String) : Except ConfigError Config :=
  let config :=
    match path with
    | some path => read files path
    | none => if files.exists? usualPath then read files usualPath else .ok standard
  config.map fun config => config.withSocket socket

end Config

end RemovableMedia
