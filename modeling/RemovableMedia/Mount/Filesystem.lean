import RemovableMedia.ErrorCode
import RemovableMedia.Text.Blank
import RemovableMedia.Text.Split

/-!
# Supported filesystems

Which types of file system may be mounted, and which options a client may ask for.  An option is
a bare word or a word with a value after an equals sign; what is allowed is the word.
-/

set_option autoImplicit false

namespace RemovableMedia.Mount

/-- The options of one type of file system. -/
structure Filesystem where
  /-- What is used when a client asks for nothing. -/
  defaults : List String
  /-- The words that a client may use. -/
  allowed : List String
deriving DecidableEq, Repr

/-- The supported types of file system, in the order of their names. -/
abbrev Filesystems := List (String × Filesystem)

/-- The supported type of file system of a name. -/
def Filesystems.get? (filesystems : Filesystems) (name : String) : Option Filesystem :=
  (filesystems.find? fun entry => entry.1 == name).map Prod.snd

/-- The names of the supported types. -/
def Filesystems.names (filesystems : Filesystems) : List String :=
  filesystems.map Prod.fst

/-- The word of an option, without its value. -/
def optionWord (option : String) : String :=
  match Text.splitOnce '=' option.toList with
  | some (word, _) => String.ofList word
  | none => option

namespace Filesystem

/-- Whether the word of an option may be used. -/
def allows (filesystem : Filesystem) (option : String) : Bool :=
  filesystem.allowed.contains (optionWord option)

/-- Whether a client may ask for an option: it is not empty, holds no blank, and its word may be
used. -/
def accepts (filesystem : Filesystem) (option : String) : Bool :=
  option != "" && !option.toList.any Text.isBlank && filesystem.allows option

/-- The options of a mount: what the client asks for between commas if every part is accepted, and
the defaults if it asks for nothing. -/
def resolve (filesystem : Filesystem) : Option String → Except ErrorCode (List String)
  | none => .ok filesystem.defaults
  | some options =>
    let parts := Text.splitString ',' options
    if parts.all filesystem.accepts then .ok parts else .error .failedParsingMountOptions

end Filesystem

/-! ## The filesystems that are supported unless stated otherwise -/

/-- The words that every type of file system takes. -/
def commonWords : List String :=
  ["ro", "rw", "nosuid", "nodev", "noexec", "sync", "dirsync", "noatime", "nodiratime",
    "relatime"]

/-- The words of the types without owners and permissions. -/
def ownerlessWords : List String :=
  commonWords ++ ["uid", "gid", "umask", "dmask", "fmask", "flush", "utf8", "iocharset"]

/-- The words of the types with lists of access rights. -/
def journalledWords : List String :=
  commonWords ++ ["acl", "noacl", "user_xattr", "nouser_xattr"]

/-- The words of the types for optical media. -/
def opticalWords : List String :=
  commonWords ++ ["uid", "gid", "mode", "iocharset", "utf8"]

/-- The types that are supported unless a configuration states others. -/
def Filesystems.standard : Filesystems :=
  let writable := ["rw", "nosuid", "nodev"]
  let readOnly := ["ro", "nosuid", "nodev"]
  [("exfat", ⟨writable, ownerlessWords⟩),
    ("ext2", ⟨writable, journalledWords⟩),
    ("ext3", ⟨writable, journalledWords⟩),
    ("ext4", ⟨writable, journalledWords⟩),
    ("iso9660", ⟨readOnly, opticalWords⟩),
    ("ntfs", ⟨writable, ownerlessWords⟩),
    ("udf", ⟨readOnly, opticalWords⟩),
    ("vfat", ⟨writable ++ ["flush"], ownerlessWords⟩)]

end RemovableMedia.Mount
