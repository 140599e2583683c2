import RemovableMedia.Files.FileTree
import RemovableMedia.Text.Blank

/-!
# The device file system

The kernel shows its devices as a tree of directories.  One of them, `class/block`, lists the
block devices by name, each as a link to the device's own directory.
-/

set_option autoImplicit false

namespace RemovableMedia.Udev

/-- A device file system below a directory of a file tree, with the links in its list of block
devices. -/
structure Sysfs where
  files : FileTree
  /-- The path of the directory. -/
  root : String
  /-- The names of the links, and the paths they lead to from the list of block devices. -/
  links : List (String × String)
deriving Repr

namespace Sysfs

/-- The number of links that one path may pass. -/
def linkLimit : Nat := 40

/-- The place of the whole file system. -/
def rootLocation (sysfs : Sysfs) : Location :=
  sysfs.files.workingDirectory ++ (Path.pieces sysfs.root).filter (· ≠ "")

/-- The place of the list of block devices. -/
def listLocation (sysfs : Sysfs) : Location :=
  sysfs.rootLocation ++ ["class", "block"]

/-- The path that a name in a directory links to, if it is a link. -/
def link? (sysfs : Sysfs) (location : Location) (name : String) : Option String :=
  if location = sysfs.listLocation then
    (sysfs.links.find? fun link => link.1 == name).map Prod.snd
  else none

/-- Follows the pieces of a path from a place, through at most the given number of links. -/
def follow (sysfs : Sysfs) : Nat → Location → List String → Option Location
  | _, location, [] => some location
  | budget, location, piece :: rest =>
    match sysfs.link? location piece with
    | none =>
      match sysfs.files.step location piece with
      | .ok next => sysfs.follow budget next rest
      | .error _ => none
    | some target =>
      match budget with
      | 0 => none
      | budget + 1 => sysfs.follow budget location (Path.pieces target ++ rest)
termination_by budget _ pieces => (budget, pieces.length)

/-- The place that a relative path leads to from a place. -/
def locate (sysfs : Sysfs) (location : Location) (path : String) : Option Location :=
  sysfs.follow linkLimit location (Path.pieces path)

/-- The text of the file at a place. -/
def textAt (sysfs : Sysfs) (location : Location) : Option String :=
  match sysfs.files.entry? location with
  | some (.file content) => Text.Utf8.decode? content
  | _ => none

/-- Whether the kernel calls the device at a path below the root removable. -/
def isRemovable (sysfs : Sysfs) (devicePath : String) : Bool :=
  let relative := String.ofList (devicePath.toList.dropWhile (· == '/'))
  match sysfs.locate sysfs.rootLocation (Path.join relative "removable") with
  | some location =>
    ((sysfs.textAt location).map fun text => Text.trim text.toList == ['1']).getD false
  | none => false

/-- The names in the list of block devices. -/
def blockNames (sysfs : Sysfs) : Except OsError (List String) := do
  if !sysfs.files.isDirectoryAt sysfs.rootLocation then
    let _ ← sysfs.files.resolve sysfs.root
    throw .notDirectory
  let location ← sysfs.files.resolve (Path.join sysfs.root "class/block")
  if !sysfs.files.isDirectoryAt location then throw .notDirectory
  return sysfs.links.map Prod.fst ++ sysfs.files.namesAt location

/-- The path of a place below the root, from the root. -/
def devicePath? (sysfs : Sysfs) (location : Location) : Option String :=
  if sysfs.rootLocation.isPrefixOf location then
    some ("/" ++ "/".intercalate (location.drop sysfs.rootLocation.length))
  else none

end Sysfs

end RemovableMedia.Udev
