import RemovableMedia.Device.Kind
import RemovableMedia.Text.Quoted

/-!
# Device records

What is known about one device or partition at one moment.  A record is a value: a device that
changed is described by a new record with the same path.  Records made by `Record.make?` have a
path that is absolute and not the root, and a partition among them has a parent that could be
another device.
-/

set_option autoImplicit false

namespace RemovableMedia.Device

/-- The parent path of every device that is not a partition. -/
def rootPath : String := "/"

/-- What is specific to the kind of a device. -/
inductive Media where
  | stateless (subtype : Subtype)
  | stateful (subtype : Subtype) (state : MediaState) (filesystem label : Option String)
  | partition (parent : String) (filesystem label : Option String)
deriving DecidableEq, Repr

/-- The kind of device with such media. -/
def Media.kind : Media → Kind
  | .stateless _ => .stateless
  | .stateful _ _ _ _ => .stateful
  | .partition _ _ _ => .partition

/-- One device or partition. -/
structure Record where
  /-- The device node. -/
  path : String
  media : Media
  /-- A mark of the source that reported the device. -/
  tag : Option String
deriving DecidableEq, Repr

/-- Why a record cannot be made. -/
inductive RecordError where
  | invalidPath (path : String)
  | invalidParent (path parent : String)
deriving DecidableEq, Repr

/-- How a refusal is worded. -/
def RecordError.message : RecordError → String
  | .invalidPath path => "Invalid device path: " ++ Text.quoted path
  | .invalidParent path parent =>
    "Invalid parent " ++ Text.quoted parent ++ " for partition " ++ path

/-- A text, or its absence if it is empty. -/
def nonEmpty (text : Option String) : Option String :=
  text.filter fun s => s != ""

namespace Media

/-- The same media with empty texts taken for absent ones. -/
def normalize : Media → Media
  | .stateless subtype => .stateless subtype
  | .stateful subtype state filesystem label =>
    .stateful subtype state (nonEmpty filesystem) (nonEmpty label)
  | .partition parent filesystem label =>
    .partition parent (nonEmpty filesystem) (nonEmpty label)

/-- Whether a device at the given path can have such media: a partition needs a parent that is
neither missing, nor itself, nor the root. -/
def fits (path : String) : Media → Bool
  | .partition parent _ _ => parent != "" && parent != path && parent != rootPath
  | _ => true

/-- The path of the device that holds this one. -/
def parentPath : Media → String
  | .partition parent _ _ => parent
  | _ => rootPath

end Media

/-- Whether a device can have this path. -/
def isDevicePath (path : String) : Bool :=
  path.toList.head? == some '/' && path != rootPath

namespace Record

/-- The record of a device, if its path and its parent are acceptable. -/
def make? (path : String) (media : Media) : Except RecordError Record :=
  if isDevicePath path then
    if media.fits path then .ok ⟨path, media.normalize, none⟩
    else .error (.invalidParent path media.parentPath)
  else .error (.invalidPath path)

/-- The record of a disk or card. -/
def stateless? (path : String) (subtype : Subtype) : Except RecordError Record :=
  make? path (.stateless subtype)

/-- The record of a drive with exchangeable media. -/
def stateful? (path : String) (subtype : Subtype) (state : MediaState)
    (filesystem label : Option String) : Except RecordError Record :=
  make? path (.stateful subtype state filesystem label)

/-- The record of a partition. -/
def partition? (path parent : String) (filesystem label : Option String) :
    Except RecordError Record :=
  make? path (.partition parent filesystem label)

/-- The record with a mark of its source. -/
def withTag (record : Record) (tag : String) : Record :=
  { record with tag := some tag }

/-- The kind of a device. -/
def kind (record : Record) : Kind :=
  record.media.kind

/-- The path of the device that holds this one; the root for everything but partitions. -/
def parentPath (record : Record) : String :=
  record.media.parentPath

/-- Whether a device stands on its own. -/
def isRoot (record : Record) : Bool :=
  record.parentPath == rootPath

/-- The hardware of a device, unless it is a partition. -/
def subtype (record : Record) : Option Subtype :=
  match record.media with
  | .stateless subtype => some subtype
  | .stateful subtype _ _ _ => some subtype
  | .partition _ _ _ => none

/-- The state of the medium of a drive. -/
def state (record : Record) : Option MediaState :=
  match record.media with
  | .stateful _ state _ _ => some state
  | _ => none

/-- The file system on a device, where it is known. -/
def filesystem (record : Record) : Option String :=
  match record.media with
  | .stateless _ => none
  | .stateful _ _ filesystem _ => filesystem
  | .partition _ filesystem _ => filesystem

/-- The label of the file system on a device, where it is known. -/
def label (record : Record) : Option String :=
  match record.media with
  | .stateless _ => none
  | .stateful _ _ _ label => label
  | .partition _ _ label => label

/-- Whether a device can be mounted: partitions always, drives while a medium with data is in, and
whole disks never. -/
def isMountable (record : Record) : Bool :=
  match record.media with
  | .partition _ _ _ => true
  | .stateful _ state _ _ => state == .ok
  | .stateless _ => false

end Record

end RemovableMedia.Device
