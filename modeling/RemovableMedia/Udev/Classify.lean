import RemovableMedia.Device.Event
import RemovableMedia.Udev.Datagram
import RemovableMedia.Udev.Sysfs

/-!
# From properties to devices

Which block devices count as removable media, and what they are: optical drives, disks on a
removable bus or so marked by the kernel, cards, and all partitions.  The node of a device comes
from its name; the disk of a partition is named by the directory above the partition's own.
-/

set_option autoImplicit false

namespace RemovableMedia.Udev

namespace Properties

/-- The node of the device. -/
def deviceNode? (props : Properties) : Option String :=
  (props.nonEmpty? "DEVNAME").map fun name =>
    if Path.isAbsolute name then name else "/dev/" ++ name

/-- The state of the medium in an optical drive with the given file system. -/
def mediaState (props : Properties) (filesystem : Option String) : Device.MediaState :=
  if !props.flag "ID_CDROM_MEDIA" then .empty
  else if props.has "ID_CDROM_MEDIA_STATE" "blank" then .clear
  else if filesystem.isSome then .ok
  else .unknown

/-- Whether a node is named like a card. -/
def isCardNode (node : String) : Bool :=
  "mmcblk".toList.isPrefixOf (Path.lastPiece node).toList

/-- The hardware of a disk with the given node and device path, if it is removable. -/
def diskSubtype? (props : Properties) (sysfs : Sysfs) (node devicePath : String) :
    Option Device.Subtype :=
  if props.flag "ID_DRIVE_FLASH_SD" || isCardNode node then some .sdCard
  else if props.has "ID_BUS" "usb" || sysfs.isRemovable devicePath then some .removableDisk
  else none

/-- The media of the device with the given node and device path, if it is to be tracked. -/
def media? (props : Properties) (sysfs : Sysfs) (node devicePath : String) :
    Option Device.Media :=
  let filesystem := props.nonEmpty? "ID_FS_TYPE"
  let label := props.nonEmpty? "ID_FS_LABEL"
  if props.has "DEVTYPE" "disk" then
    if props.flag "ID_CDROM" then
      some (.stateful .cdrom (props.mediaState filesystem) filesystem label)
    else (props.diskSubtype? sysfs node devicePath).map .stateless
  else if props.has "DEVTYPE" "partition" then
    (Path.parentName? devicePath).map fun name => .partition ("/dev/" ++ name) filesystem label
  else none

/-- The record of the device, if it is to be tracked. -/
def classify (props : Properties) (sysfs : Sysfs) : Option Device.Record :=
  if !props.has "SUBSYSTEM" "block" then none
  else do
    let node ← props.deviceNode?
    let devicePath ← props.get? "DEVPATH"
    let media ← props.media? sysfs node devicePath
    let record ← (Device.Record.make? node media).toOption
    return record.withTag devicePath

/-- The record of a disk that is gone and can no longer be classified. -/
def vanishedDisk? (props : Properties) : Option Device.Record := do
  let node ← props.deviceNode?
  (Device.Record.stateless? node .unknown).toOption

/-- The event that properties state.  A disk that goes is reported even when nothing is left by
which to classify it. -/
def event? (props : Properties) (sysfs : Sysfs) : Option Device.Event := do
  let action ← (props.get? "ACTION").bind Device.Action.ofWord?
  match props.classify sysfs with
  | some record => return ⟨action, record⟩
  | none =>
    if action.isRemoval && props.has "DEVTYPE" "disk" then
      return ⟨action, ← props.vanishedDisk?⟩
    else none

end Properties

/-- The event that a received datagram states. -/
def Datagram.event? (datagram : Datagram) (sysfs : Sysfs) : Option Device.Event :=
  datagram.received.properties?.bind fun props => props.event? sysfs

end RemovableMedia.Udev
