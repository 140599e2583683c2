import RemovableMedia.Udev.Classify

/-!
# Listing the devices that are present

Each block device is described by its own event file and by its entry in the device manager's
database.  The devices that stand on their own come before the partitions, and within each group
they are ordered by their paths, so the result does not depend on the order of the directory.
-/

set_option autoImplicit false

namespace RemovableMedia.Udev

/-- The lines of a text, without the newlines that end them and a carriage return before one. -/
def textLines (text : String) : List String :=
  let pieces := Text.splitAll '\n' text.toList
  let ended := pieces.dropLast.map fun line =>
    if line.getLast? = some '\r' then line.dropLast else line
  let last := (pieces.getLast?).getD []
  (if last.isEmpty then ended else ended ++ [last]).map String.ofList

/-- The part of a database line that states a property. -/
def propertyOfLine? (line : String) : Option String :=
  match line.toList with
  | 'E' :: ':' :: rest => some (String.ofList rest)
  | _ => none

/-- The name of the database entry of a device. -/
def entryName? (props : Properties) : Option String := do
  let major ← props.get? "MAJOR"
  let minor ← props.get? "MINOR"
  return "b" ++ major ++ ":" ++ minor

/-- What the database adds to the properties of a device. -/
def addEntry (database : String → Option String) (props : Properties) : Properties :=
  match (entryName? props).bind database with
  | some text =>
    props.insertAll (Properties.pairsOfTexts ((textLines text).filterMap propertyOfLine?))
  | none => props

/-- The properties of the block device with a name in the list. -/
def blockProperties? (sysfs : Sysfs) (database : String → Option String) (name : String) :
    Option Properties := do
  let location ← sysfs.locate sysfs.listLocation name
  let devicePath ← sysfs.devicePath? location
  let text ← sysfs.textAt (location ++ ["uevent"])
  let own := Properties.ofPairs (Properties.pairsOfTexts (textLines text))
  return addEntry database ((own.insert "SUBSYSTEM" "block").insert "DEVPATH" devicePath)

/-- The order in which devices are listed. -/
def listedBefore (a b : Device.Record) : Bool :=
  if a.isRoot = b.isRoot then decide (a.path ≤ b.path) else a.isRoot

/-- Records in the order in which devices are listed. -/
def inListingOrder (records : List Device.Record) : List Device.Record :=
  records.mergeSort listedBefore

/-- The devices that are present, given what the database says of them. -/
def enumerate (sysfs : Sysfs) (database : String → Option String) :
    Except OsError (List Device.Record) := do
  let names ← sysfs.blockNames
  return inListingOrder (names.filterMap fun name =>
    (blockProperties? sysfs database name).bind fun props => props.classify sysfs)

/-- The database in a directory of a file tree. -/
def databaseIn (files : FileTree) (directory name : String) : Option String :=
  (files.readText (Path.join directory name)).toOption

end RemovableMedia.Udev
