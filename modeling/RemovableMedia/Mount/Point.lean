import RemovableMedia.Files.FileTree
import RemovableMedia.Tree

/-!
# Mount points

A device is mounted below the mount directory, in a directory named for its label, or for the
device where the label cannot name a directory.  While that place is taken, numbers are tried in
order.  There are more candidates than places that can be taken, so one of them is free.
-/

set_option autoImplicit false

namespace RemovableMedia.Mount

/-- The label of a device as the name of a directory, if it can be one. -/
def labelName? (record : Device.Record) : Option String :=
  (record.label.map fun label =>
    String.ofList (label.toList.map fun c => if c = '/' then '_' else c)).filter fun name =>
      name != "" && name != "." && name != ".."

/-- The name for which a device's mount point is named. -/
def baseName (record : Device.Record) : String :=
  (labelName? record).getD (Path.lastPiece record.path)

/-- The name that is tried after as many others. -/
def candidateName (base : String) : Nat → String
  | 0 => base
  | n + 1 => base ++ "_" ++ toString (n + 1)

/-- The place that is tried after as many others. -/
def candidate (mountDir base : String) (n : Nat) : String :=
  Path.join mountDir (candidateName base n)

/-- Whether nothing may be mounted at a place: it is a directory that is not empty, or a device is
believed to be mounted there. -/
def isTaken (tree : Tree) (files : FileTree) (point : String) : Bool :=
  files.isNonEmptyDirectory point ||
    (tree.nodes.filterMap Node.mount).any fun info => Path.same info.point point

/-- A number of candidates of which at least one is free. -/
def candidateCount (tree : Tree) (files : FileTree) : Nat :=
  tree.nodes.length + files.entries.length + 2

/-- The place where a device is to be mounted.  At most as many places are tried in vain as there are
devices and files together, so below two to the power of 31 of them a signed number of 32 bits counts
the places just as well. -/
def choosePoint (mountDir : String) (tree : Tree) (files : FileTree) (record : Device.Record) :
    String :=
  let point := candidate mountDir (baseName record)
  let tried := (List.range (candidateCount tree files)).find? fun n =>
    !isTaken tree files (point n)
  point (tried.getD 0)

end RemovableMedia.Mount
