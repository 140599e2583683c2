/-!
# Mounts

Where a device is mounted and with which options, and the rows of the system's mount table.
-/

set_option autoImplicit false

namespace RemovableMedia.Mount

/-- Where and how a device is mounted. -/
structure Info where
  point : String
  options : String
deriving DecidableEq, Repr

/-- One row of the live mount table. -/
structure Entry where
  device : String
  info : Info
deriving DecidableEq, Repr

/-- The live mount table, in the order in which the system lists it. -/
abbrev Table := List Entry

end RemovableMedia.Mount
