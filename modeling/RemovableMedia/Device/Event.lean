import RemovableMedia.Device.Action
import RemovableMedia.Device.Record

/-!
# Device events

What a source of events reports: an action and the record of the device it happened to.  A source
that cannot go on says why.
-/

set_option autoImplicit false

namespace RemovableMedia.Device

/-- Something that a source reports. -/
structure Event where
  action : Action
  record : Record
deriving DecidableEq, Repr

/-- Why a source of events cannot go on. -/
inductive SourceError where
  | enumerate (reason : String)
  | read (reason : String)
  | closed
deriving DecidableEq, Repr

/-- How a failure of a source is worded. -/
def SourceError.message : SourceError → String
  | .enumerate reason => "Failed to enumerate devices: " ++ reason
  | .read reason => "Event source read failed: " ++ reason
  | .closed => "Event source closed"

end RemovableMedia.Device
