import RemovableMedia.ErrorCode
import RemovableMedia.Mount.Entry

/-!
# Mount requests

What is handed to whoever carries out mounts, once it is decided.
-/

set_option autoImplicit false

namespace RemovableMedia.Mount

/-- A mount that is decided: what, where, as what and how. -/
structure Request where
  device : String
  point : String
  filesystem : String
  options : List String
deriving DecidableEq, Repr

/-- The options of a request as clients see them. -/
def Request.optionsText (request : Request) : String :=
  ",".intercalate request.options

/-- What a device's mount will be when the request is carried out. -/
def Request.info (request : Request) : Info :=
  ⟨request.point, request.optionsText⟩

end RemovableMedia.Mount
