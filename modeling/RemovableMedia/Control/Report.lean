/-!
# Reports

What a run of a tool leaves behind.
-/

set_option autoImplicit false

namespace RemovableMedia.Control

/-- What a tool prints, and the status with which it ends. -/
structure Report where
  code : Nat
  output : String
  errors : String
deriving DecidableEq, Repr

namespace Report

/-- A run that prints one line and succeeds. -/
def said (line : String) : Report :=
  ⟨0, line ++ "\n", ""⟩

/-- A run that prints lines and succeeds. -/
def listed (lines : List String) : Report :=
  ⟨0, String.join (lines.map fun line => line ++ "\n"), ""⟩

/-- A run that fails with a message. -/
def failed (code : Nat) (line : String) : Report :=
  ⟨code, "", line ++ "\n"⟩

end Report

end RemovableMedia.Control
