/-!
# Unsigned numbers

A whole number is written in decimal digits, with a plus sign before them if one likes, and has to
stay below a limit.
-/

set_option autoImplicit false

namespace RemovableMedia.Text

/-- The value of a decimal digit. -/
def digit? (c : Char) : Option Nat :=
  if c.isDigit then some (c.toNat - '0'.toNat) else none

/-- The value of a text of decimal digits, of which there is at least one. -/
def digitsValue? : List Char → Option Nat
  | [] => none
  | digits => digits.foldlM (fun n c => (digit? c).map fun d => n * 10 + d) 0

/-- The value of a text, if it is a number below the limit. -/
def unsigned? (limit : Nat) (text : List Char) : Option Nat :=
  let digits :=
    match text with
    | '+' :: rest => rest
    | digits => digits
  (digitsValue? digits).filter (· < limit)

end RemovableMedia.Text
