/-!
# Durations

How a span of time is written: in seconds with as many decimals as it has, or in milliseconds if
it is shorter than a second.
-/

set_option autoImplicit false

namespace RemovableMedia.Text

/-- The decimals of a number of thousandths, without zeros at the end. -/
def thousandths (n : Nat) : List Char :=
  let digits := ['0', '1', '2', '3', '4', '5', '6', '7', '8', '9']
  let all := [n / 100, n / 10 % 10, n % 10].map fun d => digits.getD d '0'
  (all.reverse.dropWhile (· == '0')).reverse

/-- A number of milliseconds as text. -/
def duration (milliseconds : Nat) : String :=
  if milliseconds = 0 then "0ns"
  else if milliseconds < 1000 then s!"{milliseconds}ms"
  else
    let seconds := milliseconds / 1000
    match thousandths (milliseconds % 1000) with
    | [] => s!"{seconds}s"
    | decimals => s!"{seconds}.{String.ofList decimals}s"

end RemovableMedia.Text
