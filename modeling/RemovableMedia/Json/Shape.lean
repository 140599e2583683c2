import RemovableMedia.Json.Parser

/-!
# Reading typed values from JSON

A structure is read from an object with its fields in any order, or from an array of exactly its
fields in order.  In an object, unknown fields are passed over, a repeated field is refused, and a
missing field is the same as null for the fields that may be absent.

A value whose type depends on a tag has to be held back until the tag is seen.  What is held back
is read more strictly than what is passed over: its strings must be text, its numbers must be
finite, and it may not be nested too deeply.
-/

set_option autoImplicit false

namespace RemovableMedia.Json

/-- How a value reached its reader: straight from the text, or held back beside a tag. -/
inductive Via where
  | direct
  | heldBack
deriving DecidableEq, Repr

/-- The deepest nesting of arrays and objects that a reader enters. -/
def nestingLimit : Nat := 127

/-- The text of a string value. -/
def asText : Json → Option String
  | .string text => text
  | _ => none

/-- A value that null leaves absent. -/
def asOptional {α : Type} (read : Json → Option α) : Json → Option (Option α)
  | .null => some none
  | value => (read value).map some

/-- Whether the value beside a word stands for nothing: null, and among values held back also an
empty object. -/
def isUnit (via : Via) : Json → Bool
  | .null => true
  | .object [] => via == .heldBack
  | _ => false

/-- A word of a closed set: a string, or an object whose only field has the word as its name and
nothing as its value. -/
def asWord {α : Type} (ofWord? : String → Option α) (via : Via) : Json → Option α
  | .string (some word) => ofWord? word
  | .object [(some word, value)] => if isUnit via value then ofWord? word else none
  | _ => none

/-- The values of the fields with a name. -/
def valuesNamed (name : String) (fields : List (Option String × Json)) : List Json :=
  (fields.filter fun field => field.1 == some name).map Prod.snd

/-- The value of a field that may be missing but not be repeated. -/
def slot (fields : List (Option String × Json)) (name : String) : Option (Option Json) :=
  match valuesNamed name fields with
  | [] => some none
  | [value] => some (some value)
  | _ => none

/-- The values of the named fields of a structure, in the order of the names. -/
def slots (names : List String) : Json → Option (List (Option Json))
  | .object fields =>
    if fields.all fun field => field.1.isSome then names.mapM (slot fields) else none
  | .array items => if items.length = names.length then some (items.map some) else none
  | _ => none

/-- Reads a field that has to be there. -/
def required {α : Type} (read : Json → Option α) : Option Json → Option α
  | some value => read value
  | none => none

/-- Reads a field that may be missing or null. -/
def optional {α : Type} (read : Json → Option α) : Option Json → Option (Option α)
  | some value => asOptional read value
  | none => some none

/-- The value of a run of decimal digits. -/
def digitsValue (digits : List Char) : Nat :=
  digits.foldl (fun n c => n * 10 + (c.toNat - '0'.toNat)) 0

/-- The parts of a spelled number without its sign: the digits before the point, those after it,
and the exponent. -/
def numberParts (spelling : List Char) : List Char × List Char × Int :=
  let unsigned := spelling.dropWhile (· == '-')
  let whole := unsigned.takeWhile isDigit
  let afterWhole := unsigned.dropWhile isDigit
  let fraction := (afterWhole.dropWhile (· == '.')).takeWhile isDigit
  let tail := (afterWhole.dropWhile (· == '.')).dropWhile isDigit
  let exponent :=
    match tail with
    | _ :: '-' :: digits => -(digitsValue digits : Int)
    | _ :: '+' :: digits => (digitsValue digits : Int)
    | _ :: digits => (digitsValue digits : Int)
    | [] => 0
  (whole, fraction, exponent)

/-- Whether a number is within the range of 64-bit binary floating point: it is, if it stays below
the point halfway between the greatest such number and the next power of two. -/
def isFinite (spelling : List Char) : Bool :=
  let (whole, fraction, exponent) := numberParts spelling
  let significand := digitsValue (whole ++ fraction)
  let shift : Int := exponent - fraction.length
  let bound := Nat.pow 2 1024 - Nat.pow 2 970
  if significand == 0 then true
  else if 400 < shift then false
  else if 0 ≤ shift then significand * Nat.pow 10 shift.toNat < bound
  else if whole.length + fraction.length < (-shift).toNat then true
  else significand < bound * Nat.pow 10 (-shift).toNat

mutual

/-- Whether the strings and numbers of a value can be held back. -/
def isPlain : Json → Bool
  | .null => true
  | .bool _ => true
  | .number spelling => isFinite spelling
  | .string text => text.isSome
  | .array items => arePlain items
  | .object fields => arePlainFields fields

/-- Whether all items of an array can be held back. -/
def arePlain : List Json → Bool
  | [] => true
  | item :: rest => item.isPlain && arePlain rest

/-- Whether all fields of an object can be held back. -/
def arePlainFields : List (Option String × Json) → Bool
  | [] => true
  | (name, value) :: rest => name.isSome && value.isPlain && arePlainFields rest

end

/-- Whether a value inside `level` containers can be held back. -/
def canHoldBack (level : Nat) (value : Json) : Bool :=
  value.isPlain && level + value.depth ≤ nestingLimit

/-- Separates the tag of a tagged value from its content: the value of one field of an object, or
the first item of an array.  The tagged value itself is the container number `level`. -/
def untag (tag : String) (level : Nat) : Json → Option (String × Json)
  | .object fields =>
    let rest := fields.filter fun field => field.1 != some tag
    match valuesNamed tag fields with
    | [.string (some word)] =>
      if rest.all fun field => field.1.isSome && canHoldBack level field.2 then
        some (word, .object rest)
      else none
    | _ => none
  | .array (.string (some word) :: rest) =>
    if rest.all (canHoldBack level) then some (word, .array rest) else none
  | _ => none

end RemovableMedia.Json
