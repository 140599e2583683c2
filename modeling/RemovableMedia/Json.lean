/-!
# JSON values

A value as its text spells it: the fields of an object keep their order and may repeat a name, a
number keeps its spelling, and a string or a field name whose escapes leave half of a surrogate
pair alone is kept as a string that is no text.
-/

set_option autoImplicit false

namespace RemovableMedia

/-- A JSON value. -/
inductive Json where
  | null
  | bool (value : Bool)
  | number (spelling : List Char)
  /-- A string; no text when it spells a lone surrogate. -/
  | string (text : Option String)
  | array (items : List Json)
  /-- An object; a field has no name when its name spells a lone surrogate. -/
  | object (fields : List (Option String × Json))

namespace Json

/-- A string value that is text. -/
def text (s : String) : Json :=
  .string (some s)

/-- An object with proper names. -/
def record (fields : List (String × Json)) : Json :=
  .object (fields.map fun field => (some field.1, field.2))

/-- A text that may be absent, as a string or null. -/
def textOrNull : Option String → Json
  | none => .null
  | some s => .text s

mutual

/-- How many arrays and objects are nested in a value at its deepest place. -/
def depth : Json → Nat
  | .array items => depthList items + 1
  | .object fields => depthFields fields + 1
  | _ => 0

/-- The greatest depth among the items of an array. -/
def depthList : List Json → Nat
  | [] => 0
  | item :: rest => max item.depth (depthList rest)

/-- The greatest depth among the fields of an object. -/
def depthFields : List (Option String × Json) → Nat
  | [] => 0
  | (_, value) :: rest => max value.depth (depthFields rest)

end

end Json

end RemovableMedia
