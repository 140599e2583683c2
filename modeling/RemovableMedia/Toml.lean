/-!
# Configuration tables

The values of a configuration text.  A table remembers how it came to be, because that decides
what may still be added to it: a table that a header defined cannot be defined again or extended
by dotted keys, one that a header or a dotted key only passed through can, and one written inline
is complete.
-/

set_option autoImplicit false

namespace RemovableMedia

/-- How a table came to be. -/
inductive TableOrigin where
  /-- Written between braces. -/
  | inlined
  /-- Defined by a header, or the whole text. -/
  | defined
  /-- Passed through by the path of a header. -/
  | implied
  /-- Made by a dotted key. -/
  | dotted
deriving DecidableEq, Repr

/-- A value of a configuration text. -/
inductive Toml where
  | string (text : String)
  | integer (value : Int)
  | float
  | bool (value : Bool)
  | datetime
  | array (items : List Toml)
  /-- Tables under one header that may be repeated. -/
  | tables (items : List Toml)
  | table (origin : TableOrigin) (fields : List (String × Toml))

namespace Toml

/-- The values of a table under their keys, in the order in which they are stated. -/
abbrev Fields := List (String × Toml)

/-- The value under a key. -/
def Fields.get? (fields : Fields) (key : String) : Option Toml :=
  (fields.find? fun field => field.1 == key).map Prod.snd

/-- The fields with another value under a key that they have. -/
def Fields.replace (fields : Fields) (key : String) (value : Toml) : Fields :=
  fields.map fun field => if field.1 = key then (key, value) else field

/-- A change of a table, which may be refused. -/
abbrev Change := TableOrigin → Fields → Option (TableOrigin × Fields)

/-- Carries out a change in the table at a path below a table.  Tables on the way are made where
they are missing; of repeated tables the last one is meant.  A dotted key does not pass through
tables that a header defined. -/
def changeAt (byDots : Bool) (change : Change) : List String → Change
  | [], origin, fields => change origin fields
  | key :: rest, origin, fields =>
    match fields.get? key with
    | none => do
      let made := if byDots then TableOrigin.dotted else TableOrigin.implied
      let (inner, innerFields) ← changeAt byDots change rest made []
      return (origin, fields ++ [(key, .table inner innerFields)])
    | some (.table inner innerFields) =>
      if inner = .inlined ∨ (byDots ∧ inner = .defined) then none
      else do
        let (inner, innerFields) ← changeAt byDots change rest inner innerFields
        return (origin, fields.replace key (.table inner innerFields))
    | some (.tables items) =>
      match items.getLast? with
      | some (.table inner innerFields) => do
        let (inner, innerFields) ← changeAt byDots change rest inner innerFields
        return (origin, fields.replace key
          (.tables (items.dropLast ++ [.table inner innerFields])))
      | _ => none
    | _ => none

/-- Adds a value under the last part of a key whose other parts lead to this table.  A key without
dots does not add to a table made by dotted keys, nor one with dots to any other. -/
def addField (dots : List String) (key : String) (value : Toml) : Change := fun origin fields =>
  if (origin == .dotted) == dots.isEmpty then none
  else if (fields.get? key).isSome then none
  else some (origin, fields ++ [(key, value)])

/-- Adds a value under a dotted key. -/
def addKey (dots : List String) (key : String) (value : Toml) : Change :=
  changeAt true (addField dots key value) dots

/-- Defines a table by a header. -/
def defineTable (key : String) : Change := fun origin fields =>
  match fields.get? key with
  | none => some (origin, fields ++ [(key, .table .defined [])])
  | some (.table .implied inner) => some (origin, fields.replace key (.table .defined inner))
  | _ => none

/-- Adds one of repeated tables by a header. -/
def appendTable (key : String) : Change := fun origin fields =>
  match fields.get? key with
  | none => some (origin, fields ++ [(key, .tables [.table .defined []])])
  | some (.tables items) =>
    some (origin, fields.replace key (.tables (items ++ [.table .defined []])))
  | _ => none

end Toml

end RemovableMedia
