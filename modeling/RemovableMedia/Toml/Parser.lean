import RemovableMedia.Toml.Scalar

/-!
# Reading configuration texts

A text is a sequence of lines: blank ones, comments, headers that say which table the following
lines add to, and keys with their values.  Values may be nested, but not without limit.
-/

set_option autoImplicit false

namespace RemovableMedia.Toml

/-- How many levels of nesting are too many. -/
def levelLimit : Nat := 80

/-- Reads a comment up to the end of its line. -/
def skipComment : List Char → List Char
  | '#' :: rest => rest.dropWhile isTextChar
  | input => input

/-- Reads blanks, comments and line breaks. -/
def skipTrivia : Nat → List Char → List Char
  | 0, input => input
  | steps + 1, input =>
    match readNewline (skipComment (skipBlanks input)) with
    | some rest => skipTrivia steps rest
    | none => skipBlanks input

/-- Reads the rest of a line that has nothing more to say: blanks, a comment, and the line break
or the end of the text. -/
def readLineEnd (input : List Char) : Option (List Char) :=
  match skipComment (skipBlanks input) with
  | [] => some []
  | rest => readNewline rest

/-! ## Keys -/

/-- Whether a character may stand in a key without quotes. -/
def isBareChar (c : Char) : Bool :=
  c.isAlphanum || c == '-' || c == '_'

/-- Reads one part of a key. -/
def readKeyPart (input : List Char) : Option (String × List Char) :=
  match input with
  | '"' :: _ => (readShortString input).map fun (text, rest) => (String.ofList text, rest)
  | '\'' :: _ => (readShortString input).map fun (text, rest) => (String.ofList text, rest)
  | input =>
    match input.takeWhile isBareChar with
    | [] => none
    | text => some (String.ofList text, input.dropWhile isBareChar)

/-- Reads a key, whose parts have dots between them and blanks around them. -/
def readKeyParts : Nat → List Char → Option (List String × List Char)
  | 0, _ => none
  | steps + 1, input => do
    let (part, rest) ← readKeyPart (skipBlanks input)
    match skipBlanks rest with
    | '.' :: rest =>
      let (parts, rest) ← readKeyParts steps rest
      return (part :: parts, rest)
    | rest => return ([part], rest)

/-- Reads a key of not too many parts, as the parts before the last one and the last one. -/
def readKey (input : List Char) : Option ((List String × String) × List Char) := do
  let (parts, rest) ← readKeyParts (input.length + 1) input
  if levelLimit ≤ parts.length then none
  else
    let last ← parts.getLast?
    return ((parts.dropLast, last), rest)

/-! ## Values -/

mutual

/-- Reads a value inside `level` arrays and inline tables. -/
def readValue (level : Nat) : Nat → List Char → Option (Toml × List Char)
  | 0, _ => none
  | steps + 1, input =>
    match input with
    | '[' :: rest =>
      if levelLimit ≤ level + 1 then none
      else
        (readItems (level + 1) steps (skipTrivia rest.length rest)).map fun (items, rest) =>
          (.array items, rest)
    | '\x7b' :: rest =>
      if levelLimit ≤ level + 1 then none
      else
        match skipBlanks rest with
        | '\x7d' :: rest => some (.table .inlined [], rest)
        | rest =>
          (readPairs (level + 1) .defined [] steps rest).map fun (fields, rest) =>
            (.table .inlined fields, rest)
    | '"' :: _ => (readString input).map fun (text, rest) => (.string (String.ofList text), rest)
    | '\'' :: _ => (readString input).map fun (text, rest) => (.string (String.ofList text), rest)
    | 't' :: 'r' :: 'u' :: 'e' :: rest => some (.bool true, rest)
    | 'f' :: 'a' :: 'l' :: 's' :: 'e' :: rest => some (.bool false, rest)
    | input => readNumeric input

/-- Reads the items of an array up to the bracket that closes it; a comma may follow the last. -/
def readItems (level : Nat) : Nat → List Char → Option (List Toml × List Char)
  | 0, _ => none
  | steps + 1, input =>
    match input with
    | ']' :: rest => some ([], rest)
    | input => do
      let (item, rest) ← readValue level steps input
      match skipTrivia rest.length rest with
      | ',' :: rest =>
        let (items, rest) ← readItems level steps (skipTrivia rest.length rest)
        return (item :: items, rest)
      | ']' :: rest => return ([item], rest)
      | _ => none

/-- Reads the keys and values of an inline table up to the brace that closes it. -/
def readPairs (level : Nat) (origin : TableOrigin) (fields : Fields) :
    Nat → List Char → Option (Fields × List Char)
  | 0, _ => none
  | steps + 1, input => do
    let ((dots, key), rest) ← readKey input
    let rest ← readChar '=' rest
    let (value, rest) ← readValue level steps (skipBlanks rest)
    let (origin, fields) ← addKey dots key value origin fields
    match skipBlanks rest with
    | ',' :: rest => readPairs level origin fields steps rest
    | '\x7d' :: rest => return (fields, rest)
    | _ => none

end

/-! ## Lines -/

/-- What has been read of a text: the outermost table, and the path of the table to which lines
add. -/
structure Draft where
  fields : Fields
  path : List String

/-- Carries out a change of the outermost table. -/
def Draft.apply (draft : Draft) (change : Change) : Option Draft :=
  (change .defined draft.fields).map fun outcome => { draft with fields := outcome.2 }

/-- Reads a key with its value and adds it to the current table. -/
def readPairLine (draft : Draft) (input : List Char) : Option (Draft × List Char) := do
  let ((dots, key), rest) ← readKey input
  let rest ← readChar '=' rest
  let (value, rest) ← readValue 0 (rest.length + 1) (skipBlanks rest)
  let rest ← readLineEnd rest
  let draft ← draft.apply (changeAt false (addKey dots key value) draft.path)
  return (draft, rest)

/-- Reads the header of a table after its bracket. -/
def readHeader (draft : Draft) (input : List Char) : Option (Draft × List Char) := do
  let ((dots, key), rest) ← readKey input
  let rest ← readChar ']' rest
  let rest ← readLineEnd rest
  let draft ← draft.apply (changeAt false (defineTable key) dots)
  return ({ draft with path := dots ++ [key] }, rest)

/-- Reads the header of a repeated table after its brackets. -/
def readRepeatedHeader (draft : Draft) (input : List Char) : Option (Draft × List Char) := do
  let ((dots, key), rest) ← readKey input
  let rest ← readChar ']' rest
  let rest ← readChar ']' rest
  let rest ← readLineEnd rest
  let draft ← draft.apply (changeAt false (appendTable key) dots)
  return ({ draft with path := dots ++ [key] }, rest)

/-- Reads lines to the end of the text. -/
def readLines (draft : Draft) : Nat → List Char → Option Draft
  | 0, _ => none
  | steps + 1, input =>
    match skipBlanks input with
    | [] => some draft
    | '#' :: rest => do
      let rest ← readLineEnd ('#' :: rest)
      readLines draft steps rest
    | '[' :: '[' :: rest => do
      let (draft, rest) ← readRepeatedHeader draft rest
      readLines draft steps rest
    | '[' :: rest => do
      let (draft, rest) ← readHeader draft rest
      readLines draft steps rest
    | rest =>
      match readNewline rest with
      | some rest => readLines draft steps rest
      | none => do
        let (draft, rest) ← readPairLine draft rest
        readLines draft steps rest

/-- The text without the mark of byte order that may stand before it. -/
def skipByteOrderMark : List Char → List Char
  | c :: rest => if c.toNat = 0xfeff then rest else c :: rest
  | [] => []

/-- The outermost table of a text, if the text is well formed. -/
def parse? (text : String) : Option Fields :=
  let input := skipByteOrderMark text.toList
  (readLines ⟨[], []⟩ (input.length + 1) input).map Draft.fields

end RemovableMedia.Toml
