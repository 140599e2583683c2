import RemovableMedia.Json

/-!
# Reading JSON

The reader takes exactly the texts of the JSON grammar, with blanks around tokens, and says no
more than whether a text is one.  Each function returns what it read together with the text after
it, and the readers of nested values are bounded by a number of steps that the length of the input
supplies.
-/

set_option autoImplicit false

namespace RemovableMedia.Json

/-- Whether a character may stand between tokens. -/
def isSpace (c : Char) : Bool :=
  c == ' ' || c == '\t' || c == '\n' || c == '\r'

/-- The text from the next token on. -/
def skipSpace (input : List Char) : List Char :=
  input.dropWhile isSpace

/-- The value of a hexadecimal digit of either case. -/
def hexValue? (c : Char) : Option Nat :=
  if '0' ≤ c && c ≤ '9' then some (c.toNat - '0'.toNat)
  else if 'a' ≤ c && c ≤ 'f' then some (c.toNat - 'a'.toNat + 10)
  else if 'A' ≤ c && c ≤ 'F' then some (c.toNat - 'A'.toNat + 10)
  else none

/-- The code unit that four hexadecimal digits spell. -/
def codeUnit? (a b c d : Char) : Option Nat := do
  let a ← hexValue? a
  let b ← hexValue? b
  let c ← hexValue? c
  let d ← hexValue? d
  return ((a * 16 + b) * 16 + c) * 16 + d

/-- The character that a one-letter escape stands for. -/
def shortEscape? (c : Char) : Option Char :=
  if c = '"' then some '"'
  else if c = '\\' then some '\\'
  else if c = '/' then some '/'
  else if c = 'b' then some '\x08'
  else if c = 'f' then some '\x0c'
  else if c = 'n' then some '\n'
  else if c = 'r' then some '\r'
  else if c = 't' then some '\t'
  else none

/-- What a string literal is made of: characters, and code units from numeric escapes. -/
inductive Piece where
  | character (c : Char)
  | unit (n : Nat)
deriving DecidableEq, Repr

/-- Whether a character may stand for itself in a string literal. -/
def isPlainChar (c : Char) : Bool :=
  c != '"' && c != '\\' && 32 ≤ c.toNat

/-- Reads the rest of a string literal after its opening quote. -/
def parsePieces : List Char → Option (List Piece × List Char)
  | '"' :: rest => some ([], rest)
  | '\\' :: 'u' :: a :: b :: c :: d :: rest => do
    let n ← codeUnit? a b c d
    let (pieces, rest) ← parsePieces rest
    return (.unit n :: pieces, rest)
  | '\\' :: e :: rest => do
    let c ← shortEscape? e
    let (pieces, rest) ← parsePieces rest
    return (.character c :: pieces, rest)
  | c :: rest =>
    if isPlainChar c then do
      let (pieces, rest) ← parsePieces rest
      return (.character c :: pieces, rest)
    else none
  | [] => none

/-- Whether a code unit is the first half of a pair. -/
def isHighSurrogate (n : Nat) : Bool :=
  0xd800 ≤ n && n ≤ 0xdbff

/-- Whether a code unit is the second half of a pair. -/
def isLowSurrogate (n : Nat) : Bool :=
  0xdc00 ≤ n && n ≤ 0xdfff

/-- The text that pieces spell, if every surrogate has its other half beside it. -/
def joinPieces : List Piece → Option (List Char)
  | [] => some []
  | .character c :: rest => (joinPieces rest).map (c :: ·)
  | .unit high :: .unit low :: rest =>
    if isHighSurrogate high then
      if isLowSurrogate low then
        (joinPieces rest).map
          (Char.ofNat (0x10000 + (high - 0xd800) * 0x400 + (low - 0xdc00)) :: ·)
      else none
    else if isLowSurrogate high then none
    else (joinPieces (.unit low :: rest)).map (Char.ofNat high :: ·)
  | .unit n :: rest =>
    if isHighSurrogate n || isLowSurrogate n then none
    else (joinPieces rest).map (Char.ofNat n :: ·)

/-- Reads a string literal after its opening quote. -/
def parseString (input : List Char) : Option (Option String × List Char) :=
  (parsePieces input).map fun (pieces, rest) =>
    ((joinPieces pieces).map String.ofList, rest)

/-- Whether a character is a decimal digit. -/
def isDigit (c : Char) : Bool :=
  '0' ≤ c && c ≤ '9'

/-- Reads one or more digits. -/
def parseDigits (input : List Char) : Option (List Char × List Char) :=
  match input.takeWhile isDigit with
  | [] => none
  | digits => some (digits, input.dropWhile isDigit)

/-- Reads the digits before the point: a zero alone, or digits that start with another. -/
def parseIntegerPart : List Char → Option (List Char × List Char)
  | '0' :: rest =>
    match rest with
    | c :: _ => if isDigit c then none else some (['0'], rest)
    | [] => some (['0'], rest)
  | input => parseDigits input

/-- Reads a point and the digits after it, if there is a point. -/
def parseFraction : List Char → Option (List Char × List Char)
  | '.' :: rest => (parseDigits rest).map fun (digits, rest) => ('.' :: digits, rest)
  | input => some ([], input)

/-- Reads an exponent, if there is one. -/
def parseExponent : List Char → Option (List Char × List Char)
  | e :: rest =>
    if e = 'e' ∨ e = 'E' then
      match rest with
      | sign :: more =>
        if sign = '+' ∨ sign = '-' then
          (parseDigits more).map fun (digits, rest) => (e :: sign :: digits, rest)
        else (parseDigits rest).map fun (digits, rest) => (e :: digits, rest)
      | [] => none
    else some ([], e :: rest)
  | [] => some ([], [])

/-- Reads a number without its sign. -/
def parseUnsigned (input : List Char) : Option (List Char × List Char) := do
  let (whole, rest) ← parseIntegerPart input
  let (fraction, rest) ← parseFraction rest
  let (exponent, rest) ← parseExponent rest
  return (whole ++ fraction ++ exponent, rest)

/-- Reads a number. -/
def parseNumber : List Char → Option (List Char × List Char)
  | '-' :: rest => (parseUnsigned rest).map fun (spelling, rest) => ('-' :: spelling, rest)
  | input => parseUnsigned input

mutual

/-- Reads a value and returns it with the text after it. -/
def parseValue : Nat → List Char → Option (Json × List Char)
  | 0, _ => none
  | steps + 1, input =>
    match skipSpace input with
    | 'n' :: 'u' :: 'l' :: 'l' :: rest => some (.null, rest)
    | 't' :: 'r' :: 'u' :: 'e' :: rest => some (.bool true, rest)
    | 'f' :: 'a' :: 'l' :: 's' :: 'e' :: rest => some (.bool false, rest)
    | '"' :: rest => (parseString rest).map fun (text, rest) => (.string text, rest)
    | '[' :: rest =>
      match skipSpace rest with
      | ']' :: rest => some (.array [], rest)
      | rest => (parseItems steps rest).map fun (items, rest) => (.array items, rest)
    | '\x7b' :: rest =>
      match skipSpace rest with
      | '\x7d' :: rest => some (.object [], rest)
      | rest => (parseFields steps rest).map fun (fields, rest) => (.object fields, rest)
    | input => (parseNumber input).map fun (spelling, rest) => (.number spelling, rest)

/-- Reads one or more items up to the bracket that closes the array. -/
def parseItems : Nat → List Char → Option (List Json × List Char)
  | 0, _ => none
  | steps + 1, input => do
    let (item, rest) ← parseValue steps input
    match skipSpace rest with
    | ',' :: rest =>
      let (items, rest) ← parseItems steps rest
      return (item :: items, rest)
    | ']' :: rest => return ([item], rest)
    | _ => none

/-- Reads one or more fields up to the brace that closes the object. -/
def parseFields : Nat → List Char → Option (List (Option String × Json) × List Char)
  | 0, _ => none
  | steps + 1, input =>
    match skipSpace input with
    | '"' :: rest => do
      let (name, rest) ← parseString rest
      match skipSpace rest with
      | ':' :: rest =>
        let (value, rest) ← parseValue steps rest
        match skipSpace rest with
        | ',' :: rest =>
          let (fields, rest) ← parseFields steps rest
          return ((name, value) :: fields, rest)
        | '\x7d' :: rest => return ([(name, value)], rest)
        | _ => none
      | _ => none
    | _ => none

end

/-- The value that a whole text spells, if it is JSON. -/
def parseChars? (input : List Char) : Option Json := do
  let (value, rest) ← parseValue (input.length + 1) input
  if (skipSpace rest).isEmpty then some value else none

/-- The value that a text spells, if it is JSON. -/
def parse? (text : String) : Option Json :=
  parseChars? text.toList

end RemovableMedia.Json
