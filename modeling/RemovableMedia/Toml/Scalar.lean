import RemovableMedia.Json.Shape
import RemovableMedia.Toml

/-!
# Strings, numbers and dates in configuration texts

Each reader takes the literal at the head of the text and returns it with what follows.  Of a
float and a date only the form matters, because no setting has such a value.
-/

set_option autoImplicit false

namespace RemovableMedia.Toml

open RemovableMedia.Json (isDigit hexValue? digitsValue)

/-! ## Strings -/

/-- Whether a character may stand for itself in text of any kind: a tab or no control character. -/
def isTextChar (c : Char) : Bool :=
  c == '\t' || (0x20 ≤ c.toNat && c.toNat != 0x7f)

/-- The value of hexadecimal digits. -/
def hexDigitsValue? (digits : List Char) : Option Nat :=
  digits.foldlM (fun n c => (hexValue? c).map fun d => n * 16 + d) 0

/-- The character with a code point, unless that is half of a surrogate pair or too large. -/
def charOfCode? (n : Nat) : Option Char :=
  if n < 0xd800 ∨ (0xdfff < n ∧ n < 0x110000) then some (Char.ofNat n) else none

/-- Reads a code point of the given number of hexadecimal digits. -/
def readCode (count : Nat) (input : List Char) : Option (Char × List Char) :=
  if (input.take count).length < count then none
  else do
    let n ← hexDigitsValue? (input.take count)
    return (← charOfCode? n, input.drop count)

/-- Reads an escape after its backslash. -/
def readEscape : List Char → Option (Char × List Char)
  | 'b' :: rest => some ('\x08', rest)
  | 't' :: rest => some ('\t', rest)
  | 'n' :: rest => some ('\n', rest)
  | 'f' :: rest => some ('\x0c', rest)
  | 'r' :: rest => some ('\r', rest)
  | '"' :: rest => some ('"', rest)
  | '\\' :: rest => some ('\\', rest)
  | 'u' :: rest => readCode 4 rest
  | 'U' :: rest => readCode 8 rest
  | _ => none

/-- Reads the rest of a one-line string with escapes, after its quote. -/
def readBasic : Nat → List Char → Option (List Char × List Char)
  | 0, _ => none
  | _ + 1, [] => none
  | steps + 1, c :: rest =>
    if c = '"' then some ([], rest)
    else if c = '\\' then do
      let (c, rest) ← readEscape rest
      let (text, rest) ← readBasic steps rest
      return (c :: text, rest)
    else if isTextChar c then do
      let (text, rest) ← readBasic steps rest
      return (c :: text, rest)
    else none

/-- Reads the rest of a one-line string without escapes, after its quote. -/
def readLiteral : List Char → Option (List Char × List Char)
  | [] => none
  | c :: rest =>
    if c = '\'' then some ([], rest)
    else if isTextChar c then do
      let (text, rest) ← readLiteral rest
      return (c :: text, rest)
    else none

/-- Reads a line break. -/
def readNewline : List Char → Option (List Char)
  | '\n' :: rest => some rest
  | '\r' :: '\n' :: rest => some rest
  | _ => none

/-- Whether a character is a blank within a line. -/
def isLineBlank (c : Char) : Bool :=
  c == ' ' || c == '\t'

/-- The text without blanks at its head. -/
def skipBlanks (input : List Char) : List Char :=
  input.dropWhile isLineBlank

/-- The text without blanks and line breaks at its head. -/
def skipLines : Nat → List Char → List Char
  | 0, input => input
  | steps + 1, input =>
    match readNewline (skipBlanks input) with
    | some rest => skipLines steps rest
    | none => skipBlanks input

/-- What a run of quotes means inside a string of several lines: fewer than three are text, three
to five end the string, the surplus over three being text, and more are too many. -/
def readQuotes (quote : Char) (input : List Char) : Option (Bool × List Char × List Char) :=
  let run := input.takeWhile (· == quote)
  let rest := input.dropWhile (· == quote)
  if run.length < 3 then some (false, run, rest)
  else if run.length < 6 then some (true, run.drop 3, rest)
  else none

/-- Reads the rest of a string of several lines, after its quotes and the line break right after
them.  With escapes, a backslash before a line break joins the lines. -/
def readLong (quote : Char) (escapes : Bool) : Nat → List Char → Option (List Char × List Char)
  | 0, _ => none
  | _ + 1, [] => none
  | steps + 1, c :: rest =>
    if c = quote then do
      let (ends, text, rest) ← readQuotes quote (c :: rest)
      if ends then return (text, rest)
      let (more, rest) ← readLong quote escapes steps rest
      return (text ++ more, rest)
    else if escapes && c == '\\' then
      match readNewline (skipBlanks rest) with
      | some next => readLong quote escapes steps (skipLines next.length next)
      | none => do
        let (c, rest) ← readEscape rest
        let (text, rest) ← readLong quote escapes steps rest
        return (c :: text, rest)
    else if isTextChar c then do
      let (text, rest) ← readLong quote escapes steps rest
      return (c :: text, rest)
    else do
      let rest ← readNewline (c :: rest)
      let (text, rest) ← readLong quote escapes steps rest
      return ('\n' :: text, rest)

/-- Reads a string of one line. -/
def readShortString : List Char → Option (List Char × List Char)
  | '"' :: rest => readBasic (rest.length + 1) rest
  | '\'' :: rest => readLiteral rest
  | _ => none

/-- Reads a string of any form. -/
def readString (input : List Char) : Option (List Char × List Char) :=
  match input with
  | '"' :: '"' :: '"' :: rest =>
    readLong '"' true (rest.length + 1) ((readNewline rest).getD rest)
  | '\'' :: '\'' :: '\'' :: rest =>
    readLong '\'' false (rest.length + 1) ((readNewline rest).getD rest)
  | input => readShortString input

/-! ## Numbers -/

/-- Reads digits of a kind, with single underscores between them. -/
def readDigits (isKind : Char → Bool) : List Char → Option (List Char × List Char)
  | [] => none
  | c :: rest =>
    if isKind c then
      match rest with
      | '_' :: more => do
        let (digits, rest) ← readDigits isKind more
        return (c :: digits, rest)
      | rest =>
        match readDigits isKind rest with
        | some (digits, rest) => some (c :: digits, rest)
        | none =>
          match rest with
          | d :: _ => if isKind d then none else some ([c], rest)
          | [] => some ([c], [])
    else none

/-- Splits off a sign. -/
def readSign : List Char → Bool × List Char
  | '-' :: rest => (true, rest)
  | '+' :: rest => (false, rest)
  | input => (false, input)

/-- Reads a decimal number without its sign; a zero at its head stands alone. -/
def readDecimal : List Char → Option (List Char × List Char)
  | '0' :: rest => some (['0'], rest)
  | input => readDigits isDigit input

/-- The value of digits in a base. -/
def valueInBase (base : Nat) (digits : List Char) : Nat :=
  digits.foldl (fun n c => n * base + (hexValue? c).getD 0) 0

/-- The least number without a sign that is too large for a 64-bit integer. -/
def integerLimit : Nat := 0x8000000000000000

/-- An integer, if it has a 64-bit form. -/
def integer? (negative : Bool) (magnitude : Nat) : Option Toml :=
  if negative then
    if magnitude ≤ integerLimit then some (.integer (-(magnitude : Int))) else none
  else if magnitude < integerLimit then some (.integer magnitude)
  else none

/-- Reads an integer with the given digits and base. -/
def readInBase (base : Nat) (isKind : Char → Bool) (input : List Char) :
    Option (Toml × List Char) := do
  let (digits, rest) ← readDigits isKind input
  return (← integer? false (valueInBase base digits), rest)

/-- Whether a character is a hexadecimal digit. -/
def isHexDigit (c : Char) : Bool :=
  (hexValue? c).isSome

/-- Reads an integer. -/
def readInteger : List Char → Option (Toml × List Char)
  | '0' :: 'x' :: rest => readInBase 16 isHexDigit rest
  | '0' :: 'o' :: rest => readInBase 8 (fun c => '0' ≤ c && c ≤ '7') rest
  | '0' :: 'b' :: rest => readInBase 2 (fun c => c == '0' || c == '1') rest
  | input => do
    let (negative, rest) := readSign input
    let (digits, rest) ← readDecimal rest
    return (← integer? negative (valueInBase 10 digits), rest)

/-- Reads the exponent of a float, with its letter. -/
def readExponent : List Char → Option (List Char × List Char)
  | c :: rest =>
    if c = 'e' ∨ c = 'E' then do
      let (negative, rest) := readSign rest
      let (digits, rest) ← readDigits isDigit rest
      return ('e' :: ((if negative then ['-'] else []) ++ digits), rest)
    else none
  | [] => none

/-- Reads the point of a float, the digits after it and an exponent if there is one. -/
def readFraction : List Char → Option (List Char × List Char)
  | '.' :: rest => do
    let (digits, rest) ← readDigits isDigit rest
    match readExponent rest with
    | some (exponent, rest) => return ('.' :: (digits ++ exponent), rest)
    | none => return ('.' :: digits, rest)
  | _ => none

/-- Reads a float written in digits, which must not be too great for a 64-bit form. -/
def readDigitFloat (input : List Char) : Option (Option (List Char)) := do
  let (negative, rest) := readSign input
  let (whole, rest) ← readDecimal rest
  let (tail, rest) ← (readExponent rest) <|> (readFraction rest)
  return if negative || Json.isFinite (whole ++ tail) then some rest else none

/-- Reads infinity or the value that is no number, with or without a sign. -/
def readSpecialFloat (input : List Char) : Option (List Char) :=
  match (readSign input).2 with
  | 'i' :: 'n' :: 'f' :: rest => some rest
  | 'n' :: 'a' :: 'n' :: rest => some rest
  | _ => none

/-! ## Dates and times -/

/-- Reads a number of exactly the given number of digits. -/
def readFixed (count : Nat) (input : List Char) : Option (Nat × List Char) :=
  let digits := input.take count
  if digits.length = count ∧ digits.all isDigit then some (digitsValue digits, input.drop count)
  else none

/-- Reads a given character. -/
def readChar (c : Char) : List Char → Option (List Char)
  | d :: rest => if d = c then some rest else none
  | [] => none

/-- The number of days in a month. -/
def daysInMonth (year month : Nat) : Nat :=
  if month = 2 then
    if year % 4 = 0 ∧ (year % 100 ≠ 0 ∨ year % 400 = 0) then 29 else 28
  else if month = 4 ∨ month = 6 ∨ month = 9 ∨ month = 11 then 30
  else 31

/-- Reads a date. -/
def readDate (input : List Char) : Option (List Char) := do
  let (year, rest) ← readFixed 4 input
  let rest ← readChar '-' rest
  let (month, rest) ← readFixed 2 rest
  let rest ← readChar '-' rest
  let (day, rest) ← readFixed 2 rest
  if 1 ≤ month ∧ month ≤ 12 ∧ 1 ≤ day ∧ day ≤ daysInMonth year month then some rest else none

/-- Reads an hour and a minute. -/
def readHourMinute (input : List Char) : Option (List Char) := do
  let (hour, rest) ← readFixed 2 input
  let rest ← readChar ':' rest
  let (minute, rest) ← readFixed 2 rest
  if hour ≤ 23 ∧ minute ≤ 59 then some rest else none

/-- Reads a time of day; a minute may have a leap second. -/
def readTime (input : List Char) : Option (List Char) := do
  let rest ← readHourMinute input
  let rest ← readChar ':' rest
  let (second, rest) ← readFixed 2 rest
  if 60 < second then none
  else
    match rest with
    | '.' :: more =>
      match more.takeWhile isDigit with
      | [] => none
      | _ => some (more.dropWhile isDigit)
    | rest => some rest

/-- Reads the offset of a time from universal time, if there is one. -/
def readOffset : List Char → Option (List Char)
  | c :: rest =>
    if c = 'Z' ∨ c = 'z' then some rest
    else if c = '+' ∨ c = '-' then readHourMinute rest
    else some (c :: rest)
  | [] => some []

/-- Reads a date, a date with a time, or a time. -/
def readDatetime (input : List Char) : Option (List Char) :=
  match readDate input with
  | some (c :: rest) =>
    if c = 'T' ∨ c = 't' ∨ c = ' ' then
      match readTime rest with
      | some rest => readOffset rest
      | none => some (c :: rest)
    else some (c :: rest)
  | some [] => some []
  | none => readTime input

/-- Reads what starts like a number: a date, a float or an integer. -/
def readNumeric (input : List Char) : Option (Toml × List Char) :=
  match readDatetime input with
  | some rest => some (.datetime, rest)
  | none =>
    match readDigitFloat input with
    | some (some rest) => some (.float, rest)
    | some none => none
    | none =>
      match readSpecialFloat input with
      | some rest => some (.float, rest)
      | none => readInteger input

end RemovableMedia.Toml
