import RemovableMedia.Line
import RemovableMedia.Text.Split
import RemovableMedia.Text.Quoted

/-!
# Reading protocol lines

The reader accepts exactly what `Line.render` writes for a line whose name is made of lower case
letters, digits and underscores.  A refusal says what was wrong at the first place where the text
leaves the grammar, with the rest of the text from there.
-/

set_option autoImplicit false

namespace RemovableMedia

/-- Why a text is not a line. -/
inductive LineError where
  | empty
  | invalidName (name : String)
  | missingOpenParen
  | expectedArgument (rest : String)
  | unterminatedString
  | expectedSeparator (rest : String)
  | trailingData (rest : String)
deriving DecidableEq, Repr

/-- How a refusal is worded. -/
def LineError.message : LineError → String
  | .empty => "empty line"
  | .invalidName name => "invalid message name: " ++ Text.quoted name
  | .missingOpenParen => "missing '(' after message name"
  | .expectedArgument rest => "expected nil or a quoted string at: " ++ Text.quoted rest
  | .unterminatedString => "unterminated string argument"
  | .expectedSeparator rest => "expected ', ' or ')' at: " ++ Text.quoted rest
  | .trailingData rest => "trailing data after ')': " ++ Text.quoted rest

namespace Line

/-- Whether a character may stand in the name of a line. -/
def isNameChar (c : Char) : Bool :=
  ('a' ≤ c && c ≤ 'z') || ('0' ≤ c && c ≤ '9') || c == '_'

/-- Whether a text can be the name of a line. -/
def isName (name : List Char) : Bool :=
  !name.isEmpty && name.all isNameChar

/-- Reads one argument and returns it with the text after it. -/
def parseArg : List Char → Except LineError (Option String × List Char)
  | 'n' :: 'i' :: 'l' :: rest => .ok (none, rest)
  | '"' :: body =>
    match Text.splitOnce '"' body with
    | some (text, rest) => .ok (some (String.ofList text), rest)
    | none => .error .unterminatedString
  | input => .error (.expectedArgument (String.ofList input))

/-- An argument takes up some of the text. -/
theorem length_lt_of_parseArg {input rest : List Char} {arg : Option String}
    (h : parseArg input = .ok (arg, rest)) : rest.length < input.length := by
  unfold parseArg at h
  split at h
  · simp only [Except.ok.injEq, Prod.mk.injEq] at h
    simp [← h.2]
    omega
  · split at h
    · rename_i hsplit
      simp only [Except.ok.injEq, Prod.mk.injEq] at h
      have := Text.length_lt_of_splitOnce_eq_some hsplit
      rw [← h.2]
      simp
      omega
    · simp at h
  · simp at h

/-- Reads one or more arguments up to the parenthesis that closes the line. -/
def parseArgs (input : List Char) : Except LineError Arguments :=
  match h : parseArg input with
  | .error e => .error e
  | .ok (arg, ',' :: ' ' :: next) =>
    have : next.length < input.length := by
      have := length_lt_of_parseArg h
      simp at this
      omega
    match parseArgs next with
    | .ok args => .ok (arg :: args)
    | .error e => .error e
  | .ok (arg, [')']) => .ok [arg]
  | .ok (_, ')' :: tail) => .error (.trailingData (String.ofList tail))
  | .ok (_, after) => .error (.expectedSeparator (String.ofList after))
termination_by input.length

/-- Reads what follows the opening parenthesis. -/
def parseBody : List Char → Except LineError Arguments
  | [')'] => .ok []
  | ')' :: tail => .error (.trailingData (String.ofList tail))
  | input => parseArgs input

/-- Reads a line from its characters. -/
def parseChars (input : List Char) : Except LineError Line :=
  if input.isEmpty then .error .empty
  else
    match Text.splitOnce '(' input with
    | none => .error .missingOpenParen
    | some (name, body) =>
      if isName name then
        match parseBody body with
        | .ok args => .ok ⟨String.ofList name, args⟩
        | .error e => .error e
      else .error (.invalidName (String.ofList name))

/-- Reads a line from a text without its newline. -/
def parse (text : String) : Except LineError Line :=
  parseChars text.toList

end Line

end RemovableMedia
