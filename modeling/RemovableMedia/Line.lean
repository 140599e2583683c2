/-!
# Protocol lines

Everything that daemon and client say to each other is a line: a name and a list of arguments,
each of which is a text or absent.  A line is written as the name followed by its arguments in
parentheses, an absent argument as `nil` and a text in double quotes.  There are no escapes, so
the characters that would end a text or a line early are replaced when a line is built.
-/

set_option autoImplicit false

namespace RemovableMedia

/-- The arguments of a line: texts, and gaps where an argument is absent. -/
abbrev Arguments := List (Option String)

/-- One message of the protocol. -/
structure Line where
  /-- What the message is. -/
  name : String
  /-- What it says. -/
  args : Arguments
deriving DecidableEq, Repr

namespace Line

/-- The replacement of a character that no argument can carry. -/
def cleanChar (c : Char) : Char :=
  if c = '"' ∨ c = '\n' ∨ c = '\r' then '_' else c

/-- A text as an argument can carry it. -/
def clean (text : String) : String :=
  String.ofList (text.toList.map cleanChar)

/-- The line with the given name and arguments, every text made fit for the wire. -/
def make (name : String) (args : Arguments) : Line :=
  ⟨name, args.map (Option.map clean)⟩

/-- The line with one more argument. -/
def push (line : Line) (arg : Option String) : Line :=
  { line with args := line.args ++ [arg.map clean] }

/-- How one argument is written. -/
def renderArg : Option String → List Char
  | none => ['n', 'i', 'l']
  | some text => '"' :: (text.toList ++ ['"'])

/-- How arguments are written between the parentheses. -/
def renderArgs : Arguments → List Char
  | [] => []
  | [arg] => renderArg arg
  | arg :: rest => renderArg arg ++ ',' :: ' ' :: renderArgs rest

/-- The characters of a line. -/
def renderChars (line : Line) : List Char :=
  line.name.toList ++ '(' :: (renderArgs line.args ++ [')'])

/-- A line as text, without the newline that ends it on the wire. -/
def render (line : Line) : String :=
  String.ofList line.renderChars

/-- A line as it is sent. -/
def wire (line : Line) : String :=
  line.render ++ "\n"

/-- Cleaning leaves none of the characters that would break a line. -/
theorem cleanChar_ne (c : Char) : cleanChar c ≠ '"' ∧ cleanChar c ≠ '\n' ∧ cleanChar c ≠ '\r' := by
  unfold cleanChar
  split
  · decide
  · rename_i h
    simp only [not_or] at h
    exact h

/-- Cleaning a second time changes nothing. -/
@[simp]
theorem cleanChar_cleanChar (c : Char) : cleanChar (cleanChar c) = cleanChar c := by
  have h := cleanChar_ne c
  generalize cleanChar c = d at h
  unfold cleanChar
  simp [h]

end Line

end RemovableMedia
