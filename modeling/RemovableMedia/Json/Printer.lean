import RemovableMedia.Json
import RemovableMedia.Text.Quoted

/-!
# Writing JSON

Two layouts: the compact one has no blanks at all, the indented one gives each item and each field
its own line, two spaces deeper than its container.  In strings the quote, the backslash and the
control characters are escaped and everything else stands as it is.
-/

set_option autoImplicit false

namespace RemovableMedia.Json

/-- How one character is written inside a JSON string. -/
def escapeChar (c : Char) : List Char :=
  if c = '"' then ['\\', '"']
  else if c = '\\' then ['\\', '\\']
  else if c = '\x08' then ['\\', 'b']
  else if c = '\t' then ['\\', 't']
  else if c = '\n' then ['\\', 'n']
  else if c = '\x0c' then ['\\', 'f']
  else if c = '\r' then ['\\', 'r']
  else if c.toNat < 16 then ['\\', 'u', '0', '0', '0'] ++ Text.hexDigits c.toNat
  else if c.toNat < 32 then ['\\', 'u', '0', '0'] ++ Text.hexDigits c.toNat
  else [c]

/-- A text as a JSON string. -/
def renderText (text : String) : List Char :=
  '"' :: (text.toList.flatMap escapeChar ++ ['"'])

/-- A string value; one that is no text is written empty. -/
def renderString : Option String → List Char
  | some text => renderText text
  | none => ['"', '"']

mutual

/-- A value in the compact layout. -/
def renderChars : Json → List Char
  | .null => ['n', 'u', 'l', 'l']
  | .bool true => ['t', 'r', 'u', 'e']
  | .bool false => ['f', 'a', 'l', 's', 'e']
  | .number spelling => spelling
  | .string text => renderString text
  | .array items => '[' :: renderItems items
  | .object fields => '\x7b' :: renderFields fields

/-- The items of an array up to its closing bracket. -/
def renderItems : List Json → List Char
  | [] => [']']
  | [item] => renderChars item ++ [']']
  | item :: rest => renderChars item ++ ',' :: renderItems rest

/-- The fields of an object up to its closing brace. -/
def renderFields : List (Option String × Json) → List Char
  | [] => ['\x7d']
  | [(name, value)] => renderString name ++ ':' :: (renderChars value ++ ['\x7d'])
  | (name, value) :: rest =>
    renderString name ++ ':' :: (renderChars value ++ ',' :: renderFields rest)

end

/-- A new line with the indentation of a nesting level. -/
def newline (level : Nat) : List Char :=
  '\n' :: List.replicate (2 * level) ' '

mutual

/-- A value in the indented layout, inside `level` containers. -/
def renderIndentedChars (level : Nat) : Json → List Char
  | .null => ['n', 'u', 'l', 'l']
  | .bool true => ['t', 'r', 'u', 'e']
  | .bool false => ['f', 'a', 'l', 's', 'e']
  | .number spelling => spelling
  | .string text => renderString text
  | .array [] => ['[', ']']
  | .array (item :: rest) => '[' :: renderIndentedItems level (item :: rest)
  | .object [] => ['\x7b', '\x7d']
  | .object (field :: rest) => '\x7b' :: renderIndentedFields level (field :: rest)

/-- The items of a non-empty array, each on its own line, up to the closing bracket. -/
def renderIndentedItems (level : Nat) : List Json → List Char
  | [] => newline level ++ [']']
  | [item] =>
    newline (level + 1) ++ renderIndentedChars (level + 1) item ++ newline level ++ [']']
  | item :: rest =>
    newline (level + 1) ++ renderIndentedChars (level + 1) item ++
      ',' :: renderIndentedItems level rest

/-- The fields of a non-empty object, each on its own line, up to the closing brace. -/
def renderIndentedFields (level : Nat) : List (Option String × Json) → List Char
  | [] => newline level ++ ['\x7d']
  | [(name, value)] =>
    newline (level + 1) ++ renderString name ++ ':' :: ' ' ::
      (renderIndentedChars (level + 1) value ++ newline level ++ ['\x7d'])
  | (name, value) :: rest =>
    newline (level + 1) ++ renderString name ++ ':' :: ' ' ::
      (renderIndentedChars (level + 1) value ++ ',' :: renderIndentedFields level rest)

end

/-- A value as compact text. -/
def render (value : Json) : String :=
  String.ofList value.renderChars

/-- A value as indented text. -/
def renderIndented (value : Json) : String :=
  String.ofList (value.renderIndentedChars 0)

end RemovableMedia.Json
