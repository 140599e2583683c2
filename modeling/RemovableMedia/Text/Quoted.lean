import RemovableMedia.Text.Unprintable

/-!
# Quoted text

Error messages show a piece of input in double quotes, so that the reader sees where it begins and
ends and every character that matters.  A quote, a backslash and the usual control characters have
short escapes, any other unprintable character is written `\u` with its code point in braces, and
everything else stands as it is.
-/

set_option autoImplicit false

namespace RemovableMedia.Text

/-- The hexadecimal digits of a number, lower case and without leading zeros. -/
def hexDigits (n : Nat) : List Char :=
  Nat.toDigits 16 n

/-- How one character is written inside quoted text. -/
def quoteChar (c : Char) : List Char :=
  if c = '"' then ['\\', '"']
  else if c = '\\' then ['\\', '\\']
  else if c = '\t' then ['\\', 't']
  else if c = '\r' then ['\\', 'r']
  else if c = '\n' then ['\\', 'n']
  else if c.toNat = 0 then ['\\', '0']
  else if isUnprintable c then '\\' :: 'u' :: '\x7b' :: (hexDigits c.toNat ++ ['\x7d'])
  else [c]

/-- A text in double quotes, with what cannot be shown escaped. -/
def quoted (text : String) : String :=
  String.ofList ('"' :: (text.toList.flatMap quoteChar ++ ['"']))

end RemovableMedia.Text
