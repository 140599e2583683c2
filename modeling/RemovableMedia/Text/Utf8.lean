/-!
# Reading UTF-8

A byte sequence is text when it is well-formed UTF-8.  For a sequence that is not, the reader can
say where the longest well-formed beginning ends and how many bytes the first offence takes: one
to three, or an unfinished character at the end of the input.
-/

set_option autoImplicit false

namespace RemovableMedia.Text.Utf8

/-- The first place where bytes stop being UTF-8. -/
structure Fault where
  /-- How many bytes before the fault are well formed. -/
  validUpTo : Nat
  /-- How many bytes the offending sequence has, or none when the input ends inside a character. -/
  length : Option Nat
deriving DecidableEq, Repr

/-- How a fault is reported. -/
def Fault.message (fault : Fault) : String :=
  match fault.length with
  | some n => s!"invalid utf-8 sequence of {n} bytes from index {fault.validUpTo}"
  | none => s!"incomplete utf-8 byte sequence from index {fault.validUpTo}"

/-- What stands at the head of a byte sequence: a well-formed character of the given number of
bytes, an offence of the given number of bytes, or the beginning of a character that the input
does not finish. -/
inductive Head where
  | character (size : Nat)
  | offence (size : Nat)
  | unfinished
deriving DecidableEq, Repr

/-- Whether a byte continues a character. -/
def isContinuation (b : UInt8) : Bool :=
  0x80 ≤ b && b ≤ 0xbf

/-- The lowest and highest second byte that may follow a first byte of three or four bytes: the
limits keep out overlong forms, surrogates and code points past the last one. -/
def secondByteRange (first : UInt8) : UInt8 × UInt8 :=
  if first == 0xe0 then (0xa0, 0xbf)
  else if first == 0xed then (0x80, 0x9f)
  else if first == 0xf0 then (0x90, 0xbf)
  else if first == 0xf4 then (0x80, 0x8f)
  else (0x80, 0xbf)

/-- The number of bytes that a first byte announces, if it may start a character. -/
def announced (first : UInt8) : Option Nat :=
  if first < 0x80 then some 1
  else if 0xc2 ≤ first && first ≤ 0xdf then some 2
  else if 0xe0 ≤ first && first ≤ 0xef then some 3
  else if 0xf0 ≤ first && first ≤ 0xf4 then some 4
  else none

/-- Checks the bytes after the first two of a character of `size` bytes, of which `seen` are
already accepted. -/
def checkRest (size seen : Nat) : List UInt8 → Head
  | [] => if size ≤ seen then .character size else .unfinished
  | b :: rest =>
    if size ≤ seen then .character size
    else if isContinuation b then checkRest size (seen + 1) rest
    else .offence seen

/-- Classifies the head of a non-empty byte sequence with the given first byte. -/
def head (first : UInt8) (rest : List UInt8) : Head :=
  match announced first with
  | none => .offence 1
  | some 1 => .character 1
  | some size =>
    match rest with
    | [] => .unfinished
    | second :: more =>
      let (low, high) := secondByteRange first
      if low ≤ second && second ≤ high then checkRest size 2 more else .offence 1

/-- The first fault in a byte sequence, when `skip` of its first bytes belong to a character that
is already accepted and `pos` bytes went before. -/
def faultFrom (pos skip : Nat) : List UInt8 → Option Fault
  | [] => none
  | b :: rest =>
    match skip with
    | skip + 1 => faultFrom (pos + 1) skip rest
    | 0 =>
      match head b rest with
      | .character size => faultFrom (pos + 1) (size - 1) rest
      | .offence size => some ⟨pos, some size⟩
      | .unfinished => some ⟨pos, none⟩

/-- The first fault in a byte sequence, if there is one. -/
def fault? (bytes : List UInt8) : Option Fault :=
  faultFrom 0 0 bytes

/-- The text that bytes spell, if they are UTF-8. -/
def decode? (bytes : List UInt8) : Option String :=
  String.fromUTF8? (ByteArray.mk bytes.toArray)

/-- The bytes that spell a text. -/
def encode (text : String) : List UInt8 :=
  text.toUTF8.toList

end RemovableMedia.Text.Utf8
