import RemovableMedia.Text.Utf8
import RemovableMedia.Udev.Properties

/-!
# Event datagrams

The device manager sends each event as one datagram: a header of forty bytes with a fixed
beginning, a magic number, and the place and length of the body, and a body of properties, each
ended by a zero byte.  A receiver reads a bounded number of bytes, so a longer datagram arrives
cut off, and its body no longer lies within it.
-/

set_option autoImplicit false

namespace RemovableMedia.Udev

/-- The bytes of one datagram. -/
abbrev Datagram := List UInt8

namespace Datagram

/-- The number of bytes in the header. -/
def headerLength : Nat := 40

/-- The bytes with which every header begins. -/
def beginning : List UInt8 :=
  [0x6c, 0x69, 0x62, 0x75, 0x64, 0x65, 0x76, 0x00]

/-- The number that marks the layout of the header. -/
def magic : Nat := 0xfeedcafe

/-- The number of bytes that a receiver takes from one datagram. -/
def receiveLimit : Nat := 8192

/-- The number that bytes spell, the last byte first. -/
def littleEndian (bytes : List UInt8) : Nat :=
  bytes.foldr (fun b n => b.toNat + 256 * n) 0

/-- The number that bytes spell, the first byte first. -/
def bigEndian (bytes : List UInt8) : Nat :=
  littleEndian bytes.reverse

/-- The four bytes at a place. -/
def word (datagram : Datagram) (offset : Nat) : List UInt8 :=
  (datagram.drop offset).take 4

/-- The part of a datagram at a place with a length, if it lies within it. -/
def slice? (datagram : Datagram) (offset length : Nat) : Option (List UInt8) :=
  if offset + length ≤ datagram.length then some ((datagram.drop offset).take length) else none

/-- The body of a datagram that has a proper header. -/
def body? (datagram : Datagram) : Option (List UInt8) :=
  if datagram.length < headerLength then none
  else if datagram.take beginning.length ≠ beginning then none
  else if bigEndian (datagram.word 8) ≠ magic then none
  else datagram.slice? (littleEndian (datagram.word 16)) (littleEndian (datagram.word 20))

/-- The properties that a datagram states; parts that are not text state none. -/
def properties? (datagram : Datagram) : Option Properties :=
  datagram.body?.map fun body =>
    .ofPairs (Properties.pairsOfTexts ((Text.splitAll 0 body).filterMap Text.Utf8.decode?))

/-- What a receiver gets of a datagram. -/
def received (datagram : Datagram) : Datagram :=
  datagram.take receiveLimit

end Datagram

end RemovableMedia.Udev
