/-!
# Texts as bytes

The first 256 code points stand for the bytes: a text of such characters is the sequence
of its code points, and every sequence of bytes is a text.
-/

namespace Brainfuck

namespace Text

/-- The byte that a character stands for. -/
def byteOf? (c : Char) : Option UInt8 :=
  if c.toNat < 256 then some (UInt8.ofNat c.toNat) else none

/-- The bytes that a text stands for. -/
def bytesOf? (s : String) : Option (List UInt8) := s.toList.mapM byteOf?

/-- The text that stands for a sequence of bytes. -/
def ofBytes (bytes : List UInt8) : String :=
  String.ofList (bytes.map fun b => Char.ofNat b.toNat)

end Text

end Brainfuck
