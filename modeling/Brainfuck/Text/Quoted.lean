import Brainfuck.Text.Printable

/-!
# Quoted texts

In a message a text stands between quotes: single ones, or double ones if it contains a
single and no double quote. The quote in use and the backslash are escaped by a
backslash, line feed, carriage return and tab have an escape of their own, and any other
character that is not printable is written by its code point.
-/

namespace Brainfuck

namespace Text

/-- A number in lower-case hexadecimal digits. -/
def hexDigits (n : Nat) : List Char := Nat.toDigits 16 n

/-- A number in at least `width` lower-case hexadecimal digits. -/
def hexPadded (width n : Nat) : List Char :=
  let digits := hexDigits n
  List.replicate (width - digits.length) '0' ++ digits

/-- A character inside a text that stands between quotes `q`. -/
def quotedChar (q c : Char) : List Char :=
  if c = q ∨ c = '\\' then ['\\', c]
  else if c = '\n' then ['\\', 'n']
  else if c = '\r' then ['\\', 'r']
  else if c = '\t' then ['\\', 't']
  else if isPrintable c then [c]
  else
    let code := c.toNat
    if code < 0x100 then '\\' :: 'x' :: hexPadded 2 code
    else if code < 0x10000 then '\\' :: 'u' :: hexPadded 4 code
    else '\\' :: 'U' :: hexPadded 8 code

/-- The quote that a text is put between. -/
def quoteFor (cs : List Char) : Char :=
  if '\'' ∈ cs ∧ '"' ∉ cs then '"' else '\''

/-- A text between quotes. -/
def quoted (s : String) : String :=
  let cs := s.toList
  let q := quoteFor cs
  String.ofList (q :: cs.flatMap (quotedChar q) ++ [q])

/-- A byte inside a byte string that stands between quotes `q`. -/
def quotedByte (q : Char) (b : UInt8) : List Char :=
  let c := Char.ofNat b.toNat
  if b < 0x80 then quotedChar q c else '\\' :: 'x' :: hexPadded 2 b.toNat

/-- A byte string between quotes, marked by a `b`. -/
def quotedBytes (bytes : List UInt8) : String :=
  let q := quoteFor (bytes.map fun b => Char.ofNat b.toNat)
  String.ofList ('b' :: q :: bytes.flatMap (quotedByte q) ++ [q])

end Text

end Brainfuck
