import Brainfuck.Text.Ranges

/-!
# Blanks

The white space of Unicode together with the four information separators. Surrounding
blanks do not count in the value of an option.
-/

namespace Brainfuck

namespace Text

/-- The characters that are blank. -/
def blanks : Ranges := ⟨
  [
    (0x9, 0xd), (0x1c, 0x20), (0x85, 0x85), (0xa0, 0xa0), (0x1680, 0x1680),
    (0x2000, 0x200a), (0x2028, 0x2029), (0x202f, 0x202f), (0x205f, 0x205f), (0x3000, 0x3000)]⟩

/-- Whether a character is blank. -/
def isBlank (c : Char) : Bool := blanks.contains c

/-- Whether a character may surround a numeral: a blank, the information separators apart. -/
def isNumeralBlank (c : Char) : Bool := isBlank c && !(0x1c ≤ c.toNat && c.toNat ≤ 0x1f)

/-- The characters left when those at both ends that satisfy `p` are dropped. -/
def trimBoth (p : Char → Bool) (cs : List Char) : List Char :=
  ((cs.dropWhile p).reverse.dropWhile p).reverse

/-- A text without its surrounding blanks. -/
def trim (cs : List Char) : List Char := trimBoth isBlank cs

end Text

end Brainfuck
