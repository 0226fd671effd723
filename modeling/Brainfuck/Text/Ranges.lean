/-!
# Sets of characters as ranges

A property of characters is a table of disjoint ranges of code points, both ends
included.
-/

namespace Brainfuck

namespace Text

/-- A set of characters: disjoint ranges of code points in increasing order. -/
structure Ranges where
  /-- First and last code point of each range. -/
  bounds : List (Nat × Nat)

namespace Ranges

/-- Whether a character belongs to the set. -/
def contains (r : Ranges) (c : Char) : Bool :=
  r.bounds.any fun (first, last) => first ≤ c.toNat && c.toNat ≤ last

end Ranges

end Text

end Brainfuck
