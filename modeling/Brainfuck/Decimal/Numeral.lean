import Brainfuck.Text.Blank
import Brainfuck.Text.Digit

/-!
# Whole numbers as texts

A numeral is a run of decimal digits of any scripts, in which single underscores may
stand between digits, with at most one sign before it and blanks around it. Very long
numerals are refused rather than read, and not written either.
-/

namespace Brainfuck

namespace Decimal

/-- The greatest number of digits of a numeral. -/
def digitLimit : Nat := 4300

/-- The digits of a run in which single underscores may stand between digits. -/
def digits? : List Char → Option (List Nat)
  | [] => none
  | [c] => (Text.digitValue? c).map ([·])
  | c :: '_' :: rest => do
    let d ← Text.digitValue? c
    let ds ← digits? rest
    some (d :: ds)
  | c :: rest => do
    let d ← Text.digitValue? c
    let ds ← digits? rest
    some (d :: ds)

/-- The number with the given digits, the most significant first. -/
def ofDigits (base : Nat) (digits : List Nat) : Nat :=
  digits.foldl (fun n d => base * n + d) 0

/-- The number that a run of digits stands for. -/
def natural? (cs : List Char) : Option Nat := do
  let ds ← digits? cs
  if ds.length ≤ digitLimit then some (ofDigits 10 ds) else none

/-- The whole number that a text stands for. -/
def integer? (text : String) : Option Int :=
  match Text.trimBoth Text.isNumeralBlank text.toList with
  | '-' :: cs => (natural? cs).map fun n => -(n : Int)
  | '+' :: cs => (natural? cs).map Int.ofNat
  | cs => (natural? cs).map Int.ofNat

/-- The least number that has more digits than a numeral. No proof is helped by computing it. -/
@[irreducible] def numeralLimit : Nat := Nat.pow 10 digitLimit

/-- The numeral of a whole number. -/
def numeral? (n : Int) : Option String :=
  if n.natAbs < numeralLimit then some (toString n) else none

end Decimal

end Brainfuck
