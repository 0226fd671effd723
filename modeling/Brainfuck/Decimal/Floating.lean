import Brainfuck.Decimal.Binary
import Brainfuck.Decimal.Numeral

/-!
# Numbers with a fraction as texts

Digits with a point somewhere among them and an exponent after them, or a word for an
infinity or for not a number. The value is the floating-point number nearest to the
decimal. The same module reads whole numbers in the bases two, eight and sixteen.
-/

namespace Brainfuck

namespace Decimal

/-- The sign at the head of a numeral, and the rest of it. -/
def takeSign : List Char → Bool × List Char
  | '-' :: cs => (true, cs)
  | '+' :: cs => (false, cs)
  | cs => (false, cs)

/-- Whether a character is a decimal digit of any script. -/
def isDigit (c : Char) : Bool := (Text.digitValue? c).isSome

/-- The exponent at the end of a numeral; zero if there is none. -/
def exponent? : List Char → Option Int
  | [] => some 0
  | e :: cs =>
    if e = 'e' ∨ e = 'E' then
      let (negative, cs) := takeSign cs
      (digits? cs).map fun ds =>
        let n := ofDigits 10 ds
        if negative then -(n : Int) else n
    else none

/-- An unsigned numeral with a point or an exponent. -/
def unsignedFloat? (cs : List Char) : Option Float := do
  let whole := cs.takeWhile isDigit
  let rest := cs.dropWhile isDigit
  let (fraction, rest) := match rest with
    | '.' :: rest => (rest.takeWhile isDigit, rest.dropWhile isDigit)
    | rest => ([], rest)
  let digits ← (whole ++ fraction).mapM Text.digitValue?
  if digits.isEmpty then none
  let exponent ← exponent? rest
  return toFloat (ofDigits 10 digits) (digits.dropWhile (· == 0)).length
    (exponent - fraction.length)

/-- The floating-point number that a text stands for. -/
def float? (cs : List Char) : Option Float :=
  let (negative, cs) := takeSign (Text.trimBoth Text.isNumeralBlank cs)
  let x := match String.ofList (cs.map Char.toLower) with
    | "inf" | "infinity" => some (1.0 / 0.0)
    | "nan" => some (0.0 / 0.0)
    | _ => unsignedFloat? cs
  if negative then x.map (-·) else x

/-- The letter that marks a base after a zero. -/
def baseMark : Nat → Char
  | 2 => 'b'
  | 8 => 'o'
  | _ => 'x'

/-- The value of a character as a digit in a base. -/
def baseDigit? (base : Nat) (c : Char) : Option Nat :=
  let value := match Text.digitValue? c with
    | some d => some d
    | none =>
      if 'a' ≤ c && c ≤ 'z' then some (c.toNat - 87)
      else if 'A' ≤ c && c ≤ 'Z' then some (c.toNat - 55)
      else none
  value.filter (· < base)

/-- The whole number that a text stands for in base two, eight or sixteen. The mark of the base
may be repeated. -/
def integerIn? (base : Nat) (cs : List Char) : Option Int := do
  let (negative, cs) := takeSign (Text.trimBoth Text.isNumeralBlank cs)
  let cs := match cs with
    | '0' :: mark :: rest => if mark.toLower = baseMark base then rest else cs
    | cs => cs
  let digits ← cs.mapM (baseDigit? base)
  if digits.isEmpty then none
  let n : Int := ofDigits base digits
  return if negative then -n else n

end Decimal

end Brainfuck
