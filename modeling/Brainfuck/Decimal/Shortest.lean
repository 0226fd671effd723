import Brainfuck.Decimal.Binary

/-!
# The shortest decimal of a floating-point number

Every real number in a certain interval around a floating-point number rounds to it, the
ends of the interval included exactly if the significand is even. Among the decimals in
that interval those on the coarsest grid `10 ^ k` have the fewest digits, and of these
the one nearest to the number is taken. Only the two neighbours of the number on each
grid have to be looked at: if any point of the grid lies in the interval, so does one of
them.

How the digits are then laid out is a format: positional notation for magnitudes from
`10 ^ -4` up to `10 ^ 16`, where a whole number still has a decimal place, and scientific
notation with an exponent of at least two digits elsewhere.
-/

namespace Brainfuck

namespace Decimal

/-- The number `digits · 10 ^ exponent`. -/
structure Scientific where
  /-- The digits, as a number. -/
  digits : Nat
  /-- The power of ten. -/
  exponent : Int

/-- The numbers that round to `significand · 2 ^ exponent`, in quarters of the last place:
`low` and `high` times `2 ^ (exponent - 2)`. -/
structure Interval where
  /-- The lower end. -/
  low : Nat
  /-- The number itself. -/
  centre : Nat
  /-- The upper end. -/
  high : Nat
  /-- Whether the ends belong to the interval. -/
  closed : Bool
  /-- The power of two that all three are multiplied by. -/
  exponent : Int

/-- The interval of a dyadic number. Below a power of two the numbers are twice as dense. -/
def Dyadic.interval (d : Dyadic) : Interval :=
  let m := d.significand
  ⟨if m = Nat.pow 2 52 ∧ d.exponent > -1074 then 4 * m - 1 else 4 * m - 2, 4 * m, 4 * m + 2,
    m % 2 == 0, d.exponent - 2⟩

namespace Interval

/-- The factor that turns multiples of `2 ^ exponent` into multiples of the common unit of
the interval and the grid `10 ^ k`. -/
def scale (i : Interval) (k : Int) : Nat :=
  Nat.pow 2 i.exponent.toNat * Nat.pow 10 (-k).toNat

/-- One step of the grid `10 ^ k` in that unit. -/
def gridStep (i : Interval) (k : Int) : Nat :=
  Nat.pow 2 (-i.exponent).toNat * Nat.pow 10 k.toNat

/-- Whether `digits · 10 ^ k` lies in the interval. -/
def contains (i : Interval) (digits : Nat) (k : Int) : Bool :=
  let x := digits * i.gridStep k
  let low := i.low * i.scale k
  let high := i.high * i.scale k
  if i.closed then low ≤ x && x ≤ high else low < x && x < high

/-- The point of the grid `10 ^ k` in the interval that is nearest to the centre, if there is
any; of two equally near ones the even one. -/
def onGrid? (i : Interval) (k : Int) : Option Nat :=
  let centre := i.centre * i.scale k
  let step := i.gridStep k
  let below := centre / step
  let above := below + 1
  match i.contains below k, i.contains above k with
  | true, true =>
    let toBelow := centre - below * step
    let toAbove := above * step - centre
    if toBelow < toAbove ∨ (toBelow = toAbove ∧ below % 2 = 0) then some below else some above
  | true, false => some below
  | false, true => some above
  | false, false => none

/-- The first hit on the grids `10 ^ k`, `10 ^ (k - 1)` and so on. -/
def onGrids (i : Interval) : (tries : Nat) → (k : Int) → Scientific
  | 0, k => ⟨i.centre * i.scale k / i.gridStep k, k⟩
  | tries + 1, k =>
    match i.onGrid? k with
    | some digits => ⟨digits, k⟩
    | none => i.onGrids tries (k - 1)

end Interval

/-- The shortest decimal that rounds to a dyadic number. Seventeen digits always suffice; the
search starts on a grid that is too coarse. -/
def Dyadic.shortest (d : Dyadic) : Scientific :=
  let magnitude := (d.significand.log2 : Int) + d.exponent
  d.interval.onGrids 24 (magnitude * 30103 / 100000 + 2)

/-- The layout of a decimal number. -/
structure Layout where
  /-- The smallest exponent of a first digit that is still written positionally. -/
  positionalFrom : Int
  /-- The smallest exponent of a first digit that is no longer written positionally. -/
  positionalBefore : Int
  /-- The least number of digits of an exponent. -/
  exponentDigits : Nat

/-- Positional from `10 ^ -4` and below `10 ^ 16`, exponents of two digits. -/
def Layout.standard : Layout := ⟨-4, 16, 2⟩

namespace Layout

/-- The text of an exponent, always with its sign. -/
def exponentText (l : Layout) (e : Int) : String :=
  let digits := toString e.natAbs
  (if e < 0 then "-" else "+")
    ++ String.ofList (List.replicate (l.exponentDigits - digits.length) '0') ++ digits

/-- The text of a positive decimal number. -/
def text (l : Layout) (s : Scientific) : String :=
  let digits := (toString s.digits).toList
  let first := s.exponent + digits.length - 1
  if l.positionalFrom ≤ first ∧ first < l.positionalBefore then
    if first < 0 then
      "0." ++ String.ofList (List.replicate (-first - 1).toNat '0' ++ digits)
    else
      let places := (first + 1).toNat
      let padded := digits ++ List.replicate (places - digits.length) '0'
      let fraction := padded.drop places
      String.ofList (padded.take places) ++ "." ++
        String.ofList (if fraction.isEmpty then ['0'] else fraction)
  else
    let fraction := digits.drop 1
    let point := if fraction.isEmpty then "" else "."
    String.ofList (digits.take 1) ++ point ++ String.ofList fraction ++ "e" ++ l.exponentText first

end Layout

/-- The text of a floating-point number. -/
def floatText (x : Float) : String :=
  match Reading.ofFloat x with
  | .notANumber => "nan"
  | .infinite negative => if negative then "-inf" else "inf"
  | .zero negative => if negative then "-0.0" else "0.0"
  | .finite d => (if d.negative then "-" else "") ++ Layout.standard.text d.shortest

end Decimal

end Brainfuck
