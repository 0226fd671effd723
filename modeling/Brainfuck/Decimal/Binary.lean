/-!
# Floating-point numbers, exactly

A finite floating-point number is `± m · 2 ^ q` with whole `m` and `q`. Reading `m` and
`q` off the bits of the number lets rounding to a whole number, comparison with a whole
number and the choice of decimal digits all be done in exact arithmetic.
-/

namespace Brainfuck

namespace Decimal

/-- The magnitude `significand · 2 ^ exponent` of a number that is not zero, with its
sign. -/
structure Dyadic where
  /-- Whether the number is below zero. -/
  negative : Bool
  /-- The whole number `m`. -/
  significand : Nat
  /-- The whole number `q`. -/
  exponent : Int

/-- What a floating-point number stands for. -/
inductive Reading where
  /-- No number at all. -/
  | notANumber
  /-- An infinity. -/
  | infinite (negative : Bool)
  /-- A zero, which has a sign. -/
  | zero (negative : Bool)
  /-- A finite number other than zero. -/
  | finite (value : Dyadic)

/-- Read a floating-point number: one sign bit, eleven exponent bits, fifty-two fraction
bits. -/
def Reading.ofFloat (x : Float) : Reading :=
  let bits : Nat := x.toBits.toNat
  let negative := bits / Nat.pow 2 63 == 1
  let biased : Nat := bits / Nat.pow 2 52 % Nat.pow 2 11
  let fraction : Nat := bits % Nat.pow 2 52
  if biased = Nat.pow 2 11 - 1 then
    if fraction = 0 then .infinite negative else .notANumber
  else if biased = 0 then
    if fraction = 0 then .zero negative else .finite ⟨negative, fraction, -1074⟩
  else .finite ⟨negative, Nat.pow 2 52 + fraction, (biased : Int) - 1075⟩

namespace Dyadic

/-- The whole number next to a dyadic number in the direction of zero. -/
def truncate (d : Dyadic) : Int :=
  let magnitude : Nat :=
    d.significand * Nat.pow 2 d.exponent.toNat / Nat.pow 2 (-d.exponent).toNat
  if d.negative then -(magnitude : Int) else magnitude

/-- Whether a dyadic number is whole. -/
def isWhole (d : Dyadic) : Bool :=
  d.significand % Nat.pow 2 (-d.exponent).toNat == 0

/-- The least whole number that is not below a dyadic number. -/
def ceiling (d : Dyadic) : Int :=
  if d.negative || d.isWhole then d.truncate else d.truncate + 1

end Dyadic

/-- The whole number that a floating-point number equals. -/
def whole? (x : Float) : Option Int :=
  match Reading.ofFloat x with
  | .zero _ => some 0
  | .finite d => if d.isWhole then some d.truncate else none
  | _ => none

/-- The largest exponent of ten that is looked at when a decimal becomes a floating-point
number: everything beyond is infinite or zero. -/
def exponentLimit : Int := 1000

/-- The floating-point number nearest to `digits · 10 ^ exponent`, where `digits` has
`length` digits without the zeros before them. -/
def toFloat (digits : Nat) (length : Nat) (exponent : Int) : Float :=
  if digits = 0 then 0.0
  else if exponent + length > exponentLimit then 1.0 / 0.0
  else if exponent + length < -exponentLimit then 0.0
  else Float.ofScientific digits (exponent < 0) exponent.natAbs

end Decimal

end Brainfuck
