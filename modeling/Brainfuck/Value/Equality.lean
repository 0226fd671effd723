import Brainfuck.Value
import Brainfuck.Decimal.Binary

/-!
# Equality of values

Two values are the same if they have the same content: truth values count as the numbers
zero and one, whole and floating-point numbers are compared by their exact value, and
the order of the entries of a mapping and of the members of a set does not matter. Not a
number differs from everything.
-/

namespace Brainfuck

/-- The universal time of a moment in a known zone, in microseconds from the first day of a
fixed calendar without gaps. -/
def Moment.instant? (m : Moment) : Option Int :=
  let daysBefore (year month day : Nat) : Int :=
    -- days are counted from the first of March, so that the leap day comes last
    let y : Int := if month ≤ 2 then year - 1 else year
    let monthFromMarch := (month + 9) % 12
    365 * y + y / 4 - y / 100 + y / 400 + ((153 * monthFromMarch + 2) / 5 : Nat) + day
  m.zone.map fun z =>
    let ahead := match z with
      | .universal => 0
      | .offset seconds => seconds
    let seconds := daysBefore m.date.year m.date.month m.date.day * 86400 +
      (m.hour * 3600 + m.minute * 60 + m.second : Nat) - ahead
    seconds * 1000000 + m.microsecond

/-- Whether two moments are the same: by universal time where both zones are known. -/
def Moment.same (a b : Moment) : Bool :=
  match a.instant?, b.instant? with
  | some x, some y => x == y
  | none, none => decide (a = b)
  | _, _ => false

namespace Value

/-- A whole number or truth value as a number. -/
def integer? : Value → Option Int
  | bool b => some (if b then 1 else 0)
  | int n => some n
  | _ => none

mutual

/-- Whether two values are the same. -/
def same : Value → Value → Bool
  | null, null => true
  | text s, text t => s == t
  | bytes b, bytes c => b == c
  | date d, date e => decide (d = e)
  | moment m, moment n => m.same n
  | list xs, list ys => sameItems xs ys
  | pair a b, pair c d => same a c && same b d
  | set xs, set ys => xs.length == ys.length && allIn xs ys
  | mapping xs, mapping ys => xs.length == ys.length && entriesIn xs ys
  | float x, float y => x == y
  | float x, v =>
    match v.integer?, Decimal.whole? x with
    | some n, some m => n == m
    | _, _ => false
  | v, float y =>
    match v.integer?, Decimal.whole? y with
    | some n, some m => n == m
    | _, _ => false
  | v, w =>
    match v.integer?, w.integer? with
    | some n, some m => n == m
    | _, _ => false

/-- Whether two lists have the same members in the same order. -/
def sameItems : List Value → List Value → Bool
  | [], [] => true
  | x :: xs, y :: ys => same x y && sameItems xs ys
  | _, _ => false

/-- Whether all members of one list are members of another. -/
def allIn : List Value → List Value → Bool
  | [], _ => true
  | x :: xs, ys => ys.any (same x) && allIn xs ys

/-- Whether all entries of one mapping are entries of another. -/
def entriesIn : List (Value × Value) → List (Value × Value) → Bool
  | [], _ => true
  | (k, v) :: rest, ys => ys.any (fun e => same k e.1 && same v e.2) && entriesIn rest ys

end

end Value

end Brainfuck
