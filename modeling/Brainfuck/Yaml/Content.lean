import Brainfuck.Yaml.Form
import Brainfuck.Decimal.Floating
import Brainfuck.Text.LowerCase
import Brainfuck.Value.Equality

/-!
# What texts stand for

What the texts of a document mean under their tags. A tag may be given to a text that is
not of its form: then there is no value, and what the error is depends on how far the
text could be understood.
-/

namespace Brainfuck

namespace Yaml

/-- The truth value of a word. -/
def boolOf (text : String) : Except Failure Value :=
  let word := String.ofList (Text.lower text.toList)
  if word ∈ trueWords then .ok (.bool true)
  else if word ∈ falseWords then .ok (.bool false)
  else .error .unknownWord

/-- A failed reading of a number is an error of its value. -/
def orBadValue {α : Type} (x : Option α) : Except Failure α :=
  match x with
  | some x => .ok x
  | none => .error .badValue

/-- The characters of a numeral without its underscores, which must be some. -/
def numeralChars (text : String) : Except Failure (List Char) :=
  let cs := text.toList.filter (· != '_')
  if cs.isEmpty then .error .badIndex else .ok cs

/-- An unsigned whole number. The base shows in its first characters, and sixty in colons. -/
def magnitudeOf (cs : List Char) : Except Failure Int :=
  match cs with
  | ['0'] => .ok 0
  | '0' :: 'b' :: rest => orBadValue (Decimal.integerIn? 2 rest)
  | '0' :: 'x' :: rest => orBadValue (Decimal.integerIn? 16 rest)
  | [] => .error .badIndex
  | '0' :: _ => orBadValue (Decimal.integerIn? 8 cs)
  | _ =>
    if ':' ∈ cs then do
      let digits ← (parts ':' cs).mapM fun p => orBadValue (Decimal.integer? (String.ofList p))
      return digits.foldl (fun n d => 60 * n + d) 0
    else orBadValue (Decimal.integer? (String.ofList cs))

/-- The whole number of a text. -/
def intOf (text : String) : Except Failure Value := do
  let (negative, cs) := Decimal.takeSign (← numeralChars text)
  let n ← magnitudeOf cs
  return .int (if negative then -n else n)

/-- The sum of digits in base sixty, the least significant first. -/
def sixtieths (digits : List Float) : Float :=
  (digits.zipIdx.foldl (fun sum (d, i) => sum + d * Float.ofNat (Nat.pow 60 i)) 0.0)

/-- The floating-point number of a text. -/
def floatOf (text : String) : Except Failure Value := do
  let (negative, cs) := Decimal.takeSign (Text.lower (← numeralChars text))
  let x ←
    if cs = ['.', 'i', 'n', 'f'] then pure (1.0 / 0.0)
    else if cs = ['.', 'n', 'a', 'n'] then pure (0.0 / 0.0)
    else if ':' ∈ cs then do
      let digits ← (parts ':' cs).mapM fun p => orBadValue (Decimal.float? p)
      pure (sixtieths digits.reverse)
    else orBadValue (Decimal.float? cs)
  return .float (if negative then -x else x)

/-- The number of days of a month. -/
def daysOfMonth (year month : Nat) : Nat :=
  if month = 2 then
    if (year % 4 = 0 ∧ year % 100 ≠ 0) ∨ year % 400 = 0 then 29 else 28
  else if month ∈ [4, 6, 9, 11] then 30
  else 31

/-- A day that exists. -/
def dayOf (s : Stamp) : Except Failure Date :=
  if 1 ≤ s.year ∧ 1 ≤ s.month ∧ s.month ≤ 12 ∧ 1 ≤ s.day ∧ s.day ≤ daysOfMonth s.year s.month then
    .ok ⟨s.year, s.month, s.day⟩
  else .error .badValue

/-- Millionths from the digits of a fraction; further digits do not count. -/
def millionths (digits : List Char) : Nat :=
  let six := digits.take 6
  (six ++ List.replicate (6 - six.length) '0').foldl (fun n c => 10 * n + (c.toNat - 48)) 0

/-- A zone less than a day away from universal time. -/
def zoneOf (seconds : Int) : Except Failure Zone :=
  if seconds = 0 then .ok .universal
  else if -86400 < seconds ∧ seconds < 86400 then .ok (.offset seconds)
  else .error .badValue

/-- The day or moment of a text. -/
def stampOf (text : String) : Except Failure Value :=
  match stamp? (withoutLastBreak text.toList) with
  | none => .error .noSuchOperation
  | some s => do
    match s.time with
    | none => return .date (← dayOf s)
    | some (hour, minute, second, fraction, ahead) =>
      let zone ← ahead.mapM zoneOf
      let date ← dayOf s
      if hour < 24 ∧ minute < 60 ∧ second < 60 then
        return .moment ⟨date, hour, minute, second, millionths fraction, zone⟩
      throw .badValue

/-- The value of a character in base sixty-four. -/
def base64Value? (c : Char) : Option Nat :=
  if 'A' ≤ c && c ≤ 'Z' then some (c.toNat - 65)
  else if 'a' ≤ c && c ≤ 'z' then some (c.toNat - 71)
  else if isDecimal c then some (c.toNat + 4)
  else if c == '+' then some 62
  else if c == '/' then some 63
  else none

/-- Bytes from characters in base sixty-four. `count` characters of the present group of four
have been read, `bits` is what is left of them, and `pads` equals signs have followed.
Other characters are ignored; the end is where a group is complete or filled up. -/
def base64Bytes (count bits pads : Nat) : List Char → Option (List UInt8)
  | [] => if count = 0 then some [] else none
  | c :: cs =>
    if c = '=' then
      if 2 ≤ count then
        if 4 ≤ count + pads + 1 then some [] else base64Bytes count bits (pads + 1) cs
      else base64Bytes count bits pads cs
    else match base64Value? c with
      | none => base64Bytes count bits pads cs
      | some v =>
        let bits := bits * 64 + v
        match count with
        | 0 => base64Bytes 1 v 0 cs
        | 1 => (base64Bytes 2 (bits % 16) 0 cs).map (UInt8.ofNat (bits / 16) :: ·)
        | 2 => (base64Bytes 3 (bits % 4) 0 cs).map (UInt8.ofNat (bits / 4) :: ·)
        | _ => (base64Bytes 0 0 0 cs).map (UInt8.ofNat bits :: ·)

/-- The bytes of a text. -/
def bytesOf (text : String) : Except Failure Value :=
  if text.toList.all (·.toNat < 128) then
    match base64Bytes 0 0 0 text.toList with
    | some bytes => .ok (.bytes bytes)
    | none => .error .malformedDocument
  else .error .malformedDocument

end Yaml

end Brainfuck
