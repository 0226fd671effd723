import Brainfuck.Error
import Brainfuck.Value
import Brainfuck.Decimal.Shortest

/-!
# Values in messages

How a value is written where a message shows it: numbers in the shortest form, texts
between quotes, lists in square and mappings in curly brackets, in the order in which
their members were given. A list or mapping that contains itself is cut off with dots at
the second occurrence.

Not every value can be written. A whole number may have too many digits, and a list may be
nested too deeply. A failure that is about such a value is never made: what fails instead
is the attempt to write it (`Brainfuck.Failure.about`).
-/

namespace Brainfuck

/-- A zone in a message. -/
def Zone.literal : Zone → String
  | universal => "datetime.timezone.utc"
  | offset seconds =>
    let days := Int.fdiv seconds 86400
    let rest := Int.fmod seconds 86400
    let fields :=
      (if days = 0 then [] else ["days=" ++ toString days]) ++
      (if rest = 0 then [] else ["seconds=" ++ toString rest])
    "datetime.timezone(datetime.timedelta(" ++
      (if fields.isEmpty then "0" else ", ".intercalate fields) ++ "))"

/-- The numbers of a day. -/
def Date.fields (d : Date) : List String :=
  [d.year, d.month, d.day].map toString

/-- A day in a message. -/
def Date.literal (d : Date) : String :=
  "datetime.date(" ++ ", ".intercalate d.fields ++ ")"

/-- A moment in a message. Seconds and their fractions are left out when they are zero. -/
def Moment.literal (m : Moment) : String :=
  let late := if m.microsecond ≠ 0 then [toString m.second, toString m.microsecond]
    else if m.second ≠ 0 then [toString m.second] else []
  let zone := match m.zone with
    | some z => ["tzinfo=" ++ z.literal]
    | none => []
  "datetime.datetime(" ++
    ", ".intercalate (m.date.fields ++ [toString m.hour, toString m.minute] ++ late ++ zone) ++ ")"

namespace Value

/-- Texts between brackets, separated by commas. -/
def bracketed (left right : String) (items : List String) : String :=
  left ++ ", ".intercalate items ++ right

mutual

/-- A value in a message, or why it cannot be written. -/
def literal : Value → Except Failure String
  | null => .ok "None"
  | bool b => .ok (if b then "True" else "False")
  | int n => (Decimal.numeral? n).elim (.error .badValue) .ok
  | float x => .ok (Decimal.floatText x)
  | text s => .ok (Text.quoted s)
  | bytes b => .ok (Text.quotedBytes b)
  | date d => .ok d.literal
  | moment m => .ok m.literal
  | list items => return bracketed "[" "]" (← literals items)
  | pair first second => do
    let first ← literal first
    let second ← literal second
    return bracketed "(" ")" [first, second]
  | set members => do
    let members ← literals members
    return if members.isEmpty then "set()" else bracketed "\x7b" "\x7d" members
  | mapping entries => return bracketed "\x7b" "\x7d" (← entryLiterals entries)
  | again isMapping => .ok (if isMapping then "\x7b...\x7d" else "[...]")
  | deep _ => .error .tooDeep

/-- The members of a list in a message. -/
def literals : List Value → Except Failure (List String)
  | [] => .ok []
  | v :: vs => do
    let first ← literal v
    let rest ← literals vs
    return first :: rest

/-- The entries of a mapping in a message. -/
def entryLiterals : List (Value × Value) → Except Failure (List String)
  | [] => .ok []
  | (k, v) :: rest => do
    let key ← literal k
    let value ← literal v
    let rest ← entryLiterals rest
    return (key ++ ": " ++ value) :: rest

end

end Value

/-- The failure that is about a value. It shows the value, which must be written for it. -/
def Failure.about (v : Value) (failure : String → Failure) : Failure :=
  match v.literal with
  | .ok text => failure text
  | .error f => f

end Brainfuck
