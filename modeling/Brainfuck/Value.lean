/-!
# Values of options

The options of a session come from outside: from a document, from environment variables,
from a caller. What arrives there is a `Brainfuck.Value`, and most of what follows
checks one and turns it into something with a type of its own.
-/

namespace Brainfuck

/-- A calendar day. -/
structure Date where
  /-- The year, 1 to 9999. -/
  year : Nat
  /-- The month, 1 to 12. -/
  month : Nat
  /-- The day of the month. -/
  day : Nat
deriving DecidableEq

/-- The distance of a clock from universal time. -/
inductive Zone where
  /-- Universal time itself. -/
  | universal
  /-- So many seconds ahead of universal time. -/
  | offset (seconds : Int)
deriving DecidableEq

/-- A day and a time of day. -/
structure Moment where
  /-- The day. -/
  date : Date
  /-- The hour, 0 to 23. -/
  hour : Nat
  /-- The minute, 0 to 59. -/
  minute : Nat
  /-- The second, 0 to 59. -/
  second : Nat
  /-- The millionths of a second. -/
  microsecond : Nat
  /-- The zone of the clock, if it is known. -/
  zone : Option Zone
deriving DecidableEq

/-- A value from outside. -/
inductive Value where
  /-- No value. -/
  | null
  /-- A truth value. -/
  | bool (b : Bool)
  /-- A whole number. -/
  | int (n : Int)
  /-- A floating-point number. -/
  | float (x : Float)
  /-- A text. -/
  | text (s : String)
  /-- A byte string. -/
  | bytes (b : List UInt8)
  /-- A day. -/
  | date (d : Date)
  /-- A day and a time of day. -/
  | moment (m : Moment)
  /-- A list. -/
  | list (items : List Value)
  /-- A pair, which occurs in ordered mappings. -/
  | pair (first second : Value)
  /-- A set, in the order in which it shows its members. -/
  | set (members : List Value)
  /-- A mapping, in the order in which its keys were given. -/
  | mapping (entries : List (Value × Value))
  /-- A list or a mapping again inside itself. -/
  | again (isMapping : Bool)
  /-- A list or a mapping that is nested too deeply to be written. -/
  | deep (isMapping : Bool)

namespace Value

/-- The name of the kind of a value, as messages give it. -/
def kindName : Value → String
  | null => "NoneType"
  | bool _ => "bool"
  | int _ => "int"
  | float _ => "float"
  | text _ => "str"
  | bytes _ => "bytes"
  | date _ => "date"
  | moment _ => "datetime"
  | list _ => "list"
  | pair _ _ => "tuple"
  | set _ => "set"
  | mapping _ => "dict"
  | again isMapping | deep isMapping => if isMapping then "dict" else "list"

/-- Whether a value counts as true: it does unless it is nothing, false, zero or empty. -/
def isTruthy : Value → Bool
  | null => false
  | bool b => b
  | int n => n != 0
  | float x => x != 0.0
  | text s => !s.isEmpty
  | bytes b => !b.isEmpty
  | list items => !items.isEmpty
  | set members => !members.isEmpty
  | mapping entries => !entries.isEmpty
  | date _ | moment _ | pair _ _ | again _ | deep _ => true

end Value

end Brainfuck
