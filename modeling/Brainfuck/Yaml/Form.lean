import Brainfuck.Yaml.Property
import Brainfuck.Yaml.Tag

/-!
# What the form of a plain text tells

A plain text without a tag is understood by its form: there are words for truth values
and for no value, whole numbers in bases two, eight, ten, sixteen and sixty, floating-point
numbers with a point, and days and moments. Everything else is a text.
-/

namespace Brainfuck

namespace Yaml

/-- Whether a character is an ASCII digit. -/
def isDecimal (c : Char) : Bool := '0' ≤ c && c ≤ '9'

/-- Whether a character is an ASCII digit or an underscore. -/
def isDecimalOrBar (c : Char) : Bool := isDecimal c || c == '_'

/-- The parts of a list between separators. -/
def parts (separator : Char) (cs : List Char) : List (List Char) :=
  cs.foldr (fun c ps => if c = separator then [] :: ps else match ps with
    | [] => [[c]]
    | p :: ps => (c :: p) :: ps) [[]]

/-- A list without a sign at its head. -/
def dropSign : List Char → List Char
  | '-' :: cs => cs
  | '+' :: cs => cs
  | cs => cs

/-- Whether a list is a digit satisfying `first` followed by digits and underscores. -/
def isDigitRun (first : Char → Bool) : List Char → Bool
  | [] => false
  | c :: cs => first c && cs.all isDecimalOrBar

/-- Whether a list is a digit in base sixty. -/
def isSixtieth : List Char → Bool
  | [c] => isDecimal c
  | [c, d] => '0' ≤ c && c ≤ '5' && isDecimal d
  | _ => false

/-- Whether a list is a number in base sixty of at least two digits. -/
def isSexagesimal (first : Char → Bool) (cs : List Char) : Bool :=
  match parts ':' cs with
  | head :: digit :: digits => isDigitRun first head && (digit :: digits).all isSixtieth
  | _ => false

/-- Whether a list is a nonempty list of characters that satisfy `p`. -/
def isRunOf (p : Char → Bool) (cs : List Char) : Bool := !cs.isEmpty && cs.all p

/-- The forms of whole numbers. -/
def isInteger (cs : List Char) : Bool :=
  let leading (c : Char) : Bool := '1' ≤ c && c ≤ '9'
  let unsigned := dropSign cs
  isDigitRun leading unsigned || isSexagesimal leading unsigned ||
  match unsigned with
  | ['0'] => true
  | '0' :: 'b' :: rest => isRunOf (fun c => c == '0' || c == '1' || c == '_') rest
  | '0' :: 'x' :: rest => isRunOf (fun c => c == '_' || (hexValue? c).isSome) rest
  | '0' :: rest => isRunOf (fun c => ('0' ≤ c && c ≤ '7') || c == '_') rest
  | _ => false

/-- What may follow the point of a floating-point number: digits and underscores, and an
exponent, which needs a sign. -/
def isFraction (cs : List Char) : Bool :=
  match cs.dropWhile isDecimalOrBar with
  | [] => true
  | e :: sign :: digits =>
    (e == 'e' || e == 'E') && (sign == '-' || sign == '+') && isRunOf isDecimal digits
  | _ => false

/-- The forms of floating-point numbers. -/
def isFloat (cs : List Char) : Bool :=
  let unsigned := dropSign cs
  let whole := unsigned.takeWhile (· != '.')
  match unsigned.dropWhile (· != '.') with
  | [] => false
  | _ :: rest =>
    (isDigitRun isDecimal whole && isFraction rest) ||
    (isSexagesimal isDecimal whole && rest.all isDecimalOrBar) ||
    (whole.isEmpty && rest ∈ [['i', 'n', 'f'], ['I', 'n', 'f'], ['I', 'N', 'F']]) ||
    (cs.head? == some '.' && ((rest.head?.any isDecimal && isFraction rest) ||
      rest ∈ [['n', 'a', 'n'], ['N', 'a', 'N'], ['N', 'A', 'N']]))

/-! ### Days and moments -/

/-- The parts of a day or moment as they are written. -/
structure Stamp where
  /-- Year, month and day. -/
  year : Nat
  /-- The month. -/
  month : Nat
  /-- The day of the month. -/
  day : Nat
  /-- Whether month and day are written with two digits. -/
  padded : Bool
  /-- Hour, minute, second, digits of the fraction, and seconds ahead of universal time. -/
  time : Option (Nat × Nat × Nat × List Char × Option Int)

/-- A number of `least` to `most` ASCII digits, the number of its digits, and the rest. -/
def digitsBetween (least most : Nat) (cs : List Char) : Option (Nat × Nat × List Char) :=
  let digits := cs.takeWhile isDecimal
  if least ≤ digits.length ∧ digits.length ≤ most then
    some (digits.foldl (fun n c => 10 * n + (c.toNat - 48)) 0, digits.length,
      cs.drop digits.length)
  else none

/-- What follows a given character. -/
def after (c : Char) : List Char → Option (List Char)
  | [] => none
  | d :: cs => if c = d then some cs else none

/-- The zone at the end of a moment, in seconds ahead of universal time. -/
def zone? (cs : List Char) : Option (Option Int) :=
  match cs.dropWhile isSpaceOrTab with
  | ['Z'] => some (some 0)
  | sign :: rest =>
    if sign = '-' ∨ sign = '+' then do
      let (hours, _, rest) ← digitsBetween 1 2 rest
      let minutes ← match rest with
        | [] => some 0
        | _ => do
          let (minutes, _, rest) ← digitsBetween 2 2 (← after ':' rest)
          if rest.isEmpty then some minutes else none
      let seconds : Int := hours * 3600 + minutes * 60
      return some (if sign = '-' then -seconds else seconds)
    else none
  | [] => if cs.isEmpty then some none else none

/-- The time after a day. -/
def time? (cs : List Char) : Option (Nat × Nat × Nat × List Char × Option Int) := do
  let cs ← match cs with
    | 'T' :: cs | 't' :: cs => some cs
    | c :: cs => if isSpaceOrTab c then some (cs.dropWhile isSpaceOrTab) else none
    | [] => none
  let (hour, _, cs) ← digitsBetween 1 2 cs
  let (minute, _, cs) ← digitsBetween 2 2 (← after ':' cs)
  let (second, _, cs) ← digitsBetween 2 2 (← after ':' cs)
  let (fraction, cs) := match cs with
    | '.' :: cs => (cs.takeWhile isDecimal, cs.dropWhile isDecimal)
    | cs => ([], cs)
  return (hour, minute, second, fraction, ← zone? cs)

/-- A day or moment. -/
def stamp? (cs : List Char) : Option Stamp := do
  let (year, _, cs) ← digitsBetween 4 4 cs
  let (month, m, cs) ← digitsBetween 1 2 (← after '-' cs)
  let (day, d, cs) ← digitsBetween 1 2 (← after '-' cs)
  let padded := m = 2 ∧ d = 2
  match cs with
  | [] => return ⟨year, month, day, padded, none⟩
  | _ => return ⟨year, month, day, padded, some (← time? cs)⟩

/-- The forms of days and moments. A day alone is written with two digits throughout. -/
def isStamp (cs : List Char) : Bool :=
  (stamp? cs).any fun s => s.padded || s.time.isSome

/-! ### The tag of a plain text -/

/-- The words for true. -/
def trueWords : List String := ["yes", "true", "on"]

/-- The words for false. -/
def falseWords : List String := ["no", "false", "off"]

/-- Whether a text is one of some words in lower case, with a capital, or in capitals. -/
def isSpelling (words : List String) (text : String) : Bool :=
  words.any fun w => text == w || text == w.capitalize || text == w.toUpper

/-- Single characters that have a form of their own, but no meaning. -/
def indicators : List String := ["!", "&", "*"]

/-- A text without a line feed at its end, which does not count in its form. -/
def withoutLastBreak (cs : List Char) : List Char :=
  if cs.length > 1 ∧ cs.getLast? = some '\n' then cs.dropLast else cs

/-- The tag that the form of a text tells. -/
def Tag.ofForm (text : String) : Tag :=
  let cs := withoutLastBreak text.toList
  let word := String.ofList cs
  if isSpelling (trueWords ++ falseWords) word then .bool
  else if isFloat cs then .float
  else if isInteger cs then .int
  else if word = "<<" then .merge
  else if isSpelling ["null"] word || word = "~" || word = "" then .null
  else if isStamp cs then .timestamp
  else if word = "=" then .value
  else if word ∈ indicators then .unknown
  else .str

end Yaml

end Brainfuck
