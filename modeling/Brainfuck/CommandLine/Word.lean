import Brainfuck.CommandLine.Switch
import Brainfuck.Text.Digit
import Brainfuck.Text.Quoted

/-!
# The words of the command line

Each word of a command line is a plain word, a switch, or a word that looks like a switch
but is none. What it is depends on the word alone, except that nothing is a switch after
the separator, two dashes.

A word that starts with a dash is read by the first of these rules that applies.

* It is the spelling of a switch.
* It is a dash alone, which is a plain word.
* It is the spelling of a switch, an equals sign and a value.
* It starts with two dashes, and the part before the first equals sign, if there is one,
  begins the long spelling of exactly one switch. If it begins more than one, the command
  line is refused.
* It starts with one dash and the letter of a switch. The rest is the value of the switch,
  or more letters.
* It is a negative number, or contains a space. Then it is a plain word.
* Otherwise it is a switch that nobody knows.
-/

namespace Brainfuck

namespace CommandLine

/-- Why a command line is refused. -/
inductive UsageError where
  /-- A word abbreviates more than one switch. -/
  | ambiguous (word : String) (candidates : List Switch)
  /-- A switch lacks its value. -/
  | valueMissing (switch : Switch)
  /-- A flag was given a value. -/
  | valueIgnored (switch : Switch) (value : String)
  /-- The value of a switch is not a whole number. -/
  | notInteger (switch : Switch) (value : String)
  /-- The value of a switch is not one of those that there are. -/
  | noSuchChoice (switch : Switch) (value : String) (choices : List String)
  /-- Nobody knows what these words are for. -/
  | unrecognized (words : List String)
  /-- There is no program. -/
  | nothingToRun

/-- The wording of a usage error. -/
def UsageError.message : UsageError → String
  | ambiguous word candidates =>
    "ambiguous option: " ++ word ++ " could match "
      ++ ", ".intercalate (candidates.map Switch.longSpelling)
  | valueMissing s => about s "expected one argument"
  | valueIgnored s value => about s ("ignored explicit argument " ++ Text.quoted value)
  | notInteger s value => about s ("invalid int value: " ++ Text.quoted value)
  | noSuchChoice s value choices =>
    about s ("invalid choice: " ++ Text.quoted value ++ " (choose from "
      ++ ", ".intercalate (choices.map Text.quoted) ++ ")")
  | unrecognized words => "unrecognized arguments: " ++ " ".intercalate words
  | nothingToRun => "a program file or -e CODE is required"
where
  about (s : Switch) (text : String) : String := "argument " ++ s.display ++ ": " ++ text

/-- A word of the command line. -/
inductive Word where
  /-- A plain word. -/
  | plain (text : String)
  /-- The word after which there are no more switches. -/
  | separator
  /-- A switch in its short or long spelling, with the rest of the word. -/
  | switch (switch : Switch) (isShort : Bool) (rest : Option String)
  /-- A switch that nobody knows. -/
  | unknown (text : String)

namespace Word

/-- The text of the separator. -/
def separatorText : String := "--"

/-- Whether characters are one digit or more, and nothing else. -/
def areDigits (cs : List Char) : Bool :=
  !cs.isEmpty && cs.all fun c => (Text.digitValue? c).isSome

/-- Whether the characters after a dash make it a negative number: digits, or a fraction whose
whole part may be missing. A line feed at the end does not matter. -/
def isNumber (cs : List Char) : Bool :=
  let cs := if cs.getLast? = some '\n' then cs.dropLast else cs
  let (whole, rest) := cs.span (· ≠ '.')
  match rest with
  | [] => areDigits whole
  | _ :: fraction => (whole.isEmpty || areDigits whole) && areDigits fraction

/-- The characters before the first equals sign, and those after it if there is one. -/
def splitAtEquals (cs : List Char) : List Char × Option (List Char) :=
  match cs.span (· ≠ '=') with
  | (before, []) => (before, none)
  | (before, _ :: after) => (before, some after)

/-- A word that is no switch although it starts with a dash. -/
def ofUnmatched (text : String) : Word :=
  if isNumber text.toList.tail || ' ' ∈ text.toList then plain text else unknown text

/-- A word that starts with a dash and the character `second`. -/
def ofDashed (text : String) (second : Char) (rest : List Char) : Except UsageError Word :=
  let isShort := decide (second ≠ '-')
  let (before, value) := splitAtEquals text.toList
  let beginning := String.ofList before
  let value := value.map String.ofList
  match Switch.ofSpelling? text, value.bind fun _ => Switch.ofSpelling? beginning with
  | some s, _ => .ok (switch s isShort none)
  | none, some s => .ok (switch s isShort value)
  | none, none =>
    if isShort then
      match Switch.ofLetter? second with
      | some s => .ok (switch s true (some (String.ofList rest)))
      | none => .ok (ofUnmatched text)
    else
      match Switch.withBeginning beginning with
      | [] => .ok (ofUnmatched text)
      | [s] => .ok (switch s false value)
      | candidates => .error (.ambiguous text candidates)

/-- What a word before the separator is. -/
def ofText (text : String) : Except UsageError Word :=
  match text.toList with
  | '-' :: second :: rest => ofDashed text second rest
  | _ => .ok (plain text)

/-- What the words of a command line are. -/
def ofTexts : List String → Except UsageError (List Word)
  | [] => .ok []
  | text :: rest =>
    if text = separatorText then .ok (separator :: rest.map plain)
    else do return (← ofText text) :: (← ofTexts rest)

end Word

end CommandLine

end Brainfuck
