/-!
# Commands

A program is written with eight characters; every other character of a text is a
comment. Six of the characters act on the machine (`Brainfuck.Action`), the two
brackets delimit loops, and `Brainfuck.Command` is their disjoint union.

The passes that shorten a program and the bracket matcher are stated over any alphabet
some of whose letters stand for commands (`Brainfuck.Symbol`), so that one definition
serves both a list of commands and a raw text with its comments still in it. All they need
to know about a letter is which command it stands for; that no two letters stand for
the same one is what makes a deletion of neighbouring letters confluent.
-/

namespace Brainfuck

/-- What a command other than a bracket does. -/
inductive Action where
  /-- Move the pointer one cell to the right. -/
  | right
  /-- Move the pointer one cell to the left. -/
  | left
  /-- Add one to the current cell. -/
  | increment
  /-- Subtract one from the current cell. -/
  | decrement
  /-- Write the current cell to the output. -/
  | write
  /-- Read a byte of the input into the current cell. -/
  | read
deriving DecidableEq

/-- A command: an action on the machine, or one of the two ends of a loop. -/
inductive Command where
  /-- One of the six actions. -/
  | act (action : Action)
  /-- The start of a loop. -/
  | opening
  /-- The end of a loop. -/
  | closing
deriving DecidableEq

namespace Action

/-- The action that undoes this one. Only movements and arithmetic can be undone. -/
def inverse? : Action → Option Action
  | right => some left
  | left => some right
  | increment => some decrement
  | decrement => some increment
  | write => none
  | read => none

theorem inverse?_symm {a b : Action} (h : a.inverse? = some b) : b.inverse? = some a := by
  cases a <;> cases b <;> simp_all [inverse?]

end Action

namespace Command

/-- The character that stands for a command. -/
def toChar : Command → Char
  | act .right => '>'
  | act .left => '<'
  | act .increment => '+'
  | act .decrement => '-'
  | act .write => '.'
  | act .read => ','
  | opening => '['
  | closing => ']'

/-- The command that a character stands for; a comment stands for none. -/
def ofChar? : Char → Option Command
  | '>' => some (act .right)
  | '<' => some (act .left)
  | '+' => some (act .increment)
  | '-' => some (act .decrement)
  | '.' => some (act .write)
  | ',' => some (act .read)
  | '[' => some opening
  | ']' => some closing
  | _ => none

@[simp] theorem ofChar?_toChar (c : Command) : ofChar? c.toChar = some c := by
  cases c with
  | act a => cases a <;> rfl
  | opening => rfl
  | closing => rfl

theorem toChar_of_ofChar? {x : Char} {c : Command} (h : ofChar? x = some c) : c.toChar = x := by
  unfold ofChar? at h
  split at h <;> cases h <;> rfl

/-- Whether a command delimits a loop. -/
def isBracket : Command → Bool
  | act _ => false
  | opening => true
  | closing => true

/-- Whether two neighbouring commands undo each other. Brackets never do. -/
def cancels : Command → Command → Bool
  | act a, act b => a.inverse? == some b
  | _, _ => false

/-- The commands of a text, in order, its comments dropped. -/
def ofText (text : String) : List Command :=
  text.toList.filterMap ofChar?

/-- A list of commands as a text. -/
def toText (commands : List Command) : String :=
  String.ofList (commands.map toChar)

/-- Dropping the comments of a text that has none changes nothing. -/
@[simp] theorem ofText_toText (commands : List Command) : ofText (toText commands) = commands := by
  rw [ofText, toText, String.toList_ofList]
  induction commands with
  | nil => rfl
  | cons c rest ih => rw [List.map_cons, List.filterMap_cons, ofChar?_toChar, ih]

end Command

/-- An alphabet some of whose letters stand for commands, each command having at most
one letter. -/
class Symbol (α : Type) where
  /-- The command a letter stands for. -/
  command? : α → Option Command
  /-- A command has at most one letter. -/
  eq_of_command? : ∀ {a b : α} {c : Command}, command? a = some c → command? b = some c → a = b

instance : Symbol Char where
  command? := Command.ofChar?
  eq_of_command? ha hb := (Command.toChar_of_ofChar? ha).symm.trans (Command.toChar_of_ofChar? hb)

instance : Symbol Command where
  command? := some
  eq_of_command? ha hb := (Option.some.inj ha).trans (Option.some.inj hb).symm

namespace Symbol

variable {α : Type} [Symbol α]

/-- Whether a letter stands for a bracket. -/
def isBracket (a : α) : Bool :=
  (command? a).any Command.isBracket

/-- Whether two neighbouring letters stand for commands that undo each other. -/
def cancels (a b : α) : Bool :=
  match command? a, command? b with
  | some c, some d => c.cancels d
  | _, _ => false

end Symbol

end Brainfuck
