import Brainfuck.Program
import Brainfuck.Source
import Brainfuck.Sink
import Brainfuck.Tape

/-!
# Arguments of a session

A session is asked for by naming some of its options; whatever is not named has a
standard value. The options are still unchecked values here, and every way to make a
session checks them in its own order with the functions of this module.

Arguments can be laid over one another (`Brainfuck.Arguments.onto`): the upper layer wins
wherever it names an option.
-/

namespace Brainfuck

/-- What to do when a read finds no more input. -/
inductive EndMode where
  /-- Leave the cell as it is. -/
  | keep
  /-- Store zero. -/
  | zero
  /-- Stop with an error. -/
  | error
deriving DecidableEq

namespace EndMode

/-- The name of a mode. -/
def name : EndMode → String
  | keep => "keep"
  | zero => "zero"
  | error => "error"

/-- All modes. -/
def all : List EndMode := [keep, zero, error]

/-- The mode of a given name. -/
def ofName? (s : String) : Option EndMode := all.find? (·.name == s)

/-- The mode that a value names. -/
def ofValue (v : Value) : Except Failure EndMode :=
  let refused := Except.error (.about v fun text => .option (.unknownMode (all.map name) text))
  match v with
  | .text s => match ofName? s with
    | some mode => .ok mode
    | none => refused
  | _ => refused

end EndMode

/-- A bound on the number of steps of a run. -/
structure Cap where
  /-- The bound as it was given. -/
  given : Value
  /-- The greatest number of steps that does not exceed it, if there is one. -/
  limit : Option Nat

namespace Cap

/-- The bound that an unchecked value stands for. What counts as false and what is not
positive is no bound. -/
def ofValue (v : Value) : Except Failure (Option Cap) :=
  if !v.isTruthy then .ok none
  else match v with
    | .bool _ => .ok (some ⟨v, some 1⟩)
    | .int n => .ok (if 0 < n then some ⟨v, some n.toNat⟩ else none)
    | .float x =>
      match Decimal.Reading.ofFloat x with
      | .finite d => .ok (if d.negative then none else some ⟨v, some d.truncate.toNat⟩)
      | .infinite negative => .ok (if negative then none else some ⟨v, none⟩)
      | .zero _ | .notANumber => .ok none
    | _ => .error .wrongKind

/-- Whether a number of steps exceeds the bound. -/
def exceededBy (c : Cap) (steps : Nat) : Bool := c.limit.any (· < steps)

end Cap

/-- Whether a list occurs in another without gaps. -/
def occursIn (piece : List Char) : List Char → Bool
  | [] => piece.isEmpty
  | c :: rest => piece.isPrefixOf (c :: rest) || occursIn piece rest

/-- The characters of all commands. -/
def commandChars : List Char := ['>', '<', '+', '-', '.', ',', '[', ']']

/-- The commands of a piece of a program text that comes in pieces: a piece that is not a part
of the list of all commands is a comment. -/
def commandsOfPiece : Value → Except Failure (List Command)
  | .text s =>
    .ok (if occursIn s.toList commandChars then Command.ofText s else [])
  | _ => .error .wrongKind

/-- The commands of a program text, which may also come in pieces. -/
def commandsOfValue : Value → Except Failure (List Command)
  | .text s => .ok (Command.ofText s)
  | .list pieces => return (← pieces.mapM commandsOfPiece).flatten
  | .mapping entries => return (← entries.mapM fun e => commandsOfPiece e.1).flatten
  | _ => .error .wrongKind

/-- The options that were named, each with its unchecked value. -/
structure Arguments where
  /-- The program text. -/
  source : Option Value
  /-- The length of the tape. -/
  tapeLength : Option Value
  /-- Whether to optimize the program. -/
  optimize : Option Value
  /-- The bound on the number of steps. -/
  maxIterations : Option Value
  /-- Where input comes from. -/
  input : Option Input
  /-- Where output goes to. -/
  output : Option Output
  /-- What to do at the end of the input. -/
  eof : Option Value
  /-- Named options that do not exist. -/
  unknown : List String

namespace Arguments

/-- No option is named. -/
def empty : Arguments := ⟨none, none, none, none, none, none, none, []⟩

/-- The options of two layers, of which the upper one wins. -/
def onto (upper lower : Arguments) : Arguments where
  source := upper.source <|> lower.source
  tapeLength := upper.tapeLength <|> lower.tapeLength
  optimize := upper.optimize <|> lower.optimize
  maxIterations := upper.maxIterations <|> lower.maxIterations
  input := upper.input <|> lower.input
  output := upper.output <|> lower.output
  eof := upper.eof <|> lower.eof
  unknown := upper.unknown ++ lower.unknown

/-- The program text; none is the empty one. -/
def sourceValue (a : Arguments) : Value := a.source.getD (.text "")

/-- The length of the tape. -/
def tapeLengthValue (a : Arguments) : Value :=
  a.tapeLength.getD (.int TapeLength.standard.val)

/-- Whether to optimize; not unless asked for. -/
def optimizeValue (a : Arguments) : Value := a.optimize.getD (.bool false)

/-- The bound on the number of steps; none unless asked for. -/
def maxIterationsValue (a : Arguments) : Value := a.maxIterations.getD .null

/-- The input; none unless asked for. -/
def inputValue (a : Arguments) : Input := a.input.getD .none

/-- The output; discarded unless asked for. -/
def outputValue (a : Arguments) : Output := a.output.getD .none

/-- What to do at the end of the input; nothing unless asked for. -/
def eofValue (a : Arguments) : Value := a.eof.getD (.text EndMode.keep.name)

/-- Options that do not exist are refused. -/
def checkNames (a : Arguments) : Except Failure Unit :=
  if a.unknown.isEmpty then .ok () else .error .wrongKind

end Arguments

end Brainfuck
