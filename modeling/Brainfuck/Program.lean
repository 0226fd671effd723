import Brainfuck.Bracket
import Brainfuck.Error
import Brainfuck.Reduction
import Brainfuck.RunLength

/-!
# Programs

A program is a sequence of instructions. An instruction is an action with the number of
times it is performed, or a bracket with the position of its partner
(`Brainfuck.Instruction`).

Compiling a list of commands gives each command an instruction of its own. With
optimization, commands that undo each other are cancelled first and runs of equal
commands are folded into one instruction; brackets are matched on what is left, so a
position in an error or in a jump is one in the optimized program.
-/

namespace Brainfuck

/-- An instruction. -/
inductive Instruction where
  /-- Perform an action a number of times. -/
  | perform (action : Action) (times : Nat)
  /-- Enter a loop, or go past its end, which is at this position. -/
  | opening (partner : Nat)
  /-- Go back to the start of a loop, which is at this position, or leave it. -/
  | closing (partner : Nat)
deriving DecidableEq

namespace Instruction

/-- The command an instruction was made from. -/
def command : Instruction → Command
  | perform action _ => .act action
  | opening _ => .opening
  | closing _ => .closing

/-- The position of the partner of a bracket. -/
def jump? : Instruction → Option Nat
  | perform _ _ => none
  | opening partner => some partner
  | closing partner => some partner

/-- The number of commands an instruction stands for. -/
def times : Instruction → Nat
  | perform _ times => times
  | opening _ => 1
  | closing _ => 1

/-- The instruction for a command that occurs a number of times in a row, with the position
of its partner if it is a bracket. -/
def ofCommand (command : Command) (times : Nat) (partner : Option Nat) : Instruction :=
  match command with
  | .act action => perform action times
  | .opening => opening (partner.getD 0)
  | .closing => closing (partner.getD 0)

end Instruction

/-- A compiled program. -/
structure Program where
  /-- The instructions, in order. -/
  instructions : Array Instruction
deriving DecidableEq

/-- The runs of an optimized text, which must not be empty to begin with. -/
def optimize? {α : Type} [Symbol α] [DecidableEq α] (text : List α) :
    Except CompileError (List (α × Nat)) :=
  if text.isEmpty then .error .empty else .ok (runs (reduce text))

namespace Program

/-- The program without instructions. -/
def empty : Program := ⟨#[]⟩

/-- The number of instructions. -/
def size (p : Program) : Nat := p.instructions.size

/-- The instruction at a position. -/
def at? (p : Program) (pc : Nat) : Option Instruction := p.instructions[pc]?

/-- The instruction at a position that may also count from the end. -/
def atIndex? (p : Program) (index : Int) : Option Instruction :=
  if 0 ≤ index then p.at? index.toNat
  else if -(p.size : Int) ≤ index then p.at? (index + p.size).toNat
  else none

/-- The commands of a program, one for each instruction. -/
def code (p : Program) : List Command := p.instructions.toList.map Instruction.command

/-- The position of the partner of each instruction that has one. -/
def jumps (p : Program) : List (Option Nat) := p.instructions.toList.map Instruction.jump?

/-- The number of commands each instruction stands for. -/
def repeats (p : Program) : List Nat := p.instructions.toList.map Instruction.times

/-- The number of commands the whole program stands for. -/
def logicalSize (p : Program) : Nat := p.repeats.foldr (· + ·) 0

/-- The program for a list of runs of commands. The error is the position of the run that is a
bracket without a partner. -/
def ofRuns (runs : List (Command × Nat)) : Except Nat Program := do
  let partners ← Bracket.partners (runs.map Prod.fst)
  return ⟨(runs.zipWith (fun (c, n) partner => Instruction.ofCommand c n partner)
    partners.toList).toArray⟩

/-- The program for a list of commands. -/
def compile (commands : List Command) (optimize : Bool) : Except CompileError Program := do
  let runs ← if optimize then optimize? commands else pure (commands.map (·, 1))
  (ofRuns runs).mapError .unbalanced

end Program

end Brainfuck
