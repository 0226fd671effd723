import Brainfuck.Command

/-!
# Runs of equal commands

A run of equal letters can be written as the letter with the length of the run.
Brackets are left out of this: each bracket is a run of its own, so that a loop keeps
its own pair of brackets. `Brainfuck.runs` writes a text as its list of runs and
`Brainfuck.expand` writes the runs out again.
-/

namespace Brainfuck

variable {α : Type}

/-- Put a letter before a list of runs, lengthening the first run if it is one of the same
letter. -/
def consRun [Symbol α] [DecidableEq α] (a : α) : List (α × Nat) → List (α × Nat)
  | [] => [(a, 1)]
  | (b, n) :: rest =>
    if a = b ∧ Symbol.isBracket a = false then (b, n + 1) :: rest else (a, 1) :: (b, n) :: rest

/-- The runs of a text, brackets apart: each bracket is a run of length one. -/
def runs [Symbol α] [DecidableEq α] (text : List α) : List (α × Nat) :=
  text.foldr consRun []

/-- The text that a list of runs stands for. -/
def expand (runs : List (α × Nat)) : List α :=
  runs.flatMap fun (a, n) => List.replicate n a

end Brainfuck
