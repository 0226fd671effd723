import Brainfuck.Command

/-!
# Cancelling inverse commands

Two neighbouring commands that undo each other can be deleted, and a deletion may
bring another such pair together. `Brainfuck.reduce` reaches the text in which no pair
is left in a single pass: it keeps the reduced form of the letters read so far as a
stack, and the next letter either cancels the top of the stack or is put on it.
-/

namespace Brainfuck

variable {α : Type} [Symbol α]

/-- Read one more letter after a reduced text whose letters are given last first. -/
def cancelLast (reversed : List α) (a : α) : List α :=
  match reversed with
  | [] => [a]
  | last :: earlier => if Symbol.cancels last a then earlier else a :: reversed

/-- Delete neighbouring letters that undo each other until there are none. -/
def reduce (text : List α) : List α :=
  (text.foldl cancelLast []).reverse

end Brainfuck
