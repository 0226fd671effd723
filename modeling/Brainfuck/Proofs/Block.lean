import Brainfuck.Program

/-!
# Blocks: the structure behind the brackets

A balanced text is a sequence of actions and loops, and the body of a loop is such a
sequence again. `Brainfuck.Block` is this tree. It is over any type `ι` of things that can
stand at the place of an action: an action in a program as it is written, an action with a
number of times (`Action × Nat`) in one whose runs are folded.

A block determines everything that is computed from its text by position:

| from a block | what it is |
|---|---|
| `Brainfuck.Block.commands`, `Brainfuck.Block.runs` | its text, plain or folded |
| `Brainfuck.Block.partnersAt` | the table of the partners of its brackets |
| `Brainfuck.Block.instructionsAt` | its instructions |

The last two depend on the position of the block in the program, since a jump goes to
an absolute position. A block also determines its folded form, `Brainfuck.Block.fold`.
-/

namespace Brainfuck

/-- A sequence of actions and loops. -/
inductive Block (ι : Type) where
  /-- Nothing. -/
  | nil
  /-- An action, and what follows it. -/
  | act (x : ι) (rest : Block ι)
  /-- A loop, and what follows it. -/
  | loop (body rest : Block ι)

namespace Block

variable {ι κ : Type}

/-- The number of letters of a block: one for each action, two for each loop. -/
def size : Block ι → Nat
  | nil => 0
  | act _ rest => rest.size + 1
  | loop body rest => body.size + rest.size + 2

/-- The block with its actions replaced. -/
def map (f : ι → κ) : Block ι → Block κ
  | nil => nil
  | act x rest => act (f x) (rest.map f)
  | loop body rest => loop (body.map f) (rest.map f)

@[simp] theorem size_map (f : ι → κ) (b : Block ι) : (b.map f).size = b.size := by
  induction b with
  | nil => rfl
  | act x rest ih => rw [map, size, size, ih]
  | loop body rest ihb ihr => rw [map, size, size, ihb, ihr]

/-- The two blocks one after the other. -/
def append : Block ι → Block ι → Block ι
  | nil, c => c
  | act x rest, c => act x (rest.append c)
  | loop body rest, c => loop body (rest.append c)

@[simp] theorem append_nil (b : Block ι) : b.append nil = b := by
  induction b with
  | nil => rfl
  | act x rest ih => rw [append, ih]
  | loop body rest _ ih => rw [append, ih]

/-! ### The text of a block -/

/-- The commands of a block. -/
def commands : Block Action → List Command
  | nil => []
  | act a rest => .act a :: rest.commands
  | loop body rest => .opening :: (body.commands ++ .closing :: rest.commands)

/-- The runs of a folded block. -/
def runs : Block (Action × Nat) → List (Command × Nat)
  | nil => []
  | act (a, n) rest => (.act a, n) :: rest.runs
  | loop body rest => (.opening, 1) :: (body.runs ++ (.closing, 1) :: rest.runs)

@[simp] theorem length_runs (b : Block (Action × Nat)) : b.runs.length = b.size := by
  induction b with
  | nil => rfl
  | act x rest ih => simp [runs, size, ih]
  | loop body rest ihb ihr =>
    simp only [runs, size, List.length_cons, List.length_append, ihb, ihr]
    omega

/-- The first components of the runs of a block are its commands without the numbers. -/
theorem map_fst_runs (b : Block (Action × Nat)) :
    b.runs.map Prod.fst = (b.map Prod.fst).commands := by
  induction b with
  | nil => rfl
  | act x rest ih => simp [runs, map, commands, ih]
  | loop body rest ihb ihr => simp [runs, map, commands, ihb, ihr]

/-- A block in which every action is performed once has the runs of a plain text. -/
theorem runs_map_once (b : Block Action) : (b.map (·, 1)).runs = b.commands.map (·, 1) := by
  induction b with
  | nil => rfl
  | act a rest ih => simp [runs, map, commands, ih]
  | loop body rest ihb ihr => simp [runs, map, commands, ihb, ihr]

/-! ### Positions -/

/-- The partners of the letters of a block that starts at position `i`. -/
def partnersAt : Nat → Block ι → List (Option Nat)
  | _, nil => []
  | i, act _ rest => none :: partnersAt (i + 1) rest
  | i, loop body rest =>
    some (i + 1 + body.size) ::
      (partnersAt (i + 1) body ++ some i :: partnersAt (i + 2 + body.size) rest)

/-- The instructions of a block that starts at position `i`. -/
def instructionsAt : Nat → Block (Action × Nat) → List Instruction
  | _, nil => []
  | i, act (a, n) rest => .perform a n :: instructionsAt (i + 1) rest
  | i, loop body rest =>
    .opening (i + 1 + body.size) ::
      (instructionsAt (i + 1) body ++ .closing i :: instructionsAt (i + 2 + body.size) rest)

/-- The program of a block. -/
def program (b : Block (Action × Nat)) : Program := ⟨(b.instructionsAt 0).toArray⟩

@[simp] theorem length_partnersAt (i : Nat) (b : Block ι) : (b.partnersAt i).length = b.size := by
  induction b generalizing i with
  | nil => rfl
  | act x rest ih => simp [partnersAt, size, ih]
  | loop body rest ihb ihr =>
    simp only [partnersAt, size, List.length_cons, List.length_append, ihb, ihr]
    omega

@[simp] theorem length_instructionsAt (i : Nat) (b : Block (Action × Nat)) :
    (b.instructionsAt i).length = b.size := by
  induction b generalizing i with
  | nil => rfl
  | act x rest ih => simp [instructionsAt, size, ih]
  | loop body rest ihb ihr =>
    simp only [instructionsAt, size, List.length_cons, List.length_append, ihb, ihr]
    omega

@[simp] theorem size_program (b : Block (Action × Nat)) : b.program.size = b.size := by
  simp [program, Program.size]

/-- Partners are a matter of positions alone. -/
@[simp] theorem partnersAt_map (f : ι → κ) (i : Nat) (b : Block ι) :
    (b.map f).partnersAt i = b.partnersAt i := by
  induction b generalizing i with
  | nil => rfl
  | act x rest ih => rw [map, partnersAt, partnersAt, ih]
  | loop body rest ihb ihr => rw [map, partnersAt, partnersAt, ihb, ihr, size_map]

/-! ### Folding -/

/-- Put an action before a folded block, lengthening its first run if it is one of the same
action. -/
def consAction (a : Action) : Block (Action × Nat) → Block (Action × Nat)
  | act (b, n) rest => if a = b then act (b, n + 1) rest else act (a, 1) (act (b, n) rest)
  | nil => act (a, 1) nil
  | loop body rest => act (a, 1) (loop body rest)

/-- The block with its runs of equal actions folded. -/
def fold : Block Action → Block (Action × Nat)
  | nil => nil
  | act a rest => consAction a rest.fold
  | loop body rest => loop body.fold rest.fold

end Block

end Brainfuck
