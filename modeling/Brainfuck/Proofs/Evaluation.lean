import Brainfuck.Arguments
import Brainfuck.Proofs.Block
import Brainfuck.Proofs.Tape

/-!
# What a block means

The meaning of a program with no program counter in it. A `Brainfuck.Machine` is what a program
works on: a tape with a pointer, the input that is left, and the output so far. An
action changes it or is stuck (`Brainfuck.Machine.perform`), which only happens to a read
that finds no input, and only if that is to be an error.

`Brainfuck.Block.Eval` is the structural meaning of a block: actions happen in order, and a loop
is entered again and again while the current cell is not zero. It tells three things apart:
the block is done, it is stuck, or it has been cut off between two steps. The last of them is
what makes the relation total: whatever the number of steps, a block is cut off after
them or has come to an end before (`Brainfuck.Block.exists_eval`), so that a program that runs
forever has a meaning as well.

Steps are counted as the machine counts them: one for each action, and one for each test
of a loop. The first of these tests is that of the opening bracket, the others are those
of the closing bracket.
-/

namespace Brainfuck

/-- What a program works on. -/
@[ext] structure Machine where
  /-- The tape. -/
  tape : Tape
  /-- The position of the current cell. -/
  pointer : Nat
  /-- The current cell is on the tape. -/
  pointer_lt : pointer < tape.size
  /-- The input that is left. -/
  input : List UInt8
  /-- The output so far. -/
  output : List UInt8

namespace Machine

/-- A blank tape, and all input still to be read. -/
def start (length : TapeLength) (input : List UInt8) : Machine where
  tape := .blank length
  pointer := 0
  pointer_lt := by simpa using length.pos
  input
  output := []

/-- The byte in the current cell. -/
def cell (m : Machine) : UInt8 := m.tape.cell m.pointer

/-- Store a byte in the current cell. -/
def store (m : Machine) (b : UInt8) : Machine :=
  { m with tape := m.tape.put m.pointer b, pointer_lt := by simpa using m.pointer_lt }

/-- Go to a cell, counting around the circle. -/
def goTo (m : Machine) (p : Nat) : Machine :=
  { m with pointer := p % m.tape.size, pointer_lt := Nat.mod_lt _ m.tape.size_pos }

/-- Perform an action. An action that is stuck leaves the machine as it is. -/
def perform (mode : EndMode) (a : Action) (m : Machine) : Except Machine Machine :=
  match a with
  | .right => .ok (m.goTo (m.pointer + 1))
  | .left => .ok (m.goTo (m.pointer + (m.tape.size - 1)))
  | .increment => .ok (m.store (m.cell + 1))
  | .decrement => .ok (m.store (m.cell - 1))
  | .write => .ok { m with output := m.output ++ [m.cell] }
  | .read =>
    match m.input, mode with
    | b :: rest, _ => .ok ({ m with input := rest }.store b)
    | [], .keep => .ok m
    | [], .zero => .ok (m.store 0)
    | [], .error => .error m

/-- Do something a number of times, as long as it is not stuck. -/
def iterate (f : Machine → Except Machine Machine) : Nat → Machine → Except Machine Machine
  | 0, m => .ok m
  | n + 1, m => f m >>= iterate f n

/-- Perform an action a number of times. The actions before the one that is stuck have been
performed. -/
def performRun (mode : EndMode) (r : Action × Nat) : Machine → Except Machine Machine :=
  iterate (perform mode r.1) r.2

/-! ### Moves and additions

Four of the actions are moves and additions by one. Moves add up and so do additions, which
is why an action is undone by its inverse and why it can be repeated in one go. -/

/-- Move along the circle. -/
def move (m : Machine) (n : Int) : Machine :=
  { m with pointer := m.tape.shift m.pointer n, pointer_lt := m.tape.shift_lt _ _ }

/-- Add a number to the current cell. -/
def add (m : Machine) (n : Int) : Machine :=
  { m with tape := m.tape.bump m.pointer n, pointer_lt := by simpa using m.pointer_lt }

@[simp] theorem move_move (m : Machine) (a b : Int) : (m.move a).move b = m.move (a + b) :=
  Machine.ext rfl (m.tape.shift_shift m.pointer a b) rfl rfl

@[simp] theorem move_zero (m : Machine) : m.move 0 = m :=
  Machine.ext rfl (Tape.shift_zero m.pointer_lt) rfl rfl

@[simp] theorem add_add (m : Machine) (a b : Int) : (m.add a).add b = m.add (a + b) :=
  Machine.ext (Tape.bump_bump m.pointer_lt a b) rfl rfl rfl

@[simp] theorem add_zero (m : Machine) : m.add 0 = m :=
  Machine.ext (m.tape.bump_zero m.pointer) rfl rfl rfl

theorem perform_right (mode : EndMode) (m : Machine) : perform mode .right m = .ok (m.move 1) := by
  have hsum : (m.pointer : Int) + 1 = ((m.pointer + 1 : Nat) : Int) := rfl
  have h : (m.pointer + 1) % m.tape.size = m.tape.shift m.pointer 1 := by
    rw [Tape.shift, hsum, ← Int.natCast_emod, Int.toNat_natCast]
  exact congrArg Except.ok (Machine.ext rfl h rfl rfl)

theorem perform_left (mode : EndMode) (m : Machine) :
    perform mode .left m = .ok (m.move (-1)) := by
  have hpos : 0 < m.tape.size := m.tape.size_pos
  -- one to the left is one less than a whole turn to the right
  have hsum : (m.pointer : Int) + -1 + m.tape.size =
      ((m.pointer + (m.tape.size - 1) : Nat) : Int) := by
    omega
  have h : (m.pointer + (m.tape.size - 1)) % m.tape.size = m.tape.shift m.pointer (-1) := by
    rw [Tape.shift, ← Int.add_emod_right, hsum, ← Int.natCast_emod, Int.toNat_natCast]
  exact congrArg Except.ok (Machine.ext rfl h rfl rfl)

theorem perform_increment (mode : EndMode) (m : Machine) :
    perform mode .increment m = .ok (m.add 1) := rfl

theorem perform_decrement (mode : EndMode) (m : Machine) :
    perform mode .decrement m = .ok (m.add (-1)) := by
  have h : m.cell - 1 = m.tape.cell m.pointer + UInt8.ofInt (-1) := UInt8.sub_eq_add_neg _ _
  refine congrArg Except.ok (Machine.ext ?_ rfl rfl rfl)
  exact congrArg (m.tape.put m.pointer) h

/-- **An action is undone by its inverse**, and neither of the two writes. -/
theorem perform_inverse (mode : EndMode) {a b : Action} (h : a.inverse? = some b) (m : Machine) :
    ∃ m₁, perform mode a m = .ok m₁ ∧ m₁.output = m.output ∧ perform mode b m₁ = .ok m := by
  cases a with
  | right =>
    cases h
    exact ⟨_, perform_right mode m, rfl, by rw [perform_left, move_move]; simp⟩
  | left =>
    cases h
    exact ⟨_, perform_left mode m, rfl, by rw [perform_right, move_move]; simp⟩
  | increment =>
    cases h
    exact ⟨_, perform_increment mode m, rfl, by rw [perform_decrement, add_add]; simp⟩
  | decrement =>
    cases h
    exact ⟨_, perform_decrement mode m, rfl, by rw [perform_increment, add_add]; simp⟩
  | write => cases h
  | read => cases h

/-! ### Repetition -/

@[simp] theorem performRun_once (mode : EndMode) (a : Action) :
    performRun mode (a, 1) = perform mode a := by
  funext m
  rw [performRun, iterate]
  rcases perform mode a m <;> rfl

theorem iterate_move {f : Machine → Except Machine Machine} {d : Int}
    (hf : ∀ m, f m = .ok (m.move d)) (n : Nat) (m : Machine) :
    iterate f n m = .ok (m.move (n * d)) := by
  induction n generalizing m with
  | zero => simp [iterate]
  | succ n ih =>
    rw [iterate, hf]
    refine (ih (m.move d)).trans ?_
    rw [move_move, Int.natCast_succ, Int.add_mul, Int.one_mul, Int.add_comm]

theorem iterate_add {f : Machine → Except Machine Machine} {d : Int}
    (hf : ∀ m, f m = .ok (m.add d)) (n : Nat) (m : Machine) :
    iterate f n m = .ok (m.add (n * d)) := by
  induction n generalizing m with
  | zero => simp [iterate]
  | succ n ih =>
    rw [iterate, hf]
    refine (ih (m.add d)).trans ?_
    rw [add_add, Int.natCast_succ, Int.add_mul, Int.one_mul, Int.add_comm]

theorem iterate_write (mode : EndMode) (n : Nat) (m : Machine) :
    iterate (perform mode .write) n m =
      .ok { m with output := m.output ++ List.replicate n m.cell } := by
  induction n generalizing m with
  | zero => simp [iterate]
  | succ n ih =>
    rw [iterate]
    refine (ih _).trans ?_
    simp [cell, List.replicate_succ]

/-! ### Output only grows -/

/-- The machine after an action, stuck or not. -/
def resulting : Except Machine Machine → Machine
  | .ok m => m
  | .error m => m

/-- **No action takes output back.** -/
theorem output_prefix_perform (mode : EndMode) (a : Action) (m : Machine) :
    m.output <+: (resulting (perform mode a m)).output := by
  cases a with
  | write => exact List.prefix_append _ _
  | read =>
    rcases m with ⟨tape, pointer, hlt, _ | ⟨b, rest⟩, output⟩
    · cases mode <;> exact List.prefix_refl output
    · exact List.prefix_refl output
  | _ => exact List.prefix_refl _

theorem output_prefix_iterate {f : Machine → Except Machine Machine}
    (h : ∀ m, m.output <+: (resulting (f m)).output) (n : Nat) (m : Machine) :
    m.output <+: (resulting (iterate f n m)).output := by
  induction n generalizing m with
  | zero => exact List.prefix_refl _
  | succ n ih =>
    have hm := h m
    rw [iterate]
    rcases hf : f m with m' | m'
    · rw [hf] at hm
      exact hm
    · rw [hf] at hm
      exact hm.trans (ih m')

end Machine

/-- What has become of a block after a number of steps. -/
inductive Outcome where
  /-- It is done. -/
  | done (m : Machine)
  /-- It is stuck. -/
  | stuck (m : Machine)
  /-- It has been cut off before a step. -/
  | cut (m : Machine)

namespace Outcome

/-- The machine at the end. -/
def machine : Outcome → Machine
  | done m => m
  | stuck m => m
  | cut m => m

/-- Whether the block is done. -/
def isDone : Outcome → Bool
  | done _ => true
  | stuck _ | cut _ => false

/-- Whether the block has been cut off. -/
def isCut : Outcome → Bool
  | cut _ => true
  | done _ | stuck _ => false

end Outcome

namespace Block

variable {ι κ : Type} {perform : ι → Machine → Except Machine Machine}

/-- **The meaning of a block**: what has become of it, starting with a machine, after a number
of steps. -/
inductive Eval (perform : ι → Machine → Except Machine Machine) :
    Block ι → Machine → Nat → Outcome → Prop
  /-- Nothing is done at once. -/
  | nil {m : Machine} : Eval perform nil m 0 (.done m)
  /-- An action that is not stuck. -/
  | act {x : ι} {rest : Block ι} {m m₁ : Machine} {k : Nat} {r : Outcome} :
    perform x m = .ok m₁ → Eval perform rest m₁ k r → Eval perform (act x rest) m (k + 1) r
  /-- An action that is stuck. -/
  | stuck {x : ι} {rest : Block ι} {m m₁ : Machine} :
    perform x m = .error m₁ → Eval perform (act x rest) m 0 (.stuck m₁)
  /-- A loop is over when the current cell is zero. -/
  | skip {body rest : Block ι} {m : Machine} {k : Nat} {r : Outcome} :
    m.cell = 0 → Eval perform rest m k r → Eval perform (loop body rest) m (k + 1) r
  /-- Otherwise its body is executed, and then the loop again. -/
  | again {body rest : Block ι} {m m₁ : Machine} {j k : Nat} {r : Outcome} :
    m.cell ≠ 0 → Eval perform body m j (.done m₁) → Eval perform (loop body rest) m₁ k r →
      Eval perform (loop body rest) m (j + 1 + k) r
  /-- The body need not get to its end. -/
  | inside {body rest : Block ι} {m : Machine} {k : Nat} {r : Outcome} :
    m.cell ≠ 0 → Eval perform body m k r → r.isDone = false →
      Eval perform (loop body rest) m (k + 1) r
  /-- What starts with an action can be cut off before it. -/
  | cutAct {x : ι} {rest : Block ι} {m : Machine} : Eval perform (act x rest) m 0 (.cut m)
  /-- What starts with a loop can be cut off before its test. -/
  | cutLoop {body rest : Block ι} {m : Machine} : Eval perform (loop body rest) m 0 (.cut m)

/-- **Every block has a meaning for every number of steps**: it comes to an end within them,
or it is cut off after all of them. -/
theorem exists_eval (perform : ι → Machine → Except Machine Machine) (n : Nat) (b : Block ι)
    (m : Machine) :
    ∃ k r, Eval perform b m k r ∧ k ≤ n ∧ (r.isCut = true → k = n) := by
  induction n using Nat.strongRecOn generalizing b m with
  | ind n ih =>
    cases b with
    | nil => exact ⟨0, _, .nil, Nat.zero_le n, nofun⟩
    | act x rest =>
      rcases n with _ | n
      · exact ⟨0, _, .cutAct, Nat.le_refl 0, fun _ => rfl⟩
      rcases hx : perform x m with m₁ | m₁
      · exact ⟨0, _, .stuck hx, Nat.zero_le _, nofun⟩
      · obtain ⟨k, r, hr, hk, hcut⟩ := ih n (Nat.lt_succ_self n) rest m₁
        exact ⟨k + 1, r, .act hx hr, Nat.succ_le_succ hk, fun h => congrArg (· + 1) (hcut h)⟩
    | loop body rest =>
      rcases n with _ | n
      · exact ⟨0, _, .cutLoop, Nat.le_refl 0, fun _ => rfl⟩
      by_cases hm : m.cell = 0
      · obtain ⟨k, r, hr, hk, hcut⟩ := ih n (Nat.lt_succ_self n) rest m
        exact ⟨k + 1, r, .skip hm hr, Nat.succ_le_succ hk, fun h => congrArg (· + 1) (hcut h)⟩
      obtain ⟨j, r, hr, hj, hcut⟩ := ih n (Nat.lt_succ_self n) body m
      rcases hdone : r.isDone with _ | _
      · exact ⟨j + 1, r, .inside hm hr hdone, Nat.succ_le_succ hj,
          fun h => congrArg (· + 1) (hcut h)⟩
      -- the body is done, and the loop goes on with the steps that are left
      rcases r with m₁ | m₁ | m₁
      · obtain ⟨k, r, hr', hk, hcut'⟩ := ih (n - j) (by omega) (loop body rest) m₁
        exact ⟨j + 1 + k, r, .again hm hr hr', by omega, fun h => by have := hcut' h; omega⟩
      · cases hdone
      · cases hdone

/-! ### Renaming -/

/-- Replacing the actions of a block by others that do the same changes nothing. -/
theorem Eval.map {f : ι → κ} {perform' : κ → Machine → Except Machine Machine}
    (hf : ∀ x, perform' (f x) = perform x) {b : Block ι} {m : Machine} {k : Nat} {r : Outcome}
    (h : Eval perform b m k r) : Eval perform' (b.map f) m k r := by
  induction h with
  | nil => exact .nil
  | act hx _ ih => exact .act (by rw [hf]; exact hx) ih
  | stuck hx => exact .stuck (by rw [hf]; exact hx)
  | skip hm _ ih => exact .skip hm ih
  | again hm _ _ ihb ihl => exact .again hm ihb ihl
  | inside hm _ hr ih => exact .inside hm ih hr
  | cutAct => exact .cutAct
  | cutLoop => exact .cutLoop

theorem Eval.of_map {f : ι → κ} {perform' : κ → Machine → Except Machine Machine}
    (hf : ∀ x, perform' (f x) = perform x) {b : Block ι} {m : Machine} {k : Nat} {r : Outcome}
    (h : Eval perform' (b.map f) m k r) : Eval perform b m k r := by
  generalize hc : b.map f = c at h
  induction h generalizing b with
  | nil =>
    cases b <;> cases hc
    exact .nil
  | act hx _ ih =>
    cases b <;> cases hc
    exact .act (by rw [← hf]; exact hx) (ih rfl)
  | stuck hx =>
    cases b <;> cases hc
    exact .stuck (by rw [← hf]; exact hx)
  | skip hm _ ih =>
    cases b <;> cases hc
    exact .skip hm (ih rfl)
  | again hm _ _ ihb ihl =>
    cases b <;> cases hc
    exact .again hm (ihb rfl) (ihl rfl)
  | inside hm _ hr ih =>
    cases b <;> cases hc
    exact .inside hm (ih rfl) hr
  | cutAct =>
    cases b <;> cases hc
    exact .cutAct
  | cutLoop =>
    cases b <;> cases hc
    exact .cutLoop

/-- A plain block means the same with every action performed once. -/
theorem eval_map_once {mode : EndMode} {b : Block Action} {m : Machine} {k : Nat} {r : Outcome} :
    Eval (Machine.performRun mode) (b.map (·, 1)) m k r ↔ Eval (Machine.perform mode) b m k r :=
  ⟨Eval.of_map fun a => Machine.performRun_once mode a,
    Eval.map fun a => Machine.performRun_once mode a⟩

end Block

end Brainfuck
