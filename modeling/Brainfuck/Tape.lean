import Brainfuck.Value.Literal

/-!
# The tape

A tape is a circle of byte cells. Its length is fixed and positive, so moving along it by
any distance and adding any number to a cell always succeed: positions are taken modulo
the length and bytes modulo 256.

Positions that come from outside are not taken modulo the length. `Brainfuck.Tape.item?`
accepts only the positions from zero on, and the operations on a numbered cell accept
those and, counted back from the end, the negative ones down to minus the length.
-/

namespace Brainfuck

/-- The length of a tape: a positive number of cells. -/
structure TapeLength where
  /-- The number of cells. -/
  val : Nat
  /-- There is at least one. -/
  pos : 0 < val
deriving DecidableEq

namespace TapeLength

/-- The length of a tape when none is asked for. -/
def standard : TapeLength := ⟨30000, by decide⟩

/-- A positive whole number as a length. A truth value is no number here. -/
def ofValue : Value → Except Failure TapeLength
  | .int n =>
    if h : 0 < n then .ok ⟨n.toNat, by omega⟩ else .error (.about (.int n) .tapeLength)
  | v => .error (.about v .tapeLength)

end TapeLength

/-- What the machine has room for. Whether a tape fits into memory is not up to the program. -/
class Memory where
  /-- Why there can be no tape of a given length, if there can be none. -/
  refusal? : TapeLength → Option Failure
  /-- There is not enough memory for so many cells, or they could not even be numbered. -/
  refusal_cases : ∀ {length : TapeLength} {f : Failure}, refusal? length = some f →
    f = .outOfMemory ∨ f = .badValue

namespace Memory

/-- A memory for so many cells, on a machine that numbers them below a limit. -/
@[reducible] def ofSize (cells numbers : Nat) : Memory where
  refusal? length :=
    if length.val ≤ cells then none
    else if length.val < numbers then some .outOfMemory
    else some .badValue
  refusal_cases := by grind

/-- The memory of most machines: it is not without end, and 64 bits number what is in it. -/
@[reducible] def usual : Memory := ofSize (Nat.pow 2 38 - 1) (Nat.pow 2 63)

end Memory

/-- A circle of byte cells. -/
structure Tape where
  /-- The cells, in order. -/
  cells : Array UInt8
  /-- There is at least one. -/
  size_pos : 0 < cells.size

namespace Tape

/-- The number of cells. -/
def size (t : Tape) : Nat := t.cells.size

/-- The tape of a given length with zero in every cell. -/
def blank (length : TapeLength) : Tape :=
  ⟨Array.replicate length.val 0, by simpa using length.pos⟩

/-- The blank tape of a given length, if there can be a tape that long. -/
def blank? [Memory] (length : TapeLength) : Except Failure Tape :=
  match Memory.refusal? length with
  | none => .ok (blank length)
  | some f => .error f

/-- The tape of the same length with zero in every cell. -/
def reset (t : Tape) : Tape := blank ⟨t.cells.size, t.size_pos⟩

/-! ### Cells by their number -/

/-- The byte in a cell. -/
def cell (t : Tape) (p : Nat) : UInt8 := t.cells.getD p 0

/-- Store a byte in a cell. -/
def put (t : Tape) (p : Nat) (b : UInt8) : Tape :=
  ⟨t.cells.setIfInBounds p b, by simpa using t.size_pos⟩

/-- Add a number to a cell. -/
def bump (t : Tape) (p : Nat) (n : Int) : Tape := t.put p (t.cell p + UInt8.ofInt n)

/-- The position at a distance from another, around the circle. -/
def shift (t : Tape) (p n : Int) : Nat := ((p + n) % t.size).toNat

/-! ### Positions from outside -/

/-- The number of the cell at a position that may also count back from the end. A position that is
beyond all numbers of the machine, in either direction, is like any other that is not on the
tape. -/
def index? (t : Tape) (p : Int) : Option Nat :=
  if 0 ≤ p ∧ p < t.size then some p.toNat
  else if -(t.size : Int) ≤ p ∧ p < 0 then some (p + t.size).toNat
  else none

/-- The byte at a position from zero on. A position that is too long to be written is refused like
any other, but there is no wording for the refusal. -/
def item? (t : Tape) (p : Int) : Except Failure UInt8 :=
  if 0 ≤ p ∧ p < t.size then .ok (t.cell p.toNat) else .error (.outOfBounds p t.size)

/-- The byte at a position. -/
def get? (t : Tape) (p : Int) : Except Failure UInt8 :=
  match t.index? p with
  | some i => .ok (t.cell i)
  | none => .error .badIndex

/-- Store a number, modulo 256, at a position. -/
def set? (t : Tape) (p value : Int) : Option Failure × Tape :=
  match t.index? p with
  | some i => (none, t.put i (UInt8.ofInt value))
  | none => (some .badIndex, t)

/-- Add a number, modulo 256, at a position, and give the byte that comes of it. -/
def add? (t : Tape) (p n : Int) : Except Failure UInt8 × Tape :=
  match t.index? p with
  | some i =>
    let sum := t.cell i + UInt8.ofInt n
    (.ok sum, t.put i sum)
  | none => (.error .badIndex, t)

/-! ### Views -/

/-- The bytes from `start` up to `stop`, where a negative `stop` counts back from the end. -/
def window (t : Tape) (start stop : Int) : List UInt8 :=
  let first := (max 0 start).toNat
  let bound := min (t.size : Int) stop
  let last := (if bound < 0 then bound + t.size else bound).toNat
  (t.cells.extract first last).toList

/-- Those of the first `n` cells that are not zero, with their numbers, in order, before others. -/
def nonzeroBelow (t : Tape) : (n : Nat) → List (Nat × UInt8) → List (Nat × UInt8)
  | 0, found => found
  | n + 1, found =>
    t.nonzeroBelow n (if t.cell n = 0 then found else (n, t.cell n) :: found)

/-- The cells that are not zero, with their numbers, in order. -/
def nonzero (t : Tape) : List (Nat × UInt8) := t.nonzeroBelow t.size []

/-- All bytes, in order. -/
def toList (t : Tape) : List UInt8 := t.cells.toList

end Tape

end Brainfuck
