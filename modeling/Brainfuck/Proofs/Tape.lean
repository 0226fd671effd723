import Brainfuck.Tape

/-!
# Laws of the tape

The tape has two groups of operations that are used together all the time. Storing in a
cell is overwritten by the next store in it, and adding to a cell and moving along the
circle add up: two additions are one addition of the sum
(`Brainfuck.Tape.bump_bump`) and two moves are one move by the sum
(`Brainfuck.Tape.shift_shift`). It is because of these two laws that a folded instruction can
do in one go what its commands do one after the other.
-/

namespace Brainfuck

namespace Tape

variable {t : Tape} {p : Nat}

/-! ### Lengths -/

@[simp] theorem size_put (t : Tape) (p : Nat) (b : UInt8) : (t.put p b).size = t.size := by
  simp [put, size]

@[simp] theorem size_bump (t : Tape) (p : Nat) (n : Int) : (t.bump p n).size = t.size :=
  t.size_put p _

@[simp] theorem size_blank (length : TapeLength) : (blank length).size = length.val := by
  simp [blank, size]

@[simp] theorem size_reset (t : Tape) : t.reset.size = t.size := size_blank _

@[simp] theorem size_set? (t : Tape) (p v : Int) : (t.set? p v).2.size = t.size := by
  rw [set?]
  split
  · exact t.size_put _ _
  · rfl

@[simp] theorem size_add? (t : Tape) (p n : Int) : (t.add? p n).2.size = t.size := by
  rw [add?]
  split
  · exact t.size_put _ _
  · rfl

/-- A tape is determined by its cells. -/
theorem ext_cells {t u : Tape} (h : t.cells = u.cells) : t = u := by
  cases t
  cases u
  cases h
  rfl

@[simp] theorem reset_blank (length : TapeLength) : (blank length).reset = blank length :=
  ext_cells (by simp [reset, blank])

/-! ### Storing in a cell -/

theorem cell_put (h : p < t.size) (b : UInt8) : (t.put p b).cell p = b := by
  have h' : p < t.cells.size := h
  simp [put, cell, Array.getD_eq_getD_getElem?, h']

theorem cell_put_of_ne {q : Nat} (h : q ≠ p) (b : UInt8) : (t.put p b).cell q = t.cell q := by
  simp [put, cell, Array.getD_eq_getD_getElem?, Array.getElem?_setIfInBounds_ne h.symm]

@[simp] theorem cell_blank (length : TapeLength) (p : Nat) : (blank length).cell p = 0 := by
  simp only [cell, blank, Array.getD_eq_getD_getElem?, Array.getElem?_replicate]
  split <;> rfl

@[simp] theorem put_put (t : Tape) (p : Nat) (a b : UInt8) : (t.put p a).put p b = t.put p b :=
  ext_cells (by simp [put])

@[simp] theorem put_cell (t : Tape) (p : Nat) : t.put p (t.cell p) = t := by
  refine ext_cells ?_
  by_cases h : p < t.cells.size
  · simp [put, cell, Array.setIfInBounds, Array.getD_eq_getD_getElem?, h]
  · simp [put, Array.setIfInBounds, h]

/-! ### Adding to a cell -/

@[simp] theorem bump_zero (t : Tape) (p : Nat) : t.bump p 0 = t := by
  simp [bump, show UInt8.ofInt 0 = 0 from rfl]

/-- **Additions to a cell add up.** -/
theorem bump_bump (h : p < t.size) (m n : Int) : (t.bump p m).bump p n = t.bump p (m + n) := by
  simp only [bump, cell_put h, put_put, UInt8.ofInt_add, UInt8.add_assoc]

/-! ### Pieces of the tape -/

/-- A piece of the tape, by the numbers of its cells. -/
theorem toList_extract (t : Tape) (first last : Nat) :
    (t.cells.extract first last).toList =
      (List.range' first (min last t.size - first)).map t.cell := by
  refine List.ext_getElem ?_ fun k hk hk' => ?_
  · rw [Array.length_toList, Array.size_extract, List.length_map, List.length_range']
    rfl
  have hlt : first + k < t.cells.size := by
    simp only [Array.length_toList, Array.size_extract] at hk
    omega
  simp [cell, Array.getD_eq_getD_getElem?, hlt]

theorem natCast_shift (t : Tape) (p n : Int) : (t.shift p n : Int) = (p + n) % t.size := by
  have hpos : 0 < t.size := t.size_pos
  exact Int.toNat_of_nonneg (Int.emod_nonneg _ (by omega))

theorem shift_lt (t : Tape) (p n : Int) : t.shift p n < t.size := by
  have hpos : 0 < t.size := t.size_pos
  have hlt : (p + n) % t.size < t.size := Int.emod_lt_of_pos (p + n) (by omega)
  rw [← natCast_shift] at hlt
  omega

theorem shift_zero (h : p < t.size) : t.shift p 0 = p := by
  rw [shift, Int.add_zero, Int.emod_eq_of_lt (by omega) (by omega), Int.toNat_natCast]

/-- **Moves along the tape add up.** -/
theorem shift_shift (t : Tape) (p m n : Int) : t.shift (t.shift p m) n = t.shift p (m + n) := by
  rw [shift, natCast_shift, Int.emod_add_emod, Int.add_assoc, ← shift]

end Tape

end Brainfuck
