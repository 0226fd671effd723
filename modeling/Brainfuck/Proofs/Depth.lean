import Brainfuck.Proofs.Bracket

/-!
# Nesting depth

The depth of a position (`Brainfuck.Bracket.depth`) is the number of opening brackets before it
less the number of closing ones. It is a number of its own for every position, so that a
statement about the brackets in some part of a text becomes one about a few numbers: a text is
balanced if its depth is never negative and comes back to zero
(`Brainfuck.Bracket.balanced_iff`), and so is the part between two brackets if the depth never
falls below what it is at the start of this part and comes back to it
(`Brainfuck.Bracket.balanced_between_iff`).

A pair of brackets with a balanced text in between belongs together
(`Brainfuck.Bracket.Encloses`). That a bracket is in at most one such pair, and that two pairs do
not cross, is then a matter of comparing depths. Nothing here looks at how the pairs are found.
-/

namespace Brainfuck

namespace Bracket

variable {α : Type} {text : List α} {i j k l : Nat}

/-! ### Parts of a text -/

/-- The text strictly between two positions. -/
def between (text : List α) (i j : Nat) : List α := (text.take j).drop (i + 1)

theorem length_between (hj : j ≤ text.length) : (between text i j).length = j - (i + 1) := by
  rw [between, List.length_drop, List.length_take, Nat.min_eq_left hj]

/-- A text up to a position behind the first of the two. -/
theorem take_eq_append_between (hij : i < j) (k : Nat) :
    text.take (min j (i + 1 + k)) = text.take (i + 1) ++ (between text i j).take k := by
  have hi : min (i + 1) (min j (i + 1 + k)) = i + 1 := by omega
  have hsplit := List.take_append_drop (i + 1) (text.take (min j (i + 1 + k)))
  rw [List.take_take, hi] at hsplit
  rw [between, List.take_drop, List.take_take, Nat.min_comm (i + 1 + k) j]
  exact hsplit.symm

/-! ### Brackets at a position -/

variable [Symbol α]

/-- An opening bracket stands at a position. -/
def OpensAt (text : List α) (i : Nat) : Prop :=
  ∃ a, text[i]? = some a ∧ Symbol.command? a = some .opening

/-- A closing bracket stands at a position. -/
def ClosesAt (text : List α) (i : Nat) : Prop :=
  ∃ a, text[i]? = some a ∧ Symbol.command? a = some .closing

theorem OpensAt.lt (h : OpensAt text i) : i < text.length := by
  obtain ⟨a, ha, -⟩ := h
  exact (List.getElem?_eq_some_iff.mp ha).1

theorem ClosesAt.lt (h : ClosesAt text i) : i < text.length := by
  obtain ⟨a, ha, -⟩ := h
  exact (List.getElem?_eq_some_iff.mp ha).1

/-- What stands at the end of the first part of a text. -/
theorem opensAt_append {u v : List α} {a : α} (h : Symbol.command? a = some .opening) :
    OpensAt (u ++ a :: v) u.length :=
  ⟨a, by simp, h⟩

theorem closesAt_append {u v : List α} {a : α} (h : Symbol.command? a = some .closing) :
    ClosesAt (u ++ a :: v) u.length :=
  ⟨a, by simp, h⟩

/-! ### Depth -/

/-- The number of opening brackets before a position less that of closing ones. -/
def depth (text : List α) (k : Nat) : Int :=
  (openings (text.take k) : Int) - closings (text.take k)

@[simp] theorem depth_zero (text : List α) : depth text 0 = 0 := rfl

theorem depth_of_length_le (h : text.length ≤ k) :
    depth text k = openings text - closings text := by
  rw [depth, List.take_of_length_le h]

/-- Before the end of a first part nothing of the second is counted. -/
theorem depth_append_of_le {u : List α} (v : List α) (h : k ≤ u.length) :
    depth (u ++ v) k = depth u k := by
  rw [depth, depth, List.take_append_of_le_length h]

/-- What a part of a text adds to the depth. -/
theorem depth_eq_add (text : List α) (h : i ≤ k) : depth text k =
    depth text i + (openings ((text.take k).drop i) - closings ((text.take k).drop i)) := by
  have htake : text.take k = text.take i ++ (text.take k).drop i := by
    have hsplit := List.take_append_drop i (text.take k)
    rw [List.take_take, Nat.min_eq_left h] at hsplit
    exact hsplit.symm
  have hopenings := openings_append (text.take i) ((text.take k).drop i)
  have hclosings := closings_append (text.take i) ((text.take k).drop i)
  rw [← htake] at hopenings hclosings
  rw [depth, depth]
  omega

theorem OpensAt.depth_succ (h : OpensAt text i) : depth text (i + 1) = depth text i + 1 := by
  obtain ⟨a, ha, hopening⟩ := h
  have hopenings : openings [a] = 1 := List.countP_cons_of_pos (by simp [hopening])
  have hclosings : closings [a] = 0 := List.countP_cons_of_neg (by simp [hopening])
  rw [depth, List.take_add_one, ha, Option.toList_some, openings_append, closings_append,
    hopenings, hclosings, depth]
  omega

theorem ClosesAt.depth_succ (h : ClosesAt text i) : depth text (i + 1) = depth text i - 1 := by
  obtain ⟨a, ha, hclosing⟩ := h
  have hopenings : openings [a] = 0 := List.countP_cons_of_neg (by simp [hclosing])
  have hclosings : closings [a] = 1 := List.countP_cons_of_pos (by simp [hclosing])
  rw [depth, List.take_add_one, ha, Option.toList_some, openings_append, closings_append,
    hopenings, hclosings, depth]
  omega

/-! Before a list of commands another one is put. -/

@[simp] theorem depth_act (a : Action) (t : List Command) (k : Nat) :
    depth (.act a :: t) (k + 1) = depth t k := by
  simp only [depth, List.take_succ_cons, openings_act, closings_act]

@[simp] theorem depth_opening (t : List Command) (k : Nat) :
    depth (.opening :: t) (k + 1) = depth t k + 1 := by
  simp only [depth, List.take_succ_cons, openings_opening, closings_opening]
  omega

@[simp] theorem depth_closing (t : List Command) (k : Nat) :
    depth (.closing :: t) (k + 1) = depth t k - 1 := by
  simp only [depth, List.take_succ_cons, openings_closing, closings_closing]
  omega

/-- **Balance by depth**: it is never negative, and the whole text comes back to zero. -/
theorem balanced_iff : Balanced text ↔ (∀ k, 0 ≤ depth text k) ∧ depth text text.length = 0 := by
  have hend : depth text text.length = openings text - closings text :=
    depth_of_length_le (Nat.le_refl _)
  refine ⟨fun h => ⟨fun k => ?_, ?_⟩, fun ⟨hpos, hzero⟩ => ⟨fun u v huv => ?_, by omega⟩⟩
  · have hle := h.closings_le _ _ (List.take_append_drop k text).symm
    rw [depth]
    omega
  · have heq := h.closings_eq
    omega
  · have hu := hpos u.length
    rw [huv, depth, List.take_left] at hu
    omega

/-- The depth in a part of a text is the one that it adds. -/
theorem depth_between (hij : i < j) (k : Nat) :
    depth (between text i j) k = depth text (min j (i + 1 + k)) - depth text (i + 1) := by
  rw [depth, depth, depth, take_eq_append_between hij, openings_append, closings_append]
  omega

/-- **Balance in between**: the depth does not fall below what it is after the first position, and
comes back to it. -/
theorem balanced_between_iff (hij : i < j) (hj : j ≤ text.length) :
    Balanced (between text i j) ↔
      (∀ k, i < k → k ≤ j → depth text (i + 1) ≤ depth text k) ∧
        depth text j = depth text (i + 1) := by
  have hend : min j (i + 1 + (j - (i + 1))) = j := by omega
  rw [balanced_iff, length_between hj, depth_between hij, hend]
  refine ⟨fun ⟨hpos, hzero⟩ => ⟨fun k hik hkj => ?_, by omega⟩,
    fun ⟨hle, heq⟩ => ⟨fun k => ?_, by omega⟩⟩
  · have hk := hpos (k - (i + 1))
    have hmin : min j (i + 1 + (k - (i + 1))) = k := by omega
    rw [depth_between hij, hmin] at hk
    omega
  · have hk := hle (min j (i + 1 + k)) (by omega) (by omega)
    rw [depth_between hij]
    omega

/-! ### Pairs of brackets -/

/-- **Brackets that belong together**: an opening one, and a closing one behind it, with a balanced
text in between. -/
structure Encloses (text : List α) (i j : Nat) : Prop where
  /-- The closing bracket is behind the opening one. -/
  lt : i < j
  /-- The pair starts with an opening bracket. -/
  opens : OpensAt text i
  /-- The pair ends with a closing bracket. -/
  closes : ClosesAt text j
  /-- The text in between is balanced. -/
  balanced : Balanced (between text i j)

namespace Encloses

theorem le_depth (h : Encloses text i j) (hik : i < k) (hkj : k ≤ j) :
    depth text (i + 1) ≤ depth text k :=
  ((balanced_between_iff h.lt (Nat.le_of_lt h.closes.lt)).mp h.balanced).1 k hik hkj

theorem depth_eq (h : Encloses text i j) : depth text j = depth text (i + 1) :=
  ((balanced_between_iff h.lt (Nat.le_of_lt h.closes.lt)).mp h.balanced).2

/-- If one pair ended before the other with the same start, the text between the brackets of the
other would close the bracket that they share. -/
theorem not_lt_of_left (h : Encloses text i j) (h' : Encloses text i k) : ¬j < k := by
  intro hjk
  have hle := h'.le_depth (k := j + 1) (by have := h.lt; omega) (by omega)
  have hclose := h.closes.depth_succ
  have heq := h.depth_eq
  omega

/-- **An opening bracket belongs to one closing bracket.** -/
theorem right_unique (h : Encloses text i j) (h' : Encloses text i k) : j = k :=
  Nat.le_antisymm (Nat.le_of_not_lt (h'.not_lt_of_left h)) (Nat.le_of_not_lt (h.not_lt_of_left h'))

theorem not_lt_of_right (h : Encloses text i k) (h' : Encloses text j k) : ¬i < j := by
  intro hij
  have hle := h.le_depth (k := j) hij (Nat.le_of_lt h'.lt)
  have hopen := h'.opens.depth_succ
  have heq := h.depth_eq
  have heq' := h'.depth_eq
  omega

/-- **A closing bracket belongs to one opening bracket.** -/
theorem left_unique (h : Encloses text i k) (h' : Encloses text j k) : i = j :=
  Nat.le_antisymm (Nat.le_of_not_lt (h'.not_lt_of_right h))
    (Nat.le_of_not_lt (h.not_lt_of_right h'))

/-- **Pairs do not cross.** -/
theorem not_crossing (h : Encloses text i j) (h' : Encloses text k l) :
    ¬(i < k ∧ k < j ∧ j < l) := by
  rintro ⟨hik, hkj, hjl⟩
  have hle := h.le_depth hik (Nat.le_of_lt hkj)
  have hle' := h'.le_depth (k := j + 1) (by omega) (by omega)
  have hopen := h'.opens.depth_succ
  have hclose := h.closes.depth_succ
  have heq := h.depth_eq
  omega

end Encloses

end Bracket

end Brainfuck
