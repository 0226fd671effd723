import Mathlib.Data.List.Chain
import Mathlib.Logic.Relation
import Brainfuck.Reduction

/-!
# The reduced form of a text

Deleting two neighbouring letters that undo each other is a rewriting system
(`Brainfuck.Reduction.Deletion`). It is confluent: however the deletions are chosen, they end in
the same text, and this is the one that the single pass of `Brainfuck.reduce` computes.

No two deletions are ever compared for this. Read as a function, the pass is an invariant of the
system: a deletion does not change its result (`Brainfuck.Reduction.Deletion.reduce_eq`). If two
letters that undo each other are read one after the other, then either the first is put on the
stack and the second takes it away, or the first takes away the top of the stack. In the second
case the letter that it took away is the one that comes next, since only one letter is undone by
the first, and it is put back, since the stack never holds two neighbours that undo each other.

Since the pass leaves a reduced text as it is, whatever deletions end in is its result.
-/

namespace Brainfuck

namespace Reduction

section General

variable {α : Type} {R : α → α → Prop} {s t text : List α}

/-! ### Deletions -/

/-- **One deletion**: two neighbouring letters are left out that are related. -/
inductive Deletion (R : α → α → Prop) : List α → List α → Prop
  /-- Leave out two neighbours. -/
  | intro (u v : List α) {a b : α} (h : R a b) : Deletion R (u ++ a :: b :: v) (u ++ v)

/-- Any number of deletions, one after the other. -/
abbrev Deletes (R : α → α → Prop) : List α → List α → Prop := Relation.ReflTransGen (Deletion R)

/-- **No deletion is possible**: no two neighbours are related. -/
def Reduced (R : α → α → Prop) (text : List α) : Prop := text.IsChain fun a b => ¬R a b

/-- **The normal form of a text**: it is reached by deletions, no further one is possible, and
whatever else deletions end in is the same. -/
structure IsNormalForm (R : α → α → Prop) (text normal : List α) : Prop where
  /-- It can be reached by deletions. -/
  reached : Deletes R text normal
  /-- No deletion is possible in it. -/
  reduced : Reduced R normal
  /-- Every sequence of deletions after which none is possible ends in it. -/
  unique : ∀ t, Deletes R text t → Reduced R t → t = normal

theorem Deletion.append (h : Deletion R s t) (u v : List α) :
    Deletion R (u ++ s ++ v) (u ++ t ++ v) := by
  obtain ⟨x, y, hab⟩ := h
  simpa using Deletion.intro (u ++ x) (y ++ v) hab

theorem Deletes.append (h : Deletes R s t) (u v : List α) :
    Deletes R (u ++ s ++ v) (u ++ t ++ v) := by
  induction h with
  | refl => exact .refl
  | tail _ hstep ih => exact ih.tail (hstep.append u v)

end General

/-! ### Letters that undo each other -/

section Pass

variable {α : Type} [Symbol α] {a b c : α} {s t text : List α}

/-- Two letters stand for commands that undo each other. -/
abbrev Cancels (a b : α) : Prop := Symbol.cancels a b = true

theorem cancels_iff : Cancels a b ↔ ∃ x y, Symbol.command? a = some (.act x) ∧
    Symbol.command? b = some (.act y) ∧ x.inverse? = some y := by
  rcases ha : Symbol.command? a with _ | x | _ | _ <;>
    rcases hb : Symbol.command? b with _ | y | _ | _ <;>
      simp [Cancels, Symbol.cancels, ha, hb, Command.cancels]

/-- **What is undone by a letter undoes it, and no other letter does.** -/
theorem eq_of_cancels (h : Cancels a b) (h' : Cancels b c) : a = c := by
  obtain ⟨x, y, ha, hb, hxy⟩ := cancels_iff.mp h
  obtain ⟨y', z, hb', hc, hyz⟩ := cancels_iff.mp h'
  obtain rfl : y = y' := by simpa using hb.symm.trans hb'
  obtain rfl : x = z := by simpa using (Action.inverse?_symm hxy).symm.trans hyz
  exact Symbol.eq_of_command? ha hc

/-! ### The stack of the pass -/

/-- The stack, last letter first, is the reduced text of what has been read. -/
theorem reduced_cancelLast (h : Reduced Cancels s.reverse) (a : α) :
    Reduced Cancels (cancelLast s a).reverse := by
  rcases s with _ | ⟨last, earlier⟩
  · exact List.isChain_singleton a
  rw [cancelLast]
  split
  · rw [List.reverse_cons] at h
    exact h.left_of_append
  · next hnot =>
    rw [Reduced, List.isChain_reverse] at h ⊢
    exact List.isChain_cons_cons.mpr ⟨hnot, h⟩

theorem reduced_foldl (h : Reduced Cancels s.reverse) (text : List α) :
    Reduced Cancels (text.foldl cancelLast s).reverse := by
  induction text generalizing s with
  | nil => exact h
  | cons a text ih => exact ih (reduced_cancelLast h a)

/-- **Two letters that undo each other leave the stack as it was.** -/
theorem cancelLast_cancelLast (h : Reduced Cancels s.reverse) (hab : Cancels a b) :
    cancelLast (cancelLast s a) b = s := by
  rcases s with _ | ⟨last, earlier⟩
  · rw [cancelLast, cancelLast, if_pos hab]
  by_cases hlast : Cancels last a
  · obtain rfl := eq_of_cancels hlast hab
    rw [cancelLast, if_pos hlast]
    -- the letter that was taken away is put back: the one below does not undo it
    rcases earlier with _ | ⟨below, earlier⟩
    · rfl
    · rw [Reduced, List.isChain_reverse] at h
      rw [cancelLast, if_neg (List.isChain_cons_cons.mp h).1]
  · rw [cancelLast, if_neg hlast, cancelLast, if_pos hab]

/-- The pass leaves letters alone that can follow the stack without a deletion. -/
theorem foldl_cancelLast_of_reduced (h : Reduced Cancels (s.reverse ++ text)) :
    text.foldl cancelLast s = text.reverse ++ s := by
  induction text generalizing s with
  | nil => rfl
  | cons a text ih =>
    have hpush : cancelLast s a = a :: s := by
      rcases s with _ | ⟨last, earlier⟩
      · rfl
      · rw [List.reverse_cons, List.append_assoc] at h
        have hnot : ¬Cancels last a := (List.isChain_append_cons_cons.mp h).2.1
        rw [cancelLast, if_neg hnot]
    rw [List.foldl_cons, hpush, ih (by simpa using h)]
    simp

/-- **Each state of the pass is reached by deletions** from what has been read. -/
theorem deletes_foldl (s text : List α) :
    Deletes Cancels (s.reverse ++ text) (text.foldl cancelLast s).reverse := by
  induction text generalizing s with
  | nil => simpa using Relation.ReflTransGen.refl
  | cons a text ih =>
    have hpush : Deletes Cancels (s.reverse ++ a :: text)
        (text.foldl cancelLast (a :: s)).reverse := by
      simpa using ih (a :: s)
    rcases s with _ | ⟨last, earlier⟩
    · exact hpush
    -- to take the top of the stack away is to delete it with the letter that is read
    rw [List.foldl_cons, cancelLast]
    split
    · next hlast =>
      have hstep : Deletion Cancels ((last :: earlier).reverse ++ a :: text)
          (earlier.reverse ++ text) := by
        simpa using Deletion.intro earlier.reverse text hlast
      exact (ih earlier).head hstep
    · exact hpush

/-! ### The reduced form -/

theorem deletes_reduce (text : List α) : Deletes Cancels text (reduce text) := deletes_foldl [] text

theorem reduced_reduce (text : List α) : Reduced Cancels (reduce text) :=
  reduced_foldl (s := []) List.isChain_nil text

theorem reduce_of_reduced (h : Reduced Cancels text) : reduce text = text := by
  rw [reduce, foldl_cancelLast_of_reduced (s := []) h, List.append_nil, List.reverse_reverse]

/-- **A deletion does not change the reduced form.** -/
theorem Deletion.reduce_eq (h : Deletion Cancels s t) : reduce s = reduce t := by
  obtain ⟨u, v, hab⟩ := h
  have hu : Reduced Cancels (u.foldl cancelLast []).reverse := reduced_reduce u
  rw [reduce, reduce, List.foldl_append, List.foldl_append, List.foldl_cons, List.foldl_cons,
    cancelLast_cancelLast hu hab]

theorem Deletes.reduce_eq (h : Deletes Cancels s t) : reduce s = reduce t := by
  induction h with
  | refl => rfl
  | tail _ hstep ih => rw [ih, hstep.reduce_eq]

theorem isNormalForm_reduce (text : List α) : IsNormalForm Cancels text (reduce text) where
  reached := deletes_reduce text
  reduced := reduced_reduce text
  unique t ht hreduced := by rw [Deletes.reduce_eq ht, reduce_of_reduced hreduced]

theorem reduce_append (s t : List α) : reduce (s ++ t) = reduce (reduce s ++ reduce t) := by
  have hs : Deletes Cancels (s ++ t) (reduce s ++ t) := by
    simpa using Deletes.append (deletes_reduce s) [] t
  have ht : Deletes Cancels (reduce s ++ t) (reduce s ++ reduce t) := by
    simpa using Deletes.append (deletes_reduce t) (reduce s) []
  exact Deletes.reduce_eq (hs.trans ht)

end Pass

/-! ### Commands -/

/-- What is deleted from a list of commands is a pair of actions. -/
theorem Deletion.exists_actions {cs ds : List Command} (h : Deletion Cancels cs ds) :
    ∃ u v x y, Action.inverse? x = some y ∧ cs = u ++ .act x :: .act y :: v ∧ ds = u ++ v := by
  obtain ⟨u, v, hab⟩ := h
  obtain ⟨x, y, hx, hy, hxy⟩ := cancels_iff.mp hab
  obtain rfl := Option.some.inj hx
  obtain rfl := Option.some.inj hy
  exact ⟨u, v, x, y, hxy, rfl, rfl⟩

/-! ### Characters -/

/-- **The pairs of characters that undo each other.** -/
inductive InversePair : Char → Char → Prop
  /-- Add and subtract. -/
  | addSubtract : InversePair '+' '-'
  /-- Subtract and add. -/
  | subtractAdd : InversePair '-' '+'
  /-- Move to the left and to the right. -/
  | leftRight : InversePair '<' '>'
  /-- Move to the right and to the left. -/
  | rightLeft : InversePair '>' '<'

theorem cancels_iff_inversePair {a b : Char} : Cancels a b ↔ InversePair a b := by
  constructor
  · intro h
    obtain ⟨x, y, ha, hb, hxy⟩ := cancels_iff.mp h
    obtain rfl := Command.toChar_of_ofChar? ha
    obtain rfl := Command.toChar_of_ofChar? hb
    cases x <;> cases hxy <;> constructor
  · rintro (_ | _ | _ | _) <;> rfl

/-- **The single pass computes the unique normal form** of a text under the deletion of
neighbouring inverse characters. So it does nothing the second time, and the parts of a text can be
reduced first. -/
theorem reduce_normalizes (text : List Char) :
    IsNormalForm InversePair text (reduce text) ∧ reduce (reduce text) = reduce text ∧
      ∀ more, reduce (text ++ more) = reduce (reduce text ++ reduce more) := by
  have hpairs : (Cancels : Char → Char → Prop) = InversePair :=
    funext fun a => funext fun b => propext cancels_iff_inversePair
  rw [← hpairs]
  exact ⟨isNormalForm_reduce text, reduce_of_reduced (reduced_reduce text), reduce_append text⟩

example : reduce "a+<>-b".toList = "ab".toList := by decide

end Reduction

end Brainfuck
