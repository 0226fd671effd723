import Brainfuck.Proofs.Program
import Brainfuck.Proofs.Reduction
import Brainfuck.Proofs.Refinement

/-!
# The optimizer refines

Optimizing a text cancels neighbouring commands that undo each other and then folds runs of
equal commands. Each of the two is a sequence of refinements of the block of the text.

Cancelling is done on the text, where nothing is known of loops. But what is cancelled is always
a pair of actions, and such a pair does not straddle a bracket, so that it stands side by side in
the block as well (`Brainfuck.Block.exists_deletion`). What is left after any number of deletions
is therefore the text of a block again, and this block is refined at each of them
(`Brainfuck.Block.exists_of_deletes`). That the pass comes to nothing else than deletions is a
property of the pass alone (`Brainfuck.Reduction.deletes_reduce`).
-/

namespace Brainfuck

namespace Block

variable {mode : EndMode}

/-! ### Folding -/

theorem refines_consAction (a : Action) (b : Block (Action × Nat)) :
    Refines mode (.act (a, 1) b) (consAction a b) := by
  cases b with
  | nil => exact refines_refl _
  | loop body rest => exact refines_refl _
  | act x rest =>
    rcases x with ⟨c, n⟩
    rw [consAction]
    by_cases h : a = c
    · rw [if_pos h, h]
      exact refines_repeat c n rest
    · rw [if_neg h]
      exact refines_refl _

/-- **A folded block refines the plain one.** -/
theorem refines_fold (b : Block Action) : Refines mode (b.map (·, 1)) b.fold := by
  induction b with
  | nil => exact refines_refl _
  | act a rest ih => exact (ih.act (a, 1)).trans (refines_consAction a rest.fold)
  | loop body rest ihb ihr => exact ihb.loop ihr

/-! ### Cancelling -/

/-- A pair of neighbours neither of which is the letter in the middle of a text stands before it
or behind it. -/
theorem append_cons_eq_append {α : Type} {l₁ l₂ u v : List α} {c x y : α} (hx : c ≠ x)
    (hy : c ≠ y) (h : l₁ ++ c :: l₂ = u ++ x :: y :: v) :
    (∃ w, l₁ = u ++ x :: y :: w ∧ v = w ++ c :: l₂) ∨
      ∃ w, u = l₁ ++ c :: w ∧ l₂ = w ++ x :: y :: v := by
  induction l₁ generalizing u with
  | nil =>
    rcases u with _ | ⟨d, w⟩
    · exact absurd (List.cons.inj h).1 hx
    · obtain ⟨rfl, hl⟩ := List.cons.inj h
      exact Or.inr ⟨w, rfl, hl⟩
  | cons a l₁ ih =>
    rcases u with _ | ⟨d, u⟩
    · obtain ⟨rfl, hl⟩ := List.cons.inj h
      rcases l₁ with _ | ⟨e, l₁⟩
      · exact absurd (List.cons.inj hl).1 hy
      · obtain ⟨rfl, hl'⟩ := List.cons.inj hl
        exact Or.inl ⟨l₁, rfl, hl'.symm⟩
    · obtain ⟨rfl, hl⟩ := List.cons.inj h
      rcases ih hl with ⟨w, rfl, rfl⟩ | ⟨w, rfl, rfl⟩
      · exact Or.inl ⟨w, rfl, rfl⟩
      · exact Or.inr ⟨w, rfl, rfl⟩

/-- **Neighbours in the text are neighbours in the block**, so that deleting two of them that undo
each other refines it. -/
theorem exists_deletion (mode : EndMode) {x y : Action} (hxy : x.inverse? = some y)
    (b : Block Action) {u v : List Command} (h : b.commands = u ++ .act x :: .act y :: v) :
    ∃ c : Block Action, c.commands = u ++ v ∧ Refines mode (b.map (·, 1)) (c.map (·, 1)) := by
  induction b generalizing u v with
  | nil =>
    rcases u with _ | ⟨d, u⟩ <;> cases h
  | act a rest ih =>
    rcases u with _ | ⟨d, u⟩
    · obtain ⟨ha, hrest⟩ := List.cons.inj h
      cases ha
      -- the second of the two is what the rest of the block starts with
      cases rest with
      | nil => cases hrest
      | loop body rest => cases hrest
      | act e rest =>
        cases hrest
        exact ⟨rest, rfl, refines_inverse hxy _⟩
    · obtain ⟨rfl, hrest⟩ := List.cons.inj h
      obtain ⟨c, hc, hrefines⟩ := ih hrest
      exact ⟨.act a c, congrArg (Command.act a :: ·) hc, hrefines.act (a, 1)⟩
  | loop body rest ihb ihr =>
    rcases u with _ | ⟨d, u⟩
    · cases h
    obtain ⟨rfl, hrest⟩ := List.cons.inj h
    -- neither of the two is the bracket that ends the loop, so they stand in its body or behind it
    have hnot : ∀ a, Command.closing ≠ .act a := nofun
    rcases append_cons_eq_append (hnot x) (hnot y) hrest with ⟨w, hbody, rfl⟩ | ⟨w, rfl, hafter⟩
    · obtain ⟨c, hc, hrefines⟩ := ihb hbody
      refine ⟨.loop c rest, ?_, hrefines.loop (refines_refl _)⟩
      rw [commands, hc]
      simp
    · obtain ⟨c, hc, hrefines⟩ := ihr hafter
      refine ⟨.loop body c, ?_, (refines_refl _).loop hrefines⟩
      rw [commands, hc]
      simp

/-- **What deletions leave of the text of a block is the text of a block**, which refines it. -/
theorem exists_of_deletes (mode : EndMode) {b : Block Action} {t : List Command}
    (h : Reduction.Deletes Reduction.Cancels b.commands t) :
    ∃ c : Block Action, c.commands = t ∧ Refines mode (b.map (·, 1)) (c.map (·, 1)) := by
  induction h with
  | refl => exact ⟨b, rfl, refines_refl _⟩
  | tail _ hstep ih =>
    obtain ⟨c, hc, hrefines⟩ := ih
    obtain ⟨u, v, x, y, hxy, rfl, rfl⟩ := hstep.exists_actions
    obtain ⟨d, hd, hrefines'⟩ := exists_deletion mode hxy c hc
    exact ⟨d, hd, hrefines.trans hrefines'⟩

/-- **The optimized program of a text is that of a block that refines the block of the text.** -/
theorem exists_compile_refines {b : Block Action} (h : b.commands ≠ []) (mode : EndMode) :
    ∃ c : Block (Action × Nat), Program.compile b.commands true = .ok c.program ∧
      Refines mode (b.map (·, 1)) c := by
  obtain ⟨d, hd, hrefines⟩ := exists_of_deletes mode (Reduction.deletes_reduce b.commands)
  refine ⟨d.fold, ?_, hrefines.trans (refines_fold d)⟩
  have hruns : Brainfuck.runs (reduce b.commands) = d.fold.runs := by
    rw [← hd, runs_commands]
  rw [Program.compile_eq fun _ => h, Program.runsFor, hruns, ofRuns_runs]
  rfl

end Block

end Brainfuck
