import Brainfuck.Proofs.Evaluation

/-!
# Refinement of blocks

A block refines another if it comes to the same outcomes in at most as many steps
(`Brainfuck.Block.Refines`). The two may be cut off at different places, so of a block
that is cut off it is only asked that the refined one has written as much by then.

Refinement is preserved by everything that blocks are made of, loops included, and the
optimizer has only two rules: two neighbouring actions that undo each other can be dropped
(`Brainfuck.Block.refines_inverse`), and an action that stands before repetitions of itself
can be made one repetition more (`Brainfuck.Block.refines_repeat`).
-/

namespace Brainfuck

namespace Outcome

/-- What a refined block may come to where a block comes to an outcome: the same, except that
it may get further than a block that is cut off. -/
def CoveredBy : Outcome → Outcome → Prop
  | cut m, r => m.output <+: r.machine.output
  | done m, r => r = done m
  | stuck m, r => r = stuck m

theorem coveredBy_refl (r : Outcome) : r.CoveredBy r := by
  cases r with
  | done | stuck => rfl
  | cut m => exact List.prefix_refl m.output

theorem CoveredBy.output_prefix {r r' : Outcome} (h : r.CoveredBy r') :
    r.machine.output <+: r'.machine.output := by
  cases r with
  | done | stuck =>
    cases h
    exact List.prefix_refl _
  | cut m => exact h

/-- Only what is cut off may become something else. -/
theorem CoveredBy.eq {r r' : Outcome} (h : r.CoveredBy r') (hr : r.isCut = false) : r' = r := by
  cases r with
  | done | stuck => exact h
  | cut => cases hr

theorem CoveredBy.trans {r₁ r₂ r₃ : Outcome} (h : r₁.CoveredBy r₂) (h' : r₂.CoveredBy r₃) :
    r₁.CoveredBy r₃ := by
  cases r₁ with
  | done | stuck =>
    cases h
    exact h'
  | cut m =>
    have hout : m.output <+: r₂.machine.output := h
    exact hout.trans h'.output_prefix

end Outcome

namespace Block

variable {mode : EndMode} {m m₁ : Machine} {k : Nat} {r : Outcome}
  {b b' c c' d : Block (Action × Nat)}

/-! ### Output only grows -/

theorem output_prefix_performRun (mode : EndMode) (x : Action × Nat) (m : Machine) :
    m.output <+: (Machine.resulting (Machine.performRun mode x m)).output :=
  Machine.output_prefix_iterate (Machine.output_prefix_perform mode x.1) x.2 m

theorem output_prefix_of_ok {x : Action × Nat} (h : Machine.performRun mode x m = .ok m₁) :
    m.output <+: m₁.output := by
  have hx := output_prefix_performRun mode x m
  rwa [h] at hx

theorem output_prefix_of_error {x : Action × Nat} (h : Machine.performRun mode x m = .error m₁) :
    m.output <+: m₁.output := by
  have hx := output_prefix_performRun mode x m
  rwa [h] at hx

/-- **No block takes output back.** -/
theorem Eval.output_prefix (h : b.Eval (Machine.performRun mode) m k r) :
    m.output <+: r.machine.output := by
  induction h with
  | nil => exact List.prefix_refl _
  | act hm _ ih => exact (output_prefix_of_ok hm).trans ih
  | stuck hm => exact output_prefix_of_error hm
  | skip _ _ ih => exact ih
  | again _ _ _ ihb ihl => exact ihb.trans ihl
  | inside _ _ _ ih => exact ih
  | cutAct => exact List.prefix_refl _
  | cutLoop => exact List.prefix_refl _

/-- A block is there to be evaluated without taking a step. -/
theorem exists_eval_zero (mode : EndMode) (b : Block (Action × Nat)) (m : Machine) :
    ∃ r, b.Eval (Machine.performRun mode) m 0 r ∧ m.output <+: r.machine.output := by
  obtain ⟨k, r, hr, hk, -⟩ := exists_eval (Machine.performRun mode) 0 b m
  obtain rfl := Nat.le_zero.mp hk
  exact ⟨r, hr, hr.output_prefix⟩

/-- **What has been cut off can be gone on with**, up to any number of steps. -/
theorem Eval.exists_extension (h : b.Eval (Machine.performRun mode) m k r) {n : Nat} (hle : k ≤ n) :
    ∃ k' r', b.Eval (Machine.performRun mode) m k' r' ∧ k' ≤ n ∧ (r'.isCut = true → k' = n) ∧
      r.CoveredBy r' := by
  induction h generalizing n with
  | nil => exact ⟨0, _, .nil, hle, nofun, rfl⟩
  | stuck hm => exact ⟨0, _, .stuck hm, hle, nofun, rfl⟩
  | act hm _ ih =>
    obtain ⟨n, rfl⟩ := Nat.exists_eq_add_of_le' (show 1 ≤ n by omega)
    obtain ⟨k', r', hr', hk, hcut, hr⟩ := ih (Nat.le_of_succ_le_succ hle)
    exact ⟨k' + 1, r', .act hm hr', Nat.succ_le_succ hk, fun h => congrArg (· + 1) (hcut h), hr⟩
  | skip hm _ ih =>
    obtain ⟨n, rfl⟩ := Nat.exists_eq_add_of_le' (show 1 ≤ n by omega)
    obtain ⟨k', r', hr', hk, hcut, hr⟩ := ih (Nat.le_of_succ_le_succ hle)
    exact ⟨k' + 1, r', .skip hm hr', Nat.succ_le_succ hk, fun h => congrArg (· + 1) (hcut h), hr⟩
  | @again _ _ _ _ j k _ hm hb _ _ ih =>
    obtain ⟨left, rfl⟩ := Nat.exists_eq_add_of_le (show j + 1 ≤ n by omega)
    obtain ⟨k', r', hr', hk, hcut, hr⟩ := ih (show k ≤ left by omega)
    exact ⟨j + 1 + k', r', .again hm hb hr', by omega, fun h => by rw [hcut h], hr⟩
  | @inside body rest m k r hm hb hdone ih =>
    obtain ⟨n, rfl⟩ := Nat.exists_eq_add_of_le' (show 1 ≤ n by omega)
    obtain ⟨j, r₁, hb', hj, hcut, hr⟩ := ih (Nat.le_of_succ_le_succ hle)
    rcases hdone' : r₁.isDone with _ | _
    · exact ⟨j + 1, r₁, .inside hm hb' hdone', Nat.succ_le_succ hj,
        fun h => congrArg (· + 1) (hcut h), hr⟩
    -- the body has come to its end, and what is left of the steps is for the loop
    rcases r₁ with m₁ | m₁ | m₁
    · obtain ⟨left, rfl⟩ := Nat.exists_eq_add_of_le hj
      obtain ⟨k', r', hr', hk, hcut'⟩ :=
        exists_eval (Machine.performRun mode) left (loop body rest) m₁
      refine ⟨j + 1 + k', r', .again hm hb' hr', by omega, fun h => ?_, ?_⟩
      · rw [hcut' h]
        omega
      · cases r with
        | done => cases hdone
        | stuck => cases hr
        | cut m => exact hr.output_prefix.trans hr'.output_prefix
    · cases hdone'
    · cases hdone'
  | @cutAct x rest m =>
    obtain ⟨k', r', hr', hk, hcut⟩ := exists_eval (Machine.performRun mode) n (.act x rest) m
    exact ⟨k', r', hr', hk, hcut, hr'.output_prefix⟩
  | @cutLoop body rest m =>
    obtain ⟨k', r', hr', hk, hcut⟩ := exists_eval (Machine.performRun mode) n (loop body rest) m
    exact ⟨k', r', hr', hk, hcut, hr'.output_prefix⟩

/-! ### Refinement -/

/-- **Refinement**: the same outcomes in at most as many steps. -/
structure Refines (mode : EndMode) (b c : Block (Action × Nat)) : Prop where
  /-- What the block comes to, the refined one comes to. -/
  forward : ∀ {m k r}, b.Eval (Machine.performRun mode) m k r →
    ∃ k' r', c.Eval (Machine.performRun mode) m k' r' ∧ k' ≤ k ∧ r.CoveredBy r'
  /-- What the refined block comes to, the block comes to. -/
  backward : ∀ {m k r}, c.Eval (Machine.performRun mode) m k r → r.isCut = false →
    ∃ k', b.Eval (Machine.performRun mode) m k' r ∧ k ≤ k'

theorem refines_refl (b : Block (Action × Nat)) : Refines mode b b where
  forward h := ⟨_, _, h, Nat.le_refl _, Outcome.coveredBy_refl _⟩
  backward h _ := ⟨_, h, Nat.le_refl _⟩

theorem Refines.trans (h : Refines mode b c) (h' : Refines mode c d) : Refines mode b d where
  forward hb := by
    obtain ⟨k₁, r₁, hc, hk₁, hr₁⟩ := h.forward hb
    obtain ⟨k₂, r₂, hd, hk₂, hr₂⟩ := h'.forward hc
    exact ⟨k₂, r₂, hd, Nat.le_trans hk₂ hk₁, hr₁.trans hr₂⟩
  backward hd hr := by
    obtain ⟨k₁, hc, hk₁⟩ := h'.backward hd hr
    obtain ⟨k₂, hb, hk₂⟩ := h.backward hc hr
    exact ⟨k₂, hb, Nat.le_trans hk₁ hk₂⟩

/-- **A refined block gets at least as far** within the same number of steps. -/
theorem Refines.exists_eval (h : Refines mode b c) (hb : b.Eval (Machine.performRun mode) m k r)
    {n : Nat} (hle : k ≤ n) :
    ∃ k' r', c.Eval (Machine.performRun mode) m k' r' ∧ k' ≤ n ∧ (r'.isCut = true → k' = n) ∧
      r.CoveredBy r' ∧ (r.isCut = false → k' ≤ k) := by
  obtain ⟨k₁, r₁, hc, hk₁, hr₁⟩ := h.forward hb
  rcases hcut : r.isCut with _ | _
  · obtain rfl := hr₁.eq hcut
    exact ⟨k₁, r₁, hc, Nat.le_trans hk₁ hle, fun h => absurd (hcut.symm.trans h) nofun, hr₁,
      fun _ => hk₁⟩
  · obtain ⟨k', r', hc', hk', hcut', hr'⟩ := hc.exists_extension (Nat.le_trans hk₁ hle)
    exact ⟨k', r', hc', hk', hcut', hr₁.trans hr', nofun⟩

/-! ### Refining a part -/

theorem Refines.act (h : Refines mode b c) (x : Action × Nat) :
    Refines mode (.act x b) (.act x c) where
  forward hb := by
    cases hb with
    | act hx hb =>
      obtain ⟨k', r', hc, hk, hr⟩ := h.forward hb
      exact ⟨k' + 1, r', .act hx hc, Nat.succ_le_succ hk, hr⟩
    | stuck hx => exact ⟨0, _, .stuck hx, Nat.le_refl 0, rfl⟩
    | cutAct => exact ⟨0, _, .cutAct, Nat.le_refl 0, List.prefix_refl _⟩
  backward hc hr := by
    cases hc with
    | act hx hc =>
      obtain ⟨k', hb, hk⟩ := h.backward hc hr
      exact ⟨k' + 1, .act hx hb, Nat.succ_le_succ hk⟩
    | stuck hx => exact ⟨0, .stuck hx, Nat.le_refl 0⟩
    | cutAct => cases hr

theorem Refines.forward_loop (hbody : Refines mode b c) (hrest : Refines mode b' c')
    (h : (loop b b').Eval (Machine.performRun mode) m k r) :
    ∃ k' r', (loop c c').Eval (Machine.performRun mode) m k' r' ∧ k' ≤ k ∧ r.CoveredBy r' := by
  generalize hl : loop b b' = l at h
  induction h with
  | nil | act | stuck | cutAct => cases hl
  | cutLoop => exact ⟨0, _, .cutLoop, Nat.le_refl 0, List.prefix_refl _⟩
  | skip hm hb =>
    cases hl
    obtain ⟨k', r', hc, hk, hr⟩ := hrest.forward hb
    exact ⟨k' + 1, r', .skip hm hc, Nat.succ_le_succ hk, hr⟩
  | again hm hb _ _ ih =>
    cases hl
    obtain ⟨j', r₁, hc, hj, hr₁⟩ := hbody.forward hb
    obtain rfl := hr₁.eq rfl
    obtain ⟨k', r', hc', hk, hr⟩ := ih rfl
    exact ⟨j' + 1 + k', r', .again hm hc hc', by omega, hr⟩
  | inside hm hb hdone =>
    cases hl
    obtain ⟨j', r₁, hc, hj, hr₁⟩ := hbody.forward hb
    rcases hdone' : r₁.isDone with _ | _
    · exact ⟨j' + 1, r₁, .inside hm hc hdone', Nat.succ_le_succ hj, hr₁⟩
    -- the refined body may be done while the body itself has been cut off
    rcases r₁ with m₁ | m₁ | m₁
    · obtain ⟨r', hc', hout⟩ := exists_eval_zero mode (loop c c') m₁
      rename_i r _
      cases r with
      | done => cases hdone
      | stuck => cases hr₁
      | cut m => exact ⟨j' + 1 + 0, r', .again hm hc hc', by omega, hr₁.output_prefix.trans hout⟩
    · cases hdone'
    · cases hdone'

theorem Refines.backward_loop (hbody : Refines mode b c) (hrest : Refines mode b' c')
    (h : (loop c c').Eval (Machine.performRun mode) m k r) (hr : r.isCut = false) :
    ∃ k', (loop b b').Eval (Machine.performRun mode) m k' r ∧ k ≤ k' := by
  generalize hl : loop c c' = l at h
  induction h with
  | nil | act | stuck | cutAct => cases hl
  | cutLoop => cases hr
  | skip hm hc =>
    cases hl
    obtain ⟨k', hb, hk⟩ := hrest.backward hc hr
    exact ⟨k' + 1, .skip hm hb, Nat.succ_le_succ hk⟩
  | again hm hc _ _ ih =>
    cases hl
    obtain ⟨j', hb, hj⟩ := hbody.backward hc rfl
    obtain ⟨k', hb', hk⟩ := ih hr rfl
    exact ⟨j' + 1 + k', .again hm hb hb', by omega⟩
  | inside hm hc hdone =>
    cases hl
    obtain ⟨k', hb, hk⟩ := hbody.backward hc hr
    exact ⟨k' + 1, .inside hm hb hdone, Nat.succ_le_succ hk⟩

/-- **A loop is refined by refining its body and what follows it.** -/
theorem Refines.loop (hbody : Refines mode b c) (hrest : Refines mode b' c') :
    Refines mode (.loop b b') (.loop c c') :=
  ⟨hbody.forward_loop hrest, hbody.backward_loop hrest⟩

/-! ### The two rules -/

/-- **Two neighbouring actions that undo each other can be dropped.** -/
theorem refines_inverse {x y : Action} (h : x.inverse? = some y) (rest : Block (Action × Nat)) :
    Refines mode (.act (x, 1) (.act (y, 1) rest)) rest where
  forward := by
    intro m k r hb
    obtain ⟨m₁, hx, hout, hy⟩ := Machine.perform_inverse mode h m
    rw [← Machine.performRun_once] at hx hy
    have hzero := exists_eval_zero mode rest m
    cases hb with
    | act hx' hb =>
      rw [hx] at hx'
      cases hx'
      cases hb with
      | act hy' hb =>
        rw [hy] at hy'
        cases hy'
        exact ⟨_, _, hb, by omega, Outcome.coveredBy_refl _⟩
      | stuck hy' =>
        rw [hy] at hy'
        cases hy'
      | cutAct =>
        obtain ⟨r', hr', hle⟩ := hzero
        have hle' : m₁.output <+: r'.machine.output := by rwa [hout]
        exact ⟨0, r', hr', Nat.zero_le _, hle'⟩
    | stuck hx' =>
      rw [hx] at hx'
      cases hx'
    | cutAct =>
      obtain ⟨r', hr', hle⟩ := hzero
      exact ⟨0, r', hr', Nat.zero_le _, hle⟩
  backward := by
    intro m k r hb _
    obtain ⟨m₁, hx, -, hy⟩ := Machine.perform_inverse mode h m
    rw [← Machine.performRun_once] at hx hy
    exact ⟨k + 2, .act hx (.act hy hb), by omega⟩

/-- An action performed once more is performed once and then as often as before. -/
theorem performRun_succ (mode : EndMode) (x : Action) (n : Nat) (m : Machine) :
    Machine.performRun mode (x, n + 1) m =
      Machine.performRun mode (x, 1) m >>= Machine.performRun mode (x, n) := by
  rw [Machine.performRun_once]
  rfl

/-- **An action before repetitions of itself is one repetition more.** -/
theorem refines_repeat (x : Action) (n : Nat) (rest : Block (Action × Nat)) :
    Refines mode (.act (x, 1) (.act (x, n) rest)) (.act (x, n + 1) rest) where
  forward := by
    intro m k r hb
    have hsucc := performRun_succ mode x n m
    cases hb with
    | @act _ _ _ m₁ j _ hx hb =>
      rw [hx] at hsucc
      cases hb with
      | act hx' hb => exact ⟨_, _, .act (hsucc.trans hx') hb, by omega, Outcome.coveredBy_refl _⟩
      | stuck hx' => exact ⟨0, _, .stuck (hsucc.trans hx'), Nat.zero_le _, rfl⟩
      | cutAct =>
        -- the repetitions have all been made in the one step, with more output if any
        rcases hx' : Machine.performRun mode (x, n) m₁ with m₂ | m₂
        · exact ⟨0, _, .stuck (hsucc.trans hx'), Nat.zero_le _, output_prefix_of_error hx'⟩
        · obtain ⟨r', hr', hle⟩ := exists_eval_zero mode rest m₂
          exact ⟨1, r', .act (hsucc.trans hx') hr', Nat.le_refl _,
            (output_prefix_of_ok hx').trans hle⟩
    | stuck hx =>
      rw [hx] at hsucc
      exact ⟨0, _, .stuck hsucc, Nat.le_refl 0, rfl⟩
    | cutAct => exact ⟨0, _, .cutAct, Nat.le_refl 0, List.prefix_refl _⟩
  backward := by
    intro m k r hb hr
    have hsucc := performRun_succ mode x n m
    rcases hx : Machine.performRun mode (x, 1) m with m₁ | m₁
    · rw [hx] at hsucc
      cases hb with
      | act hx' =>
        rw [hsucc] at hx'
        cases hx'
      | stuck hx' =>
        rw [hsucc] at hx'
        cases hx'
        exact ⟨0, .stuck hx, Nat.le_refl 0⟩
      | cutAct => cases hr
    · rw [hx] at hsucc
      cases hb with
      | act hx' hb => exact ⟨_, .act hx (.act (hsucc.symm.trans hx') hb), by omega⟩
      | stuck hx' => exact ⟨_, .act hx (.stuck (hsucc.symm.trans hx')), by omega⟩
      | cutAct => cases hr

end Block

end Brainfuck
