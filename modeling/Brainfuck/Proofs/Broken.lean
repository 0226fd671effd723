import Brainfuck.Proofs.Depth

/-!
# Broken texts

A text whose brackets do not match has a bracket to blame (`Brainfuck.Bracket.Blamed`): the first
closing bracket for which nothing is open, and without any the first opening bracket that is never
closed.

A list of commands is of one of three forms (`Brainfuck.Block.exists_commands_or_broken`):

* the text of a block;
* the text of a block with a closing bracket behind it;
* the text of a block with an opening bracket behind it that nothing closes.

The last two are broken (`Brainfuck.Block.Broken`), at a position that is the size of the block. To
the matcher this is where it stops, or else the position that stays at the bottom of its stack to
the end; and by comparing depths it is the position of the bracket to blame. So the texts of blocks
are all the balanced texts, and all that the matcher accepts.
-/

namespace Brainfuck

namespace Bracket

variable {α : Type} [Symbol α] {text : List α} {i j k : Nat}

/-! ### Brackets to blame -/

/-- A closing bracket that closes more than has been opened. -/
def Stray (text : List α) (i : Nat) : Prop :=
  ClosesAt text i ∧ openings (text.take (i + 1)) < closings (text.take (i + 1))

/-- An opening bracket that is never closed: every part of the text that starts with it, and is not
empty, opens more than it closes. -/
def LeftOpen (text : List α) (i : Nat) : Prop :=
  OpensAt text i ∧ ∀ k, i < k → k ≤ text.length →
    closings ((text.take k).drop i) < openings ((text.take k).drop i)

/-- The first position with a property. -/
def First (P : Nat → Prop) (i : Nat) : Prop := P i ∧ ∀ j, j < i → ¬P j

theorem First.unique {P : Nat → Prop} (h : First P i) (h' : First P j) : i = j :=
  Nat.le_antisymm (Nat.le_of_not_lt fun hlt => h.2 j hlt h'.1)
    (Nat.le_of_not_lt fun hlt => h'.2 i hlt h.1)

/-- **The bracket to report**: the first stray closing bracket, and without any the first opening
bracket that is never closed. -/
def Blamed (text : List α) (i : Nat) : Prop :=
  First (Stray text) i ∨ (∀ j, ¬Stray text j) ∧ First (LeftOpen text) i

theorem stray_iff : Stray text i ↔ ClosesAt text i ∧ depth text (i + 1) < 0 := by
  rw [Stray, depth]
  exact and_congr_right fun _ => by omega

theorem leftOpen_iff : LeftOpen text i ↔
    OpensAt text i ∧ ∀ k, i < k → k ≤ text.length → depth text i < depth text k := by
  refine and_congr_right fun _ => forall_congr' fun k => forall_congr' fun hik =>
    imp_congr_right fun _ => ?_
  rw [depth_eq_add text (Nat.le_of_lt hik)]
  omega

/-- Only one bracket is to blame. -/
theorem Blamed.unique (h : Blamed text i) (h' : Blamed text j) : i = j := by
  rcases h with h | ⟨hnone, h⟩ <;> rcases h' with h' | ⟨hnone', h'⟩
  · exact h.unique h'
  · exact absurd h.1 (hnone' i)
  · exact absurd h'.1 (hnone j)
  · exact h.unique h'

/-- In a balanced text no bracket is to blame. -/
theorem Balanced.not_blamed (h : Balanced text) : ¬Blamed text i := by
  obtain ⟨hpos, hzero⟩ := balanced_iff.mp h
  rintro (⟨hstray, -⟩ | ⟨-, hopen, -⟩)
  · have hi := hpos (i + 1)
    have hneg := (stray_iff.mp hstray).2
    omega
  · have hi := hpos i
    have hend := (leftOpen_iff.mp hopen).2 _ hopen.1.lt (Nat.le_refl _)
    omega

end Bracket

namespace Block

open Brainfuck.Bracket

/-! ### Broken texts -/

/-- The depth in a text that starts with that of a block. -/
theorem depth_append_commands (b : Block Action) (t : List Command) (k : Nat) :
    depth (b.commands ++ t) (b.size + k) = depth t k := by
  have hb := b.balanced_commands.closings_eq
  rw [← length_commands, depth, List.take_length_add_append, openings_append, closings_append,
    depth]
  omega

/-- The depth is never negative. -/
def Grounded (t : List Command) : Prop := ∀ k, 0 ≤ depth t k

theorem grounded_commands (b : Block Action) : Grounded b.commands :=
  (balanced_iff.mp b.balanced_commands).1

theorem Grounded.opening {t : List Command} (h : Grounded t) : Grounded (.opening :: t)
  | 0 => Int.le_refl 0
  | k + 1 => by
    have hk := h k
    rw [depth_opening]
    omega

theorem Grounded.append {t : List Command} (h : Grounded t) (b : Block Action) :
    Grounded (b.commands ++ t) := by
  intro k
  rcases Nat.le_total k b.size with hk | hk
  · rw [depth_append_of_le t (by rwa [length_commands])]
    exact b.grounded_commands k
  · obtain ⟨m, rfl⟩ := Nat.exists_eq_add_of_le hk
    rw [depth_append_commands]
    exact h m

/-- **A broken text**, with the position of the bracket to report: behind the text of a block
stands a closing bracket, or an opening one that nothing closes. -/
inductive Broken : List Command → Nat → Prop
  /-- A closing bracket closes nothing. -/
  | closing (b : Block Action) (t : List Command) : Broken (b.commands ++ .closing :: t) b.size
  /-- An opening bracket is never closed. -/
  | opening (b : Block Action) (t : List Command) (h : Grounded t) :
    Broken (b.commands ++ .opening :: t) b.size

theorem Broken.act {t : List Command} {i : Nat} (h : Broken t i) (a : Action) :
    Broken (.act a :: t) (i + 1) := by
  cases h with
  | closing b t => exact .closing (.act a b) t
  | opening b t h => exact .opening (.act a b) t h

theorem Broken.loop {t : List Command} {i : Nat} (h : Broken t i) (b : Block Action) :
    ∃ j, Broken (.opening :: (b.commands ++ .closing :: t)) j := by
  cases h with
  | closing c t =>
    refine ⟨(Block.loop b c).size, ?_⟩
    have hbroken := Broken.closing (.loop b c) t
    rwa [commands, List.cons_append, List.append_assoc, List.cons_append] at hbroken
  | opening c t h =>
    refine ⟨(Block.loop b c).size, ?_⟩
    have hbroken := Broken.opening (.loop b c) t h
    rwa [commands, List.cons_append, List.append_assoc, List.cons_append] at hbroken

/-- **A list of commands is the text of a block or broken.** What follows an opening bracket is
either closed by a bracket that the rest is broken at, and then it is the body of a loop, or it
leaves the bracket open. -/
theorem exists_commands_or_broken (t : List Command) :
    (∃ b : Block Action, b.commands = t) ∨ ∃ i, Broken t i := by
  -- on the length, since what stands behind the body of a loop is not the tail of the list
  induction hn : t.length using Nat.strongRecOn generalizing t with
  | ind n ih =>
    subst hn
    rcases t with _ | ⟨x, rest⟩
    · exact Or.inl ⟨nil, rfl⟩
    have hrest := ih rest.length (by simp) rest rfl
    cases x with
    | act a =>
      rcases hrest with ⟨b, rfl⟩ | ⟨i, hbroken⟩
      · exact Or.inl ⟨.act a b, rfl⟩
      · exact Or.inr ⟨i + 1, hbroken.act a⟩
    | closing => exact Or.inr ⟨0, .closing nil rest⟩
    | opening =>
      rcases hrest with ⟨b, rfl⟩ | ⟨i, hbroken⟩
      · exact Or.inr ⟨0, .opening nil _ b.grounded_commands⟩
      cases hbroken with
      | opening b t h => exact Or.inr ⟨0, .opening nil _ (h.opening.append b)⟩
      | closing b t =>
        rcases ih t.length (by simp; omega) t rfl with ⟨c, rfl⟩ | ⟨j, hbroken⟩
        · exact Or.inl ⟨.loop b c, rfl⟩
        · exact Or.inr (hbroken.loop b)

theorem opensAt_size (b : Block Action) (t : List Command) :
    OpensAt (b.commands ++ .opening :: t) b.size := by
  have h : OpensAt (b.commands ++ .opening :: t) b.commands.length := opensAt_append rfl
  rwa [length_commands] at h

theorem closesAt_size (b : Block Action) (t : List Command) :
    ClosesAt (b.commands ++ .closing :: t) b.size := by
  have h : ClosesAt (b.commands ++ .closing :: t) b.commands.length := closesAt_append rfl
  rwa [length_commands] at h

/-- **The bracket at which a text is broken is to blame.** -/
theorem Broken.blamed {t : List Command} {i : Nat} (h : Broken t i) : Blamed t i := by
  cases h with
  | closing b t =>
    have hdepth : depth (b.commands ++ .closing :: t) (b.size + 1) = -1 := by
      rw [depth_append_commands]
      rfl
    refine Or.inl ⟨stray_iff.mpr ⟨b.closesAt_size t, by omega⟩, fun j hj hstray => ?_⟩
    -- up to the bracket the depth is that of the block
    have hneg := (stray_iff.mp hstray).2
    have hpos := b.grounded_commands (j + 1)
    rw [depth_append_of_le _ (by rw [length_commands]; omega)] at hneg
    omega
  | opening b t h =>
    have hgrounded := h.opening.append b
    have hdepth : depth (b.commands ++ .opening :: t) b.size = 0 :=
      depth_append_commands b (.opening :: t) 0
    refine Or.inr ⟨fun j hstray => ?_, leftOpen_iff.mpr ⟨b.opensAt_size t, fun k hk _ => ?_⟩,
      fun j hj hopen => ?_⟩
    · have hneg := (stray_iff.mp hstray).2
      have hpos := hgrounded (j + 1)
      omega
    · obtain ⟨m, rfl⟩ := Nat.exists_eq_add_of_lt hk
      have hm := h m
      rw [Nat.add_assoc, depth_append_commands, depth_opening]
      omega
    · -- a bracket of the block does not stay open: at its end the depth is zero again
      have hlt := (leftOpen_iff.mp hopen).2 b.size hj (by simp)
      have hpos := hgrounded j
      omega

/-- A broken text is not balanced. -/
theorem Broken.not_balanced {t : List Command} {i : Nat} (h : Broken t i) : ¬Balanced t :=
  fun hbalanced => hbalanced.not_blamed h.blamed

/-! ### The matcher -/

@[simp] theorem read_closing_nil (table : Array (Option Nat)) :
    Matching.read ⟨[], table⟩ Command.closing = .error table.size := rfl

@[simp] theorem read_closing_cons (start : Nat) (rest : List Nat) (table : Array (Option Nat)) :
    Matching.read ⟨start :: rest, table⟩ Command.closing =
      .ok ⟨rest, (table.setIfInBounds start (some table.size)).push (some start)⟩ := rfl

/-- **An opening bracket that nothing closes stays at the bottom of the stack**, below as many as
are open. -/
theorem exists_foldlM_read (t : List Command) {i : Nat} (above : List Nat)
    (table : Array (Option Nat)) (h : ∀ k, 0 ≤ (above.length : Int) + depth t k) :
    ∃ m above', t.foldlM Matching.read ⟨above ++ [i], table⟩ = .ok m ∧
      m.unclosed = above' ++ [i] := by
  induction t generalizing above table with
  | nil => exact ⟨_, above, rfl, rfl⟩
  | cons x t ih =>
    rw [List.foldlM_cons]
    cases x with
    | act a => exact ih above _ fun k => by simpa using h (k + 1)
    | opening =>
      refine ih (table.size :: above) _ fun k => ?_
      have hk := h (k + 1)
      rw [depth_opening] at hk
      rw [List.length_cons]
      omega
    | closing =>
      rcases above with _ | ⟨start, above⟩
      · -- the bracket would close the one at the bottom
        exact absurd (h 1) (by simp)
      · refine ih above _ fun k => ?_
        have hk := h (k + 1)
        rw [depth_closing, List.length_cons] at hk
        omega

/-- **The matcher reports the bracket at which a text is broken.** -/
theorem Broken.partners {t : List Command} {i : Nat} (h : Broken t i) :
    Bracket.partners t = .error i := by
  have hread : ∀ (b : Block Action) (t : List Command), Bracket.partners (b.commands ++ t) =
      t.foldlM Matching.read ⟨[], (b.partnersAt 0).toArray⟩ >>= Matching.finish := by
    intro b t
    rw [Bracket.partners, List.foldlM_append, foldlM_read_commands]
    simp [Matching.empty, bind, Except.bind]
  cases h with
  | closing b t =>
    rw [hread, List.foldlM_cons, read_closing_nil, List.size_toArray, length_partnersAt]
    rfl
  | opening b t h =>
    obtain ⟨m, above, hm, hlast⟩ := exists_foldlM_read t (i := b.size) []
      ((b.partnersAt 0).toArray.push none) fun k => by simpa using h k
    rw [hread, List.foldlM_cons, read_opening, List.size_toArray, length_partnersAt]
    change t.foldlM Matching.read ⟨[] ++ [b.size], _⟩ >>= Matching.finish = _
    rw [hm]
    change m.finish = _
    rw [Matching.finish, hlast]
    simp

/-! ### Texts that are not broken -/

/-- **A balanced text is the text of a block.** -/
theorem exists_commands_of_balanced {t : List Command} (h : Balanced t) :
    ∃ b : Block Action, b.commands = t := by
  rcases exists_commands_or_broken t with hb | ⟨i, hbroken⟩
  · exact hb
  · exact absurd h hbroken.not_balanced

/-- **The matcher accepts only texts of blocks.** -/
theorem exists_commands_of_partners {t : List Command} {table : Array (Option Nat)}
    (h : Bracket.partners t = .ok table) : ∃ b : Block Action, b.commands = t := by
  rcases exists_commands_or_broken t with hb | ⟨i, hbroken⟩
  · exact hb
  · rw [hbroken.partners] at h
    cases h

end Block

end Brainfuck
