import Mathlib.Algebra.GroupWithZero.Nat
import Mathlib.Data.List.Chain
import Brainfuck.Proofs.Loops

/-!
# Runs as a canonical form

A list of runs is canonical (`Brainfuck.Canonical`) if no run is empty, a bracket is a run by
itself, and neighbouring runs are of different letters unless they are brackets. Every text has
exactly one canonical list of runs, and this is the one that `Brainfuck.runs` computes: folding
loses nothing (`Brainfuck.expand_runs`), and neither does writing canonical runs out
(`Brainfuck.runs_expand`).

A program shows the runs that it is compiled from in two of its tables, the commands and how often
they are repeated (`Brainfuck.Program.exists_block_of_runsFor`). With optimization they are the
runs of the reduced text, so that the tables, written out, give this text again.
-/

namespace Brainfuck

section Canonical

variable {α : Type}

/-! ### Writing runs out -/

@[simp] theorem expand_nil : expand ([] : List (α × Nat)) = [] := rfl

@[simp] theorem expand_cons (r : α × Nat) (rs : List (α × Nat)) :
    expand (r :: rs) = List.replicate r.2 r.1 ++ expand rs := rfl

/-- The text is as long as its runs together. -/
theorem length_expand (rs : List (α × Nat)) : (expand rs).length = (rs.map Prod.snd).sum := by
  induction rs with
  | nil => rfl
  | cons r rs ih => simp [ih]

variable [Symbol α]

/-- **A canonical list of runs.** -/
structure Canonical (rs : List (α × Nat)) : Prop where
  /-- No run is empty. -/
  one_le : ∀ r ∈ rs, 1 ≤ r.2
  /-- A bracket is a run by itself. -/
  bracket : ∀ r ∈ rs, Symbol.isBracket r.1 = true → r.2 = 1
  /-- Two neighbouring runs are of different letters, unless the letter is a bracket. -/
  distinct : rs.IsChain fun r r' => Symbol.isBracket r.1 = false → r.1 ≠ r'.1

theorem Canonical.tail {r : α × Nat} {rs : List (α × Nat)} (h : Canonical (r :: rs)) :
    Canonical rs where
  one_le x hx := h.one_le x (List.mem_cons_of_mem _ hx)
  bracket x hx := h.bracket x (List.mem_cons_of_mem _ hx)
  distinct := h.distinct.tail

variable [DecidableEq α]

/-! ### Folding and writing out -/

theorem expand_consRun (a : α) (rs : List (α × Nat)) : expand (consRun a rs) = a :: expand rs := by
  rcases rs with _ | ⟨⟨b, n⟩, rest⟩
  · rfl
  rw [consRun]
  split
  · next h =>
    rw [expand_cons, expand_cons, h.1]
    rfl
  · rfl

/-- **Folding loses nothing.** -/
theorem expand_runs (text : List α) : expand (runs text) = text := by
  induction text with
  | nil => rfl
  | cons a text ih =>
    change expand (consRun a (runs text)) = a :: text
    rw [expand_consRun, ih]

/-- Putting a letter in front only ever changes the length of the first run, or adds a run that
is different from it or of a bracket. -/
theorem isChain_consRun {a : α} {rs : List (α × Nat)}
    (h : rs.IsChain fun r r' => Symbol.isBracket r.1 = false → r.1 ≠ r'.1) :
    (consRun a rs).IsChain fun r r' => Symbol.isBracket r.1 = false → r.1 ≠ r'.1 := by
  rcases rs with _ | ⟨⟨b, n⟩, rest⟩
  · exact List.isChain_singleton _
  rw [consRun]
  split
  · -- the letter of the first run is still the same
    rcases rest with _ | ⟨r, rest⟩
    · exact List.isChain_singleton _
    · exact List.isChain_cons_cons.mpr (List.isChain_cons_cons.mp h)
  · next hnot => exact List.isChain_cons_cons.mpr ⟨fun ha hab => hnot ⟨hab, ha⟩, h⟩

/-- **The runs of a text are canonical.** -/
theorem canonical_runs (text : List α) : Canonical (runs text) where
  one_le _ hx := one_le_of_mem_runs hx
  bracket _ hx hbracket := eq_one_of_mem_runs hx hbracket
  distinct := by
    induction text with
    | nil => exact List.isChain_nil
    | cons a text ih => exact isChain_consRun ih

/-- A whole run is put in front of runs of which the first is not of the same letter. -/
theorem foldr_consRun_replicate {a : α} (n : Nat) {rs : List (α × Nat)}
    (ha : Symbol.isBracket a = false) (h : ∀ r ∈ rs.head?, a ≠ r.1) :
    (List.replicate (n + 1) a).foldr consRun rs = (a, n + 1) :: rs := by
  induction n with
  | zero =>
    rcases rs with _ | ⟨⟨b, m⟩, rest⟩
    · rfl
    · have hab : a ≠ b := h (b, m) rfl
      rw [List.replicate_one, List.foldr_cons, List.foldr_nil, consRun, if_neg fun hb => hab hb.1]
  | succ n ih => rw [List.replicate_succ, List.foldr_cons, ih, consRun, if_pos ⟨rfl, ha⟩]

/-- **Writing out canonical runs loses nothing.** -/
theorem runs_expand {rs : List (α × Nat)} (h : Canonical rs) : runs (expand rs) = rs := by
  induction rs with
  | nil => rfl
  | cons r rs ih =>
    rcases r with ⟨a, n⟩
    have hrest : (expand rs).foldr consRun [] = rs := ih h.tail
    rw [runs, expand_cons, List.foldr_append, hrest]
    rcases ha : Symbol.isBracket a with _ | _
    · obtain ⟨m, rfl⟩ : ∃ m, n = m + 1 :=
        Nat.exists_eq_add_of_le' (h.one_le (a, n) List.mem_cons_self)
      refine foldr_consRun_replicate m ha fun r hr => ?_
      obtain ⟨rest, rfl⟩ := List.head?_eq_some_iff.mp hr
      exact (List.isChain_cons_cons.mp h.distinct).1 ha
    · obtain rfl : n = 1 := h.bracket (a, n) List.mem_cons_self ha
      rw [List.replicate_one, List.foldr_cons, List.foldr_nil]
      rcases rs with _ | ⟨⟨b, m⟩, rest⟩
      · rfl
      · rw [consRun, if_neg fun hb => by simp [ha] at hb]

end Canonical

/-- **Folding is lossless and canonical.** The runs of a text are canonical and spell it, and
canonical runs are the runs of what they spell. The tables of an optimized program are the runs of
the reduced text. -/
theorem runs_lossless (text : List Char) (source : String) :
    (Canonical (runs text) ∧ expand (runs text) = text ∧
        ((runs text).map Prod.snd).sum = text.length) ∧
      (∀ rs : List (Char × Nat), Canonical rs → runs (expand rs) = rs) ∧
      ∀ p, Program.compile (Command.ofText source) true = .ok p →
        p.code.length = p.repeats.length ∧
          expand (p.code.zip p.repeats) = reduce (Command.ofText source) ∧
          p.logicalSize = (reduce (Command.ofText source)).length := by
  refine ⟨⟨canonical_runs text, expand_runs text, ?_⟩, fun rs h => runs_expand h, fun p h => ?_⟩
  · rw [← length_expand, expand_runs]
  · obtain ⟨b, hb, rfl⟩ := Program.exists_block_of_runsFor h
    have hexpand : expand b.runs = reduce (Command.ofText source) := by
      rw [hb, Program.runsFor, expand_runs]
    have hzip : b.program.code.zip b.program.repeats = b.runs := by
      rw [Block.code_program, Block.repeats_program, ← List.zip_of_prod rfl rfl]
    have hlogical : b.program.logicalSize = (b.runs.map Prod.snd).sum := by
      rw [Program.logicalSize, Block.repeats_program]
      rfl
    refine ⟨?_, by rw [hzip, hexpand], by rw [hlogical, ← length_expand, hexpand]⟩
    rw [Block.code_program, Block.repeats_program, List.length_map, List.length_map]

end Brainfuck
