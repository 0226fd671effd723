import Brainfuck.Proofs.Block

/-!
# Laws of runs

Every run has a length, and the run of a bracket has length one. Beside these two facts
about the runs of any text, the runs of the text of a block are those of its folded form
(`Brainfuck.Block.runs_commands`): folding never looks past a bracket, so it can be done
inside each loop by itself.
-/

namespace Brainfuck

section Runs

variable {α : Type} [Symbol α] [DecidableEq α]

/-- Only the first run can have changed when a letter is put before the runs. -/
theorem mem_consRun {a : α} {rs : List (α × Nat)} {x : α × Nat} (h : x ∈ consRun a rs) :
    x ∈ rs ∨ x = (a, 1) ∨ Symbol.isBracket a = false ∧ ∃ n, x = (a, n + 1) := by
  rcases rs with _ | ⟨⟨b, n⟩, rest⟩
  · exact Or.inr (Or.inl (List.mem_singleton.mp h))
  rw [consRun] at h
  split at h
  · next hab =>
    obtain ⟨rfl, ha⟩ := hab
    rcases List.mem_cons.mp h with rfl | h
    · exact Or.inr (Or.inr ⟨ha, n, rfl⟩)
    · exact Or.inl (List.mem_cons_of_mem _ h)
  · rcases List.mem_cons.mp h with rfl | h
    · exact Or.inr (Or.inl rfl)
    · exact Or.inl h

/-- **No run is empty.** -/
theorem one_le_of_mem_runs {text : List α} {x : α × Nat} (h : x ∈ runs text) : 1 ≤ x.2 := by
  induction text with
  | nil => cases h
  | cons a rest ih =>
    rcases mem_consRun h with h | rfl | ⟨-, n, rfl⟩
    · exact ih h
    · exact Nat.le_refl 1
    · exact Nat.le_add_left 1 n

/-- **Brackets are not folded.** -/
theorem eq_one_of_mem_runs {text : List α} {x : α × Nat} (h : x ∈ runs text)
    (hx : Symbol.isBracket x.1 = true) : x.2 = 1 := by
  induction text with
  | nil => cases h
  | cons a rest ih =>
    rcases mem_consRun h with h | rfl | ⟨ha, n, rfl⟩
    · exact ih h
    · rfl
    · rw [ha] at hx
      cases hx

end Runs

namespace Block

theorem consRun_bracket {c : Command} (h : c.isBracket = true) (rs : List (Command × Nat)) :
    consRun c rs = (c, 1) :: rs := by
  rcases rs with _ | ⟨⟨b, n⟩, rest⟩
  · rfl
  · have hc : ¬Symbol.isBracket c = false := by simpa [Symbol.isBracket, Symbol.command?] using h
    rw [consRun, if_neg fun hbc => hc hbc.2]

theorem consRun_act (a : Action) (b : Block (Action × Nat)) (tail : List (Command × Nat))
    (h : ∀ x ∈ tail.head?, x.1.isBracket = true) :
    consRun (.act a) (b.runs ++ tail) = (consAction a b).runs ++ tail := by
  rcases b with _ | ⟨⟨c, n⟩, rest⟩ | ⟨body, rest⟩
  · rcases tail with _ | ⟨⟨d, m⟩, tail⟩
    · rfl
    · have hd : d.isBracket = true := h (d, m) rfl
      have hne : Command.act a ≠ d := by
        rintro rfl
        cases hd
      simp [runs, consAction, consRun, hne]
  · by_cases hac : a = c
    · simp [runs, consAction, consRun, hac, Symbol.isBracket, Symbol.command?, Command.isBracket]
    · simp [runs, consAction, consRun, hac]
  · simp [runs, consAction, consRun]

/-- The runs of a block that is followed by nothing or by a bracket. -/
theorem foldr_consRun_commands (b : Block Action) (tail : List (Command × Nat))
    (h : ∀ x ∈ tail.head?, x.1.isBracket = true) :
    b.commands.foldr consRun tail = b.fold.runs ++ tail := by
  induction b generalizing tail with
  | nil => rfl
  | act a rest ih =>
    rw [commands, List.foldr_cons, ih tail h, consRun_act a _ tail h]
    rfl
  | loop body rest ihb ihr =>
    rw [commands, List.foldr_cons, List.foldr_append, List.foldr_cons, ihr tail h,
      consRun_bracket (c := .closing) rfl, ihb _ (by rintro x ⟨⟩; rfl), consRun_bracket rfl]
    simp [fold, runs]

/-- **The runs of the text of a block** are those of the folded block. -/
theorem runs_commands (b : Block Action) : Brainfuck.runs b.commands = b.fold.runs := by
  have h := foldr_consRun_commands b [] (by simp)
  rwa [List.append_nil] at h

end Block

end Brainfuck
