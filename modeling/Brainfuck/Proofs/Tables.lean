import Brainfuck.Proofs.Program

/-!
# The tables of a compiled program

A program shows three tables, one entry for each of its instructions: its commands, the
positions of the partners, and how often a command is repeated. In a program that has been
compiled they fit together (`Brainfuck.Program.Fits`): partners are mutual, an opening bracket
stands before its partner, and nothing else has one.

The proof is about one position at a time (`Brainfuck.Program.Paired`), by induction on the
block of the program. The partner of a bracket is always in the same part of the block, so
the induction never has to look further than its own part.
-/

namespace Brainfuck

namespace Program

/-- **The tables fit together.** -/
structure Fits (p : Program) : Prop where
  /-- There is a command for each instruction. -/
  length_code : p.code.length = p.size
  /-- There is an entry for the partner of each instruction. -/
  length_jumps : p.jumps.length = p.size
  /-- There is a number for each instruction. -/
  length_repeats : p.repeats.length = p.size
  /-- Every command is repeated at least once. -/
  one_le_repeats : ∀ {i n : Nat}, p.repeats[i]? = some n → 1 ≤ n
  /-- Brackets are not repeated. -/
  repeats_bracket : ∀ {i : Nat} {c : Command}, p.code[i]? = some c → c.isBracket = true →
    p.repeats[i]? = some 1
  /-- An action has no partner. -/
  jumps_act : ∀ {i : Nat} {a : Action}, p.code[i]? = some (.act a) → p.jumps[i]? = some none
  /-- The partner of an opening bracket is a closing bracket behind it, whose partner it is. -/
  jumps_opening : ∀ {i : Nat}, p.code[i]? = some .opening →
    ∃ j, p.jumps[i]? = some (some j) ∧ i < j ∧ p.code[j]? = some .closing ∧
      p.jumps[j]? = some (some i)
  /-- The partner of a closing bracket is an opening bracket before it, whose partner it is. -/
  jumps_closing : ∀ {j : Nat}, p.code[j]? = some .closing →
    ∃ i, p.jumps[j]? = some (some i) ∧ i < j ∧ p.code[i]? = some .opening ∧
      p.jumps[i]? = some (some j)

/-! ### One position at a time -/

/-- What stands at a position is all right: an action is performed at least once, and a bracket
has its partner on the right side, whose partner it is. -/
def Paired (p : Program) (i : Nat) : Prop :=
  match p.at? i with
  | none => True
  | some (.perform _ n) => 1 ≤ n
  | some (.opening j) => i < j ∧ p.at? j = some (.closing i)
  | some (.closing j) => j < i ∧ p.at? j = some (.opening i)

theorem Holds.paired {p : Program} {b : Block (Action × Nat)} {i : Nat} (h : p.Holds i b)
    (hpos : ∀ x ∈ b.runs, 1 ≤ x.2) {k : Nat} (hle : i ≤ k) (hlt : k < i + b.size) :
    p.Paired k := by
  induction b generalizing i with
  | nil =>
    rw [Block.size] at hlt
    omega
  | act x rest ih =>
    obtain ⟨hat, hrest⟩ := h
    rw [Block.size] at hlt
    rcases Nat.eq_or_lt_of_le hle with rfl | hlt'
    · rw [Paired, hat]
      exact hpos (.act x.1, x.2) List.mem_cons_self
    · exact ih hrest (fun y hy => hpos y (List.mem_cons_of_mem _ hy)) hlt' (by omega)
  | loop body rest ihb ihr =>
    obtain ⟨hopen, hbody, hclose, hrest⟩ := h
    rw [Block.size] at hlt
    have hposb : ∀ x ∈ body.runs, 1 ≤ x.2 := fun x hx => hpos x (by simp [Block.runs, hx])
    have hposr : ∀ x ∈ rest.runs, 1 ≤ x.2 := fun x hx => hpos x (by simp [Block.runs, hx])
    rcases Nat.eq_or_lt_of_le hle with rfl | hlt'
    · rw [Paired, hopen]
      exact ⟨by omega, hclose⟩
    rcases Nat.lt_trichotomy k (i + 1 + body.size) with hin | rfl | hafter
    · exact ihb hbody hposb hlt' hin
    · rw [Paired, hclose]
      exact ⟨by omega, hopen⟩
    · exact ihr hrest hposr (by omega) (by omega)

/-- Beyond the end of a program there is nothing that could be wrong. -/
theorem paired_program {b : Block (Action × Nat)} (hpos : ∀ x ∈ b.runs, 1 ≤ x.2) (i : Nat) :
    b.program.Paired i := by
  by_cases hlt : i < b.size
  · exact (holds_program b).paired hpos (Nat.zero_le i) (by omega)
  · have hnone : b.program.at? i = none := by
      refine Array.getElem?_eq_none ?_
      have hsize : b.program.instructions.size = b.size := Block.size_program b
      omega
    rw [Paired, hnone]
    trivial

/-! ### The tables -/

section Tables

variable (p : Program) (i : Nat)

theorem code_getElem? : p.code[i]? = (p.at? i).map Instruction.command := by
  rw [code, List.getElem?_map, at?, Array.getElem?_toList]

theorem jumps_getElem? : p.jumps[i]? = (p.at? i).map Instruction.jump? := by
  rw [jumps, List.getElem?_map, at?, Array.getElem?_toList]

theorem repeats_getElem? : p.repeats[i]? = (p.at? i).map Instruction.times := by
  rw [repeats, List.getElem?_map, at?, Array.getElem?_toList]

end Tables

/-- The instruction at a position is given by its command. -/
theorem exists_of_code {p : Program} {i : Nat} {c : Command} (h : p.code[i]? = some c) :
    ∃ ins, p.at? i = some ins ∧ ins.command = c := by
  rw [code_getElem?, Option.map_eq_some_iff] at h
  exact h

/-- If every position is all right then the tables fit together. -/
theorem fits_of_paired {p : Program} (h : ∀ i, p.Paired i) : p.Fits where
  length_code := by simp [code, size]
  length_jumps := by simp [jumps, size]
  length_repeats := by simp [repeats, size]
  one_le_repeats := by
    intro i n hn
    rw [repeats_getElem?, Option.map_eq_some_iff] at hn
    obtain ⟨ins, hins, rfl⟩ := hn
    have hi := h i
    rw [Paired, hins] at hi
    cases ins with
    | perform action times => exact hi
    | opening partner => exact Nat.le_refl 1
    | closing partner => exact Nat.le_refl 1
  repeats_bracket := by
    intro i c hc hbracket
    obtain ⟨ins, hins, rfl⟩ := exists_of_code hc
    rw [repeats_getElem?, hins]
    cases ins with
    | perform action times => cases hbracket
    | opening partner => rfl
    | closing partner => rfl
  jumps_act := by
    intro i a ha
    obtain ⟨ins, hins, hcommand⟩ := exists_of_code ha
    rw [jumps_getElem?, hins]
    cases ins with
    | perform action times => rfl
    | opening partner => cases hcommand
    | closing partner => cases hcommand
  jumps_opening := by
    intro i hopening
    obtain ⟨ins, hins, hcommand⟩ := exists_of_code hopening
    have hi := h i
    rw [Paired, hins] at hi
    cases ins with
    | perform action times => cases hcommand
    | closing partner => cases hcommand
    | opening j =>
      obtain ⟨hlt, hj⟩ := hi
      exact ⟨j, by rw [jumps_getElem?, hins]; rfl, hlt, by rw [code_getElem?, hj]; rfl,
        by rw [jumps_getElem?, hj]; rfl⟩
  jumps_closing := by
    intro j hclosing
    obtain ⟨ins, hins, hcommand⟩ := exists_of_code hclosing
    have hj := h j
    rw [Paired, hins] at hj
    cases ins with
    | perform action times => cases hcommand
    | opening partner => cases hcommand
    | closing i =>
      obtain ⟨hlt, hi⟩ := hj
      exact ⟨i, by rw [jumps_getElem?, hins]; rfl, hlt, by rw [code_getElem?, hi]; rfl,
        by rw [jumps_getElem?, hi]; rfl⟩

/-- The tables of the program without instructions are empty. -/
theorem fits_empty : empty.Fits := by
  have h : ∀ x ∈ (Block.nil : Block (Action × Nat)).runs, 1 ≤ x.2 := nofun
  exact fits_of_paired (paired_program h)

/-- **The tables of a compiled program fit together.** -/
theorem fits_of_compile {cs : List Command} {optimize : Bool} {p : Program}
    (h : compile cs optimize = .ok p) : p.Fits := by
  obtain ⟨b, rfl, hpos⟩ := exists_block_of_compile h
  exact fits_of_paired (paired_program hpos)

/-- The instruction after a partner is in the program or at its end. -/
theorem Fits.partner_lt {p : Program} (h : p.Fits) {i j : Nat} {ins : Instruction}
    (hins : p.at? i = some ins) (hj : ins.jump? = some j) : j < p.size := by
  have hlt : ∀ {c}, p.code[j]? = some c → j < p.size := by
    intro c hc
    rw [← h.length_code]
    exact (List.getElem?_eq_some_iff.mp hc).1
  have hcode : p.code[i]? = some ins.command := by rw [code_getElem?, hins]; rfl
  have hjump : p.jumps[i]? = some (some j) := by rw [jumps_getElem?, hins, Option.map_some, hj]
  cases ins with
  | perform action times => cases hj
  | opening partner =>
    obtain ⟨k, hk, -, hclosing, -⟩ := h.jumps_opening hcode
    rw [hjump, Option.some.injEq, Option.some.injEq] at hk
    exact hlt (hk ▸ hclosing)
  | closing partner =>
    obtain ⟨k, hk, -, hopening, -⟩ := h.jumps_closing hcode
    rw [hjump, Option.some.injEq, Option.some.injEq] at hk
    exact hlt (hk ▸ hopening)

end Program

end Brainfuck
