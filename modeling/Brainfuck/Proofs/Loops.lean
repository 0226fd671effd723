import Brainfuck.Proofs.Tables

/-!
# The loops of a program

The tables of a program fit together (`Brainfuck.Program.Fits`), which says of the partner of a
bracket on which side it stands and whose partner it is, but not which of the brackets there it is.
This file adds what is missing: between an opening bracket and its partner stands the code of the
body of a loop (`Brainfuck.Program.Holds.exists_body`), the text of which is balanced. The partner
is therefore the bracket that the opening bracket encloses a balanced text with
(`Brainfuck.Block.encloses_program`).
-/

namespace Brainfuck

open Brainfuck.Bracket

namespace Block

/-! ### The tables of a block -/

theorem code_program (b : Block (Action × Nat)) : b.program.code = b.runs.map Prod.fst := by
  have h : ∀ i, (b.instructionsAt i).map Instruction.command = b.runs.map Prod.fst := by
    induction b with
    | nil => exact fun _ => rfl
    | act x rest ih => exact fun i => congrArg (Command.act x.1 :: ·) (ih (i + 1))
    | loop body rest ihb ihr => simp [instructionsAt, runs, Instruction.command, ihb, ihr]
  simpa [Program.code, program] using h 0

theorem repeats_program (b : Block (Action × Nat)) : b.program.repeats = b.runs.map Prod.snd := by
  have h : ∀ i, (b.instructionsAt i).map Instruction.times = b.runs.map Prod.snd := by
    induction b with
    | nil => exact fun _ => rfl
    | act x rest ih => exact fun i => congrArg (x.2 :: ·) (ih (i + 1))
    | loop body rest ihb ihr => simp [instructionsAt, runs, Instruction.times, ihb, ihr]
  simpa [Program.repeats, program] using h 0

theorem jumps_program (b : Block (Action × Nat)) : b.program.jumps = b.partnersAt 0 := by
  have h : ∀ i, (b.instructionsAt i).map Instruction.jump? = b.partnersAt i := by
    induction b with
    | nil => exact fun _ => rfl
    | act x rest ih => exact fun i => congrArg (none :: ·) (ih (i + 1))
    | loop body rest ihb ihr => simp [instructionsAt, partnersAt, Instruction.jump?, ihb, ihr]
  simpa [Program.jumps, program] using h 0

end Block

namespace Program

/-! ### The body of a loop -/

/-- Behind an opening bracket of the code of a block stands the code of the body of a loop, and
behind this the partner. -/
theorem Holds.exists_body {p : Program} {b : Block (Action × Nat)} {i k j : Nat} (h : p.Holds i b)
    (hle : i ≤ k) (hlt : k < i + b.size) (hk : p.at? k = some (.opening j)) :
    ∃ body, p.Holds (k + 1) body ∧ j = k + 1 + body.size ∧ p.at? j = some (.closing k) := by
  induction b generalizing i with
  | nil =>
    rw [Block.size] at hlt
    omega
  | act x rest ih =>
    obtain ⟨hat, hrest⟩ := h
    rw [Block.size] at hlt
    rcases Nat.eq_or_lt_of_le hle with rfl | hlt'
    · rw [hat] at hk
      cases hk
    · exact ih hrest hlt' (by omega)
  | loop body rest ihb ihr =>
    obtain ⟨hopen, hbody, hclose, hrest⟩ := h
    rw [Block.size] at hlt
    rcases Nat.eq_or_lt_of_le hle with rfl | hlt'
    · rw [hopen] at hk
      cases hk
      exact ⟨body, hbody, rfl, hclose⟩
    rcases Nat.lt_trichotomy k (i + 1 + body.size) with hin | rfl | hafter
    · exact ihb hbody hlt' hin
    · rw [hclose] at hk
      cases hk
    · exact ihr hrest (by omega) (by omega)

theorem drop_code {p : Program} {i : Nat} {ins : Instruction} (h : p.at? i = some ins) :
    p.code.drop i = ins.command :: p.code.drop (i + 1) := by
  have hcode : p.code[i]? = some ins.command := by rw [code_getElem?, h]; rfl
  obtain ⟨hlt, hi⟩ := List.getElem?_eq_some_iff.mp hcode
  rw [List.drop_eq_getElem_cons hlt, hi]

/-- The commands at the place where the code of a block stands. -/
theorem Holds.take_drop_code {p : Program} {b : Block (Action × Nat)} {i : Nat} (h : p.Holds i b) :
    (p.code.drop i).take b.size = (b.map Prod.fst).commands := by
  induction b generalizing i with
  | nil => rfl
  | act x rest ih =>
    obtain ⟨hat, hrest⟩ := h
    rw [drop_code hat, Block.size, List.take_succ_cons, ih hrest]
    rfl
  | loop body rest ihb ihr =>
    obtain ⟨hopen, hbody, hclose, hrest⟩ := h
    have hsize : (Block.loop body rest).size = body.size + (rest.size + 1) + 1 := by
      rw [Block.size]
      omega
    have hnext : i + 1 + body.size + 1 = i + 2 + body.size := by omega
    rw [drop_code hopen, hsize, List.take_succ_cons, List.take_add, ihb hbody, List.drop_drop,
      drop_code hclose, List.take_succ_cons, hnext, ihr hrest]
    rfl

end Program

/-- **An opening bracket of a program encloses a balanced text with its partner.** -/
theorem Block.encloses_program {b : Block (Action × Nat)} {i j : Nat}
    (h : b.program.at? i = some (.opening j)) : Encloses b.program.code i j := by
  have hlt : i < b.program.size := by
    rw [Program.at?, Array.getElem?_eq_some_iff] at h
    exact h.1
  rw [size_program] at hlt
  obtain ⟨body, hbody, rfl, hclose⟩ :=
    (Program.holds_program b).exists_body (Nat.zero_le i) (by omega) h
  have hbetween : between b.program.code i (i + 1 + body.size) = (body.map Prod.fst).commands := by
    rw [← hbody.take_drop_code, between, List.take_drop]
  refine ⟨by omega, ⟨_, by rw [Program.code_getElem?, h]; rfl, rfl⟩,
    ⟨_, by rw [Program.code_getElem?, hclose]; rfl, rfl⟩, ?_⟩
  rw [hbetween]
  exact balanced_commands _

namespace Program

variable {cs : List Command} {optimize : Bool} {p : Program} {i j : Nat}

/-- **A jump from an opening bracket goes to the end of the balanced text behind it.** -/
theorem encloses_of_jump (h : compile cs optimize = .ok p) (hopening : p.code[i]? = some .opening)
    (hjump : p.jumps[i]? = some (some j)) : Encloses p.code i j := by
  obtain ⟨b, rfl, -⟩ := exists_block_of_compile h
  obtain ⟨ins, hins, hcommand⟩ := exists_of_code hopening
  rw [jumps_getElem?, hins] at hjump
  cases ins with
  | perform action times => cases hcommand
  | closing partner => cases hcommand
  | opening partner =>
    cases hjump
    exact Block.encloses_program hins

theorem exists_encloses_of_opening (h : compile cs optimize = .ok p)
    (hopening : p.code[i]? = some .opening) :
    ∃ j, Encloses p.code i j ∧ p.jumps[i]? = some (some j) ∧ p.jumps[j]? = some (some i) := by
  obtain ⟨j, hj, -, -, hi⟩ := (fits_of_compile h).jumps_opening hopening
  exact ⟨j, encloses_of_jump h hopening hj, hj, hi⟩

theorem exists_encloses_of_closing (h : compile cs optimize = .ok p)
    (hclosing : p.code[j]? = some .closing) :
    ∃ i, Encloses p.code i j ∧ p.jumps[i]? = some (some j) ∧ p.jumps[j]? = some (some i) := by
  obtain ⟨i, hj, -, hopening, hi⟩ := (fits_of_compile h).jumps_closing hclosing
  exact ⟨i, encloses_of_jump h hopening hi, hi, hj⟩

end Program

end Brainfuck
