import Brainfuck.Proofs.Broken
import Brainfuck.Proofs.RunLength

/-!
# The programs of blocks

A list of runs that is the text of a block compiles to the program of the block
(`Brainfuck.Block.ofRuns_runs`), and nothing else compiles
(`Brainfuck.Program.exists_block_of_compile`). This is all that later files use of the
compiler: what they prove of compiled programs they prove of the programs of blocks, by
induction on the block.

For such an induction a part of a program has to be recognized as the code of a part
of the block. `Brainfuck.Program.Holds p i b` says that the code of the block `b` stands at
position `i` of the program `p`.
-/

namespace Brainfuck

namespace Block

/-! ### Compiling a block -/

theorem zipWith_runs (i : Nat) (b : Block (Action × Nat)) :
    List.zipWith (fun (r : Command × Nat) partner => Instruction.ofCommand r.1 r.2 partner)
      b.runs (b.partnersAt i) = b.instructionsAt i := by
  induction b generalizing i with
  | nil => rfl
  | act x rest ih => rw [runs, partnersAt, instructionsAt, List.zipWith_cons_cons, ih]; rfl
  | loop body rest ihb ihr =>
    rw [runs, partnersAt, instructionsAt, List.zipWith_cons_cons,
      List.zipWith_append (by simp), ihb, List.zipWith_cons_cons, ihr]
    rfl

/-- **The runs of a block compile to its program.** -/
theorem ofRuns_runs (b : Block (Action × Nat)) : Program.ofRuns b.runs = .ok b.program := by
  have h := partners_commands (b.map Prod.fst)
  rw [partnersAt_map, ← map_fst_runs] at h
  rw [Program.ofRuns, h, program, ← zipWith_runs 0 b]
  rfl

/-- The plain program of a block. -/
theorem compile_commands (b : Block Action) :
    Program.compile b.commands false = .ok (b.map (·, 1)).program := by
  have h := ofRuns_runs (b.map (·, 1))
  rw [runs_map_once] at h
  have hcompile : Program.compile b.commands false =
      (Program.ofRuns (b.commands.map (·, 1))).mapError .unbalanced := rfl
  rw [hcompile, h]
  rfl

/-- Numbers can be put at the actions of a block if they are one at its brackets. -/
theorem exists_runs (b : Block Action) {rs : List (Command × Nat)}
    (h : rs.map Prod.fst = b.commands) (hone : ∀ x ∈ rs, x.1.isBracket = true → x.2 = 1) :
    ∃ c : Block (Action × Nat), c.runs = rs := by
  induction b generalizing rs with
  | nil =>
    obtain rfl := List.map_eq_nil_iff.mp h
    exact ⟨nil, rfl⟩
  | act a rest ih =>
    obtain ⟨⟨x, n⟩, tail, rfl, hx, htail⟩ := List.map_eq_cons_iff.mp h
    obtain rfl : x = .act a := hx
    obtain ⟨c, rfl⟩ := ih htail fun y hy => hone y (List.mem_cons_of_mem _ hy)
    exact ⟨act (a, n) c, rfl⟩
  | loop body rest ihb ihr =>
    obtain ⟨⟨x, n⟩, tail, rfl, hx, htail⟩ := List.map_eq_cons_iff.mp h
    obtain rfl : x = .opening := hx
    obtain ⟨rs₁, tail₂, rfl, hbody, htail₂⟩ := List.map_eq_append_iff.mp htail
    obtain ⟨⟨y, m⟩, rs₂, rfl, hy, hrest⟩ := List.map_eq_cons_iff.mp htail₂
    obtain rfl : y = .closing := hy
    obtain rfl : n = 1 := hone (.opening, n) (by simp) rfl
    obtain rfl : m = 1 := hone (.closing, m) (by simp) rfl
    obtain ⟨c, rfl⟩ := ihb hbody fun z hz => hone z (by simp [hz])
    obtain ⟨d, rfl⟩ := ihr hrest fun z hz => hone z (by simp [hz])
    exact ⟨loop c d, rfl⟩

end Block

namespace Program

/-- What compiles is the text of a block. -/
theorem exists_block_of_ofRuns {rs : List (Command × Nat)} {p : Program}
    (h : ofRuns rs = .ok p) (hone : ∀ x ∈ rs, x.1.isBracket = true → x.2 = 1) :
    ∃ b : Block (Action × Nat), b.runs = rs ∧ p = b.program := by
  rcases hp : Bracket.partners (rs.map Prod.fst) with e | table
  · rw [ofRuns, hp] at h
    cases h
  obtain ⟨c, hc⟩ := Block.exists_commands_of_partners hp
  obtain ⟨b, rfl⟩ := c.exists_runs hc.symm hone
  rw [Block.ofRuns_runs] at h
  cases h
  exact ⟨b, rfl, rfl⟩

/-- The runs that a list of commands is compiled from. -/
def runsFor (cs : List Command) : Bool → List (Command × Nat)
  | false => cs.map (·, 1)
  | true => runs (reduce cs)

theorem one_le_of_mem_runsFor {cs : List Command} {optimize : Bool} {x : Command × Nat}
    (hx : x ∈ runsFor cs optimize) : 1 ≤ x.2 := by
  cases optimize with
  | false =>
    obtain ⟨c, -, rfl⟩ := List.mem_map.mp hx
    exact Nat.le_refl 1
  | true => exact one_le_of_mem_runs hx

theorem eq_one_of_mem_runsFor {cs : List Command} {optimize : Bool} {x : Command × Nat}
    (hx : x ∈ runsFor cs optimize) (hbracket : x.1.isBracket = true) : x.2 = 1 := by
  cases optimize with
  | false =>
    obtain ⟨c, -, rfl⟩ := List.mem_map.mp hx
    rfl
  | true =>
    exact eq_one_of_mem_runs hx (by simpa [Symbol.isBracket, Symbol.command?] using hbracket)

/-- Compiling, if there is something to compile. -/
theorem compile_eq {cs : List Command} {optimize : Bool} (h : optimize = true → cs ≠ []) :
    compile cs optimize = (ofRuns (runsFor cs optimize)).mapError .unbalanced := by
  cases optimize with
  | false => rfl
  | true =>
    rcases cs with _ | ⟨c, cs⟩
    · exact absurd rfl (h rfl)
    · rfl

/-- **A compiled program is that of a block with the runs it is compiled from.** -/
theorem exists_block_of_runsFor {cs : List Command} {optimize : Bool} {p : Program}
    (h : compile cs optimize = .ok p) :
    ∃ b : Block (Action × Nat), b.runs = runsFor cs optimize ∧ p = b.program := by
  have hsome : optimize = true → cs ≠ [] := by
    rintro rfl rfl
    cases h
  rw [compile_eq hsome] at h
  rcases hruns : ofRuns (runsFor cs optimize) with e | q
  · rw [hruns] at h
    cases h
  · rw [hruns] at h
    cases h
    exact exists_block_of_ofRuns hruns fun x hx => eq_one_of_mem_runsFor hx

/-- **Every compiled program is that of a block**, no action of which is performed less than
once. -/
theorem exists_block_of_compile {cs : List Command} {optimize : Bool} {p : Program}
    (h : compile cs optimize = .ok p) :
    ∃ b : Block (Action × Nat), p = b.program ∧ ∀ x ∈ b.runs, 1 ≤ x.2 := by
  obtain ⟨b, hb, rfl⟩ := exists_block_of_runsFor h
  refine ⟨b, rfl, fun x hx => ?_⟩
  rw [hb] at hx
  exact one_le_of_mem_runsFor hx

/-! ### The code of a block in a program -/

/-- The code of a block stands at a position of a program. -/
def Holds (p : Program) : Nat → Block (Action × Nat) → Prop
  | _, .nil => True
  | i, .act (a, n) rest => p.at? i = some (.perform a n) ∧ p.Holds (i + 1) rest
  | i, .loop body rest =>
    p.at? i = some (.opening (i + 1 + body.size)) ∧ p.Holds (i + 1) body ∧
      p.at? (i + 1 + body.size) = some (.closing i) ∧ p.Holds (i + 2 + body.size) rest

theorem holds_of_append {p : Program} {i : Nat} {b : Block (Action × Nat)}
    {before after : List Instruction} (hi : before.length = i)
    (hat : ∀ k, p.at? k = (before ++ (b.instructionsAt i ++ after))[k]?) : p.Holds i b := by
  induction b generalizing i before after with
  | nil => trivial
  | act x rest ih =>
    have hcode : before ++ ((Block.act x rest).instructionsAt i ++ after) =
        (before ++ [.perform x.1 x.2]) ++ (rest.instructionsAt (i + 1) ++ after) := by
      simp [Block.instructionsAt]
    have hlen : (before ++ [Instruction.perform x.1 x.2]).length = i + 1 := by simp [hi]
    refine ⟨?_, ih hlen fun k => by rw [hat, hcode]⟩
    rw [hat, ← hi]
    simp [Block.instructionsAt]
  | loop body rest ihb ihr =>
    have hcode : before ++ ((Block.loop body rest).instructionsAt i ++ after) =
        (before ++ [.opening (i + 1 + body.size)]) ++ (body.instructionsAt (i + 1) ++
          (.closing i :: (rest.instructionsAt (i + 2 + body.size) ++ after))) := by
      simp [Block.instructionsAt]
    have hcode' : before ++ ((Block.loop body rest).instructionsAt i ++ after) =
        (before ++ [.opening (i + 1 + body.size)] ++ body.instructionsAt (i + 1) ++
          [.closing i]) ++ (rest.instructionsAt (i + 2 + body.size) ++ after) := by
      simp [Block.instructionsAt]
    have hlen : (before ++ [Instruction.opening (i + 1 + body.size)]).length = i + 1 := by simp [hi]
    refine ⟨?_, ihb hlen fun k => by rw [hat, hcode], ?_,
      ihr ?_ fun k => by rw [hat, hcode']⟩
    · rw [hat, ← hi]
      simp [Block.instructionsAt]
    · rw [hat, hcode, List.getElem?_append_right (by simp; omega),
        List.getElem?_append_right (by simp; omega)]
      have hzero : i + 1 + body.size -
          (before ++ [Instruction.opening (i + 1 + body.size)]).length -
            (body.instructionsAt (i + 1)).length = 0 := by
        simp
        omega
      rw [hzero]
      rfl
    · simp
      omega

/-- The code of a block stands at the start of its program. -/
theorem holds_program (b : Block (Action × Nat)) : b.program.Holds 0 b := by
  have hat : ∀ k, b.program.at? k = ([] ++ (b.instructionsAt 0 ++ []))[k]? := by
    intro k
    simp [at?, Block.program]
  exact holds_of_append rfl hat

end Program

end Brainfuck
