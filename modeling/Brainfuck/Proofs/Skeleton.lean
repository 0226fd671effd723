import Brainfuck.Proofs.Folding
import Brainfuck.Proofs.Reduction

/-!
# The skeleton of a program

What is left of a text when only its brackets are kept is its skeleton (`Brainfuck.skeleton`). A
bracket of the text stands in the skeleton at the position that is its ordinal, the number of
brackets before it (`Brainfuck.ordinal`).

Neither of the two passes that shorten a text changes its skeleton. And everything that the matcher
finds in a text it finds at the same brackets in the skeleton: whether the text is balanced, which
brackets belong together, and which one is to blame if it is broken. Two texts with one skeleton
therefore have the same loops, and a broken text that is shortened is broken at the same bracket
(`Brainfuck.Program.KeepsLoops`).
-/

namespace Brainfuck

open Brainfuck.Bracket

/-- The brackets of a text. -/
def skeleton (cs : List Command) : List Command := cs.filter Command.isBracket

/-- **The ordinal of a position**: the number of brackets before it. -/
def ordinal (cs : List Command) (i : Nat) : Nat := (skeleton (cs.take i)).length

/-- A bracket stands at a position. -/
def BracketAt (cs : List Command) (i : Nat) : Prop := ∃ c, cs[i]? = some c ∧ c.isBracket = true

section Skeleton

variable {cs ds : List Command} {c : Command} {i j k : Nat}

theorem Bracket.OpensAt.bracketAt (h : OpensAt cs i) : BracketAt cs i := by
  obtain ⟨a, ha, hopening⟩ := h
  obtain rfl : a = .opening := Option.some.inj hopening
  exact ⟨_, ha, rfl⟩

theorem Bracket.ClosesAt.bracketAt (h : ClosesAt cs i) : BracketAt cs i := by
  obtain ⟨a, ha, hclosing⟩ := h
  obtain rfl : a = .closing := Option.some.inj hclosing
  exact ⟨_, ha, rfl⟩

/-! ### Positions in the skeleton -/

@[simp] theorem skeleton_append (cs ds : List Command) :
    skeleton (cs ++ ds) = skeleton cs ++ skeleton ds := List.filter_append ..

theorem skeleton_cons (h : c.isBracket = true) (cs : List Command) :
    skeleton (c :: cs) = c :: skeleton cs := List.filter_cons_of_pos h

theorem skeleton_take (cs : List Command) (i : Nat) :
    (skeleton cs).take (ordinal cs i) = skeleton (cs.take i) := by
  have hsplit : skeleton cs = skeleton (cs.take i) ++ skeleton (cs.drop i) := by
    rw [← skeleton_append, List.take_append_drop]
  rw [hsplit, ordinal, List.take_left]

/-- The ordinal of the end of a first part. -/
theorem ordinal_append (cs ds : List Command) :
    ordinal (cs ++ ds) cs.length = (skeleton cs).length := by
  rw [ordinal, List.take_left]

theorem ordinal_mono (h : i ≤ j) : ordinal cs i ≤ ordinal cs j :=
  ((List.take_prefix_take_left h).sublist.filter _).length_le

/-- **A bracket stands in the skeleton at its ordinal.** -/
theorem getElem?_skeleton (h : cs[i]? = some c) (hc : c.isBracket = true) :
    (skeleton cs)[ordinal cs i]? = some c := by
  obtain ⟨hlt, hi⟩ := List.getElem?_eq_some_iff.mp h
  have hsplit : skeleton cs = skeleton (cs.take i) ++ c :: skeleton (cs.drop (i + 1)) := by
    rw [← skeleton_cons hc, ← skeleton_append, ← hi, ← List.drop_eq_getElem_cons hlt,
      List.take_append_drop]
  rw [hsplit, ordinal, List.getElem?_append_right (Nat.le_refl _), Nat.sub_self]
  rfl

theorem ordinal_succ (h : cs[i]? = some c) (hc : c.isBracket = true) :
    ordinal cs (i + 1) = ordinal cs i + 1 := by
  rw [ordinal, List.take_add_one, h, Option.toList_some, skeleton_append, List.length_append,
    skeleton_cons hc]
  rfl

/-! ### Depth in the skeleton -/

theorem openings_skeleton (cs : List Command) : openings (skeleton cs) = openings cs := by
  rw [skeleton, openings, List.countP_filter]
  refine List.countP_congr fun c _ => ?_
  cases c <;> simp [Symbol.command?, Command.isBracket]

theorem closings_skeleton (cs : List Command) : closings (skeleton cs) = closings cs := by
  rw [skeleton, closings, List.countP_filter]
  refine List.countP_congr fun c _ => ?_
  cases c <;> simp [Symbol.command?, Command.isBracket]

theorem depth_skeleton (cs : List Command) (i : Nat) :
    depth (skeleton cs) (ordinal cs i) = depth cs i := by
  rw [depth, skeleton_take, openings_skeleton, closings_skeleton, depth]

/-- Every depth in the skeleton is one in the text. -/
theorem exists_depth_skeleton (cs : List Command) (k : Nat) :
    ∃ i, depth (skeleton cs) k = depth cs i := by
  obtain ⟨l, r, rfl, hl, -⟩ :=
    List.filter_eq_append_iff.mp (List.take_append_drop k (skeleton cs)).symm
  refine ⟨l.length, ?_⟩
  rw [depth, depth, List.take_left, ← hl]
  exact congrArg₂ (fun m n : Nat => (m : Int) - n) (openings_skeleton l) (closings_skeleton l)

/-- **A text is as balanced as its skeleton.** -/
theorem balanced_skeleton : Balanced (skeleton cs) ↔ Balanced cs := by
  have hend : depth (skeleton cs) (skeleton cs).length = depth cs cs.length := by
    rw [depth_of_length_le (Nat.le_refl _), depth_of_length_le (Nat.le_refl _),
      openings_skeleton, closings_skeleton]
  rw [balanced_iff, balanced_iff, hend]
  refine and_congr_left fun _ => ⟨fun h k => ?_, fun h k => ?_⟩
  · rw [← depth_skeleton]
    exact h _
  · obtain ⟨i, hi⟩ := exists_depth_skeleton cs k
    rw [hi]
    exact h i

/-! ### Pairs in the skeleton -/

theorem between_skeleton (hij : i < j) (h : cs[i]? = some c) (hc : c.isBracket = true) :
    between (skeleton cs) (ordinal cs i) (ordinal cs j) = skeleton (between cs i j) := by
  have htake : (cs.take j).take (i + 1) = cs.take (i + 1) := by
    rw [List.take_take, Nat.min_eq_left hij]
  have hsplit : skeleton (cs.take j) = skeleton (cs.take (i + 1)) ++ skeleton (between cs i j) := by
    rw [between, ← skeleton_append, ← htake, List.take_append_drop]
  rw [between, skeleton_take, hsplit, ← ordinal_succ h hc, ordinal, List.drop_left]

/-- **Brackets that belong together do so in the skeleton.** -/
theorem Bracket.Encloses.skeleton (h : Encloses cs i j) :
    Encloses (skeleton cs) (ordinal cs i) (ordinal cs j) := by
  obtain ⟨a, ha, hopening⟩ := h.opens
  obtain ⟨b, hb, hclosing⟩ := h.closes
  obtain rfl : a = .opening := Option.some.inj hopening
  obtain rfl : b = .closing := Option.some.inj hclosing
  refine ⟨?_, ⟨_, getElem?_skeleton ha rfl, rfl⟩, ⟨_, getElem?_skeleton hb rfl, rfl⟩, ?_⟩
  · have hle : ordinal cs (i + 1) ≤ ordinal cs j := ordinal_mono h.lt
    rw [ordinal_succ ha rfl] at hle
    exact hle
  · rw [between_skeleton h.lt ha rfl]
    exact balanced_skeleton.mpr h.balanced

namespace Block

theorem exists_commands_skeleton (b : Block Action) :
    ∃ c : Block Action, c.commands = skeleton b.commands :=
  exists_commands_of_balanced (balanced_skeleton.mpr b.balanced_commands)

theorem Grounded.skeleton (h : Grounded cs) : Grounded (skeleton cs) := by
  intro k
  obtain ⟨i, hi⟩ := exists_depth_skeleton cs k
  rw [hi]
  exact h i

theorem Broken.bracketAt (h : Broken cs i) : BracketAt cs i := by
  cases h with
  | closing b t => exact (b.closesAt_size t).bracketAt
  | opening b t h => exact (b.opensAt_size t).bracketAt

/-- **A broken text is broken at the same bracket in its skeleton.** -/
theorem Broken.skeleton (h : Broken cs i) : Broken (skeleton cs) (ordinal cs i) := by
  cases h with
  | closing b t =>
    obtain ⟨c, hc⟩ := b.exists_commands_skeleton
    rw [← length_commands, ordinal_append, skeleton_append, skeleton_cons rfl, ← hc,
      length_commands]
    exact .closing c _
  | opening b t h =>
    obtain ⟨c, hc⟩ := b.exists_commands_skeleton
    rw [← length_commands, ordinal_append, skeleton_append, skeleton_cons rfl, ← hc,
      length_commands]
    exact .opening c _ h.skeleton

/-- Two broken texts with one skeleton are broken at the same bracket. -/
theorem Broken.ordinal_eq (h : Broken cs i) (h' : Broken ds j)
    (hskeleton : Brainfuck.skeleton cs = Brainfuck.skeleton ds) : ordinal cs i = ordinal ds j := by
  have hblamed := h.skeleton.blamed
  rw [hskeleton] at hblamed
  exact hblamed.unique h'.skeleton.blamed

end Block

/-! ### The passes -/

theorem skeleton_deletion (h : Reduction.Deletion Reduction.Cancels cs ds) :
    skeleton cs = skeleton ds := by
  obtain ⟨u, v, x, y, -, rfl, rfl⟩ := h.exists_actions
  rw [skeleton_append, skeleton_append]
  rfl

theorem skeleton_deletes (h : Reduction.Deletes Reduction.Cancels cs ds) :
    skeleton cs = skeleton ds := by
  induction h with
  | refl => rfl
  | tail _ hstep ih => rw [ih, skeleton_deletion hstep]

/-- **Cancelling keeps the brackets.** -/
theorem skeleton_reduce (cs : List Command) : skeleton (reduce cs) = skeleton cs :=
  (skeleton_deletes (Reduction.deletes_reduce cs)).symm

/-- **Folding keeps the brackets**, since they are not folded. -/
theorem skeleton_expand {rs : List (Command × Nat)} (h : Canonical rs) :
    skeleton (expand rs) = skeleton (rs.map Prod.fst) := by
  induction rs with
  | nil => rfl
  | cons r rs ih =>
    rcases r with ⟨c, n⟩
    rw [expand_cons, skeleton_append, ih h.tail, List.map_cons]
    rcases hc : c.isBracket with _ | _
    · rw [skeleton, List.filter_replicate_of_neg (by simp [hc])]
      exact (List.filter_cons_of_neg (by simp [hc])).symm
    · have hone : n = 1 := by
        refine h.bracket (c, n) List.mem_cons_self ?_
        simpa [Symbol.isBracket, Symbol.command?] using hc
      rw [hone, skeleton_cons hc]
      exact congrArg (· ++ _) (skeleton_cons hc [])

theorem skeleton_runs (cs : List Command) : skeleton ((runs cs).map Prod.fst) = skeleton cs := by
  rw [← skeleton_expand (canonical_runs cs), expand_runs]

end Skeleton

namespace Program

open Block

variable {cs : List Command} {optimize : Bool} {p q : Program} {i j : Nat}

/-! ### Compiling -/

/-- The text that the brackets are matched in. -/
def codeFor (cs : List Command) (optimize : Bool) : List Command :=
  (runsFor cs optimize).map Prod.fst

theorem codeFor_plain (cs : List Command) : codeFor cs false = cs := by
  rw [codeFor, runsFor, List.map_map]
  exact List.map_id _

theorem skeleton_codeFor (cs : List Command) (optimize : Bool) :
    skeleton (codeFor cs optimize) = skeleton cs := by
  cases optimize with
  | false => rw [codeFor_plain]
  | true => rw [codeFor, runsFor, skeleton_runs, skeleton_reduce]

/-- **Runs compile to the program of a block unless they are broken.** -/
theorem ofRuns_cases {rs : List (Command × Nat)}
    (hone : ∀ x ∈ rs, x.1.isBracket = true → x.2 = 1) :
    (∃ b : Block (Action × Nat), b.runs = rs ∧ ofRuns rs = .ok b.program) ∨
      ∃ i, Broken (rs.map Prod.fst) i ∧ ofRuns rs = .error i := by
  rcases exists_commands_or_broken (rs.map Prod.fst) with ⟨c, hc⟩ | ⟨i, hbroken⟩
  · obtain ⟨b, rfl⟩ := c.exists_runs hc.symm hone
    exact Or.inl ⟨b, rfl, ofRuns_runs b⟩
  · exact Or.inr ⟨i, hbroken, by rw [ofRuns, hbroken.partners]; rfl⟩

/-- **What compiling comes to**, if there is something to compile. -/
theorem compile_cases (cs : List Command) (optimize : Bool) (h : optimize = true → cs ≠ []) :
    (∃ p, compile cs optimize = .ok p ∧ p.code = codeFor cs optimize ∧
        Balanced (codeFor cs optimize)) ∨
      ∃ i, compile cs optimize = .error (.unbalanced i) ∧ Broken (codeFor cs optimize) i := by
  rw [compile_eq h]
  rcases ofRuns_cases fun x hx => eq_one_of_mem_runsFor hx with ⟨b, hb, hok⟩ | ⟨i, hbroken, herror⟩
  · have hcode : b.program.code = codeFor cs optimize := by rw [code_program, hb, codeFor]
    refine Or.inl ⟨b.program, by rw [hok]; rfl, hcode, ?_⟩
    rw [← hcode, code_program, map_fst_runs]
    exact balanced_commands _
  · exact Or.inr ⟨i, by rw [herror]; rfl, hbroken⟩

/-- **A text compiles both ways or neither.** -/
theorem compile_both (h : cs ≠ []) :
    (∃ p q, compile cs false = .ok p ∧ compile cs true = .ok q) ∨
      ∃ i j, compile cs false = .error (.unbalanced i) ∧ compile cs true = .error (.unbalanced j) ∧
        Broken (codeFor cs false) i ∧ Broken (codeFor cs true) j := by
  -- what the brackets are matched in differs, but it has the one skeleton
  have hbalanced : Balanced (codeFor cs false) ↔ Balanced (codeFor cs true) := by
    rw [← balanced_skeleton, skeleton_codeFor, ← skeleton_codeFor cs true, balanced_skeleton]
  rcases compile_cases cs false nofun with ⟨p, hp, -, hplain⟩ | ⟨i, hi, hplain⟩ <;>
    rcases compile_cases cs true fun _ => h with ⟨q, hq, -, hoptimized⟩ | ⟨j, hj, hoptimized⟩
  · exact Or.inl ⟨p, q, hp, hq⟩
  · exact absurd (hbalanced.mp hplain) hoptimized.not_balanced
  · exact absurd (hbalanced.mpr hoptimized) hplain.not_balanced
  · exact Or.inr ⟨i, j, hi, hj, hplain, hoptimized⟩

/-- **The brackets of a program are those of the text.** -/
theorem skeleton_code (h : compile cs optimize = .ok p) : skeleton p.code = skeleton cs := by
  obtain ⟨b, hb, rfl⟩ := exists_block_of_runsFor h
  rw [code_program, hb]
  exact skeleton_codeFor cs optimize

/-! ### Loops -/

/-- **Two programs have the same loops**: the same sequence of brackets, and brackets of the same
ordinal have partners of the same ordinal. -/
structure SameLoops (p q : Program) : Prop where
  /-- The sequences of brackets are the same. -/
  brackets : skeleton p.code = skeleton q.code
  /-- The partners of brackets of the same ordinal are brackets of the same ordinal. -/
  partners : ∀ {i i' : Nat}, BracketAt p.code i → BracketAt q.code i' →
    ordinal p.code i = ordinal q.code i' →
      ∃ j j', p.jumps[i]? = some (some j) ∧ q.jumps[i']? = some (some j') ∧
        BracketAt p.code j ∧ BracketAt q.code j' ∧ ordinal p.code j = ordinal q.code j'

/-- What optimizing keeps of a text. -/
structure KeepsLoops (cs : List Command) : Prop where
  /-- The text compiles with optimization just when it does without. -/
  compiles : cs ≠ [] → ((∃ q, compile cs true = .ok q) ↔ ∃ p, compile cs false = .ok p)
  /-- Both programs have the same loops. -/
  loops : ∀ {p q}, compile cs false = .ok p → compile cs true = .ok q → SameLoops p q
  /-- Otherwise both ways the same bracket is reported to be unbalanced, in the plain text and in
  the optimized one. -/
  refused : cs ≠ [] → (∀ p, compile cs false ≠ .ok p) →
    ∃ i j rs, compile cs false = .error (.unbalanced i) ∧
      compile cs true = .error (.unbalanced j) ∧ optimize? cs = .ok rs ∧
      BracketAt cs i ∧ BracketAt (rs.map Prod.fst) j ∧ ordinal cs i = ordinal (rs.map Prod.fst) j
  /-- Without a command there is the empty program, and nothing to optimize. -/
  nothing : cs = [] → compile cs false = .ok empty ∧ compile cs true = .error .empty
  /-- If all commands cancel, the optimized program is empty. -/
  cancelled : cs ≠ [] → reduce cs = [] → compile cs true = .ok empty

/-- In two compiled programs with the same brackets, brackets that belong together in the one do
so in the other. -/
theorem sameLoops_of_skeleton {cs ds : List Command} {optimize optimize' : Bool}
    (hp : compile cs optimize = .ok p) (hq : compile ds optimize' = .ok q)
    (h : skeleton p.code = skeleton q.code) : SameLoops p q := by
  refine ⟨h, fun {i i'} ⟨c, hc, hbracket⟩ ⟨c', hc', hbracket'⟩ hordinal => ?_⟩
  obtain rfl : c = c' := by
    have hi := getElem?_skeleton hc hbracket
    rw [h, hordinal, getElem?_skeleton hc' hbracket'] at hi
    exact (Option.some.inj hi).symm
  cases c with
  | act a => cases hbracket
  | opening =>
    obtain ⟨j, hij, hj, -⟩ := exists_encloses_of_opening hp hc
    obtain ⟨j', hij', hj', -⟩ := exists_encloses_of_opening hq hc'
    -- the two pairs are one pair of the skeleton, in which a bracket has one partner
    have hleft := hij.skeleton
    rw [h, hordinal] at hleft
    exact ⟨j, j', hj, hj', hij.closes.bracketAt, hij'.closes.bracketAt,
      hleft.right_unique hij'.skeleton⟩
  | closing =>
    obtain ⟨j, hji, -, hj⟩ := exists_encloses_of_closing hp hc
    obtain ⟨j', hji', -, hj'⟩ := exists_encloses_of_closing hq hc'
    have hright := hji.skeleton
    rw [h, hordinal] at hright
    exact ⟨j, j', hj, hj', hji.opens.bracketAt, hji'.opens.bracketAt,
      hright.left_unique hji'.skeleton⟩

/-- **Optimizing changes neither which texts compile nor their loops.** -/
theorem keepsLoops_ofText (text : String) : KeepsLoops (Command.ofText text) := by
  generalize Command.ofText text = cs
  refine ⟨fun hsome => ?_, fun hp hq => ?_, fun hsome hnone => ?_, ?_, fun hsome hnil => ?_⟩
  · rcases compile_both hsome with ⟨p, q, hp, hq⟩ | ⟨i, j, hi, hj, -⟩
    · exact ⟨fun _ => ⟨p, hp⟩, fun _ => ⟨q, hq⟩⟩
    · rw [hi, hj]
      exact ⟨nofun, nofun⟩
  · exact sameLoops_of_skeleton hp hq ((skeleton_code hp).trans (skeleton_code hq).symm)
  · rcases compile_both hsome with ⟨p, q, hp, -⟩ | ⟨i, j, hi, hj, hplain, hoptimized⟩
    · exact absurd hp (hnone p)
    · have hordinal := hplain.ordinal_eq hoptimized
        ((skeleton_codeFor cs false).trans (skeleton_codeFor cs true).symm)
      have hopt : optimize? cs = .ok (runsFor cs true) := by
        rw [optimize?, List.isEmpty_eq_false_iff.mpr hsome]
        rfl
      rw [codeFor_plain] at hplain hordinal
      exact ⟨i, j, _, hi, hj, hopt, hplain.bracketAt, hoptimized.bracketAt, hordinal⟩
  · rintro rfl
    exact ⟨rfl, rfl⟩
  · rw [compile_eq fun _ => hsome, runsFor, hnil]
    rfl

end Program

end Brainfuck
