import Brainfuck.Proofs.Optimization
import Brainfuck.Proofs.Session.Adequacy
import Brainfuck.Proofs.Session.Bound
import Brainfuck.Runner

/-!
# Reports of plain and of optimized runs

A bound on the steps of a run counts the steps of the program that is run, so it cuts the plain
and the optimized program of a text off at different places. Still the optimized run is
never behind: the report of the plain run shows an initial part of its output, and the
two reports agree wherever the plain run was not cut off.

What a run reports is what the block of its program comes to within one step more than the bound
(`Brainfuck.Runner.run_of_eval`). A refined block comes to the same within as many steps, or gets
further (`Brainfuck.Block.Refines.exists_eval`), and this is all that is used of the optimizer.
-/

namespace Brainfuck

/-- Why a run that comes to an outcome at a position ended early, if it did. -/
def Outcome.failure? (pc : Nat) : Outcome → Option Failure
  | stuck _ => some (.endOfInput pc)
  | done _ | cut _ => none

/-- The report of a run that has come to an outcome after so many steps, if that is where it is cut
off or else at a position. -/
def Outcome.report (limit steps pc : Nat) (r : Outcome) : Report where
  output := r.machine.output.toArray
  iterations := steps
  cutOff := limit < steps
  error := if limit < steps then none else r.failure? pc

namespace Session

/-! ### Bounded runs of fresh sessions -/

/-- Wherever the walk through a block leads, its output is that of the block. -/
theorem Arrives.output {p : Program} {mode : EndMode} {sink : Sink} {total stop : Nat}
    {s : Session} {r : Outcome} (h : s.Arrives p mode sink total stop r) :
    s.output = sink.write r.machine.output := by
  cases h with
  | done hs => exact hs.shows.output
  | stuck hstep hshows => exact (step_failed_output hstep).symm.trans hshows.output
  | cut _ hshows => exact hshows.output

section Fresh

variable {commands : List Command} {optimize : Bool} {length : TapeLength} {c : Cap}
  {mode : EndMode} {input : List UInt8} {b : Block (Action × Nat)} {r : Outcome}
  {limit k fuel : Nat}

theorem fresh_start (h : Program.compile commands optimize = .ok b.program) (limit : Nat)
    (sink : Sink) :
    (fresh commands optimize length (some c) mode input sink).cap = some c ∧
      (fresh commands optimize length (some c) mode input sink).allowance limit = limit + 1 := by
  rw [fresh_of_compile h]
  exact ⟨rfl, allowance_of_start rfl⟩

/-- **A run with more steps to take than the bound allows is cut off** after one step more than
that. -/
theorem exists_run_of_cut (h : Program.compile commands optimize = .ok b.program)
    (hlimit : c.limit = some limit) (hfuel : limit + 1 ≤ fuel) (sink : Sink)
    (he : b.Eval (Machine.performRun mode) (Machine.start length input) (limit + 1) r) :
    ∃ t, (fresh commands optimize length (some c) mode input sink).run fuel true =
        (.finished, t) ∧
      t.output = sink.write r.machine.output ∧ t.iterations = limit + 1 ∧ t.capped = true := by
  obtain ⟨u, hwalk, hu, -, hiter⟩ := walk_fresh h (some c) sink he
  obtain ⟨left, rfl⟩ := Nat.exists_eq_add_of_le hfuel
  obtain ⟨hcap, hallowance⟩ := fresh_start h limit sink
  rw [← hallowance] at hwalk
  refine ⟨u.cutOff, ?_, hu.output, hiter, rfl⟩
  rw [run_fresh h, ← hallowance]
  exact continueRun_of_walk_eq hcap hlimit hwalk left

/-- **A run that comes to an end before is not.** -/
theorem exists_run_of_uncut (h : Program.compile commands optimize = .ok b.program)
    (hlimit : c.limit = some limit) (hfuel : limit + 1 ≤ fuel) (sink : Sink)
    (he : b.Eval (Machine.performRun mode) (Machine.start length input) k r)
    (hr : r.isCut = false) (hk : k ≤ limit) :
    ∃ t, (fresh commands optimize length (some c) mode input sink).run fuel true =
        (r.ending t.pc, t) ∧
      t.output = sink.write r.machine.output ∧ t.iterations = k ∧ t.capped = false := by
  obtain ⟨u, hwalk, hu, hcap', hiter⟩ := walk_fresh h (some c) sink he
  obtain ⟨t, hrun, hshows, hiter', hcapped⟩ := hu.continueRun hr
  obtain ⟨left, rfl⟩ := Nat.exists_eq_add_of_le (show k ≤ fuel by omega)
  obtain ⟨hcap, hallowance⟩ := fresh_start h limit sink
  have hlt : k < (fresh commands optimize length (some c) mode input sink).allowance limit := by
    rw [hallowance]
    omega
  refine ⟨t, ?_, hshows.output, hiter'.trans hiter, ?_⟩
  · rw [run_fresh h, continueRun_of_walk_lt hcap hlimit hwalk hlt]
    exact hrun left fun _ => by omega
  · rw [hcapped, hwalk.keeps.1.capped, fresh_of_compile h]
    rfl

end Fresh

end Session

namespace Runner

/-! ### Reports -/

section Report

variable [Memory] {a : Arguments} {commands : List Command} {optimize : Bool}
  {length : TapeLength} {c : Cap} {mode : EndMode} {input : List UInt8}
  {b : Block (Action × Nat)} {r : Outcome} {limit k fuel : Nat}

/-- The report of a run that was not stopped by a failure. -/
theorem run_of_finished {s t : Session}
    (hs : Session.ofArguments { a with output := some (.sink (.buffer #[])) } = .ok s)
    (herr : s.error = none) (hrun : s.run fuel true = (.finished, t)) :
    run fuel a = .ok (some ⟨t.output.visible, t.iterations, t.capped, none⟩) := by
  simp only [run, execute, hs, herr, hrun, bind, Except.bind, pure, Except.pure]

/-- The report of a run that found no more input. -/
theorem run_of_endOfInput {s t : Session} {pc : Nat}
    (hs : Session.ofArguments { a with output := some (.sink (.buffer #[])) } = .ok s)
    (herr : s.error = none) (hrun : s.run fuel true = (.failed (.endOfInput pc), t)) :
    run fuel a = .ok (some ⟨t.output.visible, t.iterations, false, some (.endOfInput pc)⟩) := by
  simp only [run, execute, hs, herr, hrun, isReported, bind, Except.bind, pure, Except.pure,
    if_true]

/-- The report of a program that does not compile. -/
theorem run_of_error {s : Session} {e : CompileError}
    (hs : Session.ofArguments { a with output := some (.sink (.buffer #[])) } = .ok s)
    (herr : s.error = some e) : run fuel a = .ok (some ⟨#[], 0, false, some (.compile e)⟩) := by
  simp only [run, execute, hs, herr, bind, Except.bind, pure, Except.pure]

/-- There is no report of a run that needs more fuel. -/
theorem run_of_outOfFuel {s t : Session}
    (hs : Session.ofArguments { a with output := some (.sink (.buffer #[])) } = .ok s)
    (herr : s.error = none) (hrun : s.run fuel true = (.outOfFuel, t)) :
    run fuel a = .ok none := by
  simp only [run, execute, hs, herr, hrun, bind, Except.bind, pure, Except.pure]

/-- There is no report of a run that found a character without a code. -/
theorem run_of_unencodable {s t : Session}
    (hs : Session.ofArguments { a with output := some (.sink (.buffer #[])) } = .ok s)
    (herr : s.error = none) (hrun : s.run fuel true = (.failed .unencodable, t)) :
    run fuel a = .error .unencodable := by
  simp only [run, execute, hs, herr, hrun, isReported, bind, Except.bind, throw, throwThe,
    MonadExceptOf.throw, Bool.false_eq_true, if_false]

/-- **A bounded run reports what the block of its program comes to** within one step more than the
bound. -/
theorem run_of_eval (h : Program.compile commands optimize = .ok b.program)
    (hs : Session.ofArguments { a with output := some (.sink (.buffer #[])) } =
      .ok (Session.fresh commands optimize length (some c) mode input (.buffer #[])))
    (hlimit : c.limit = some limit) (hfuel : limit + 1 ≤ fuel)
    (he : b.Eval (Machine.performRun mode) (Machine.start length input) k r) (hk : k ≤ limit + 1)
    (hcut : r.isCut = true → k = limit + 1) :
    ∃ pc, run fuel a = .ok (some (r.report limit k pc)) := by
  have herr : (Session.fresh commands optimize length (some c) mode input (.buffer #[])).error =
      none := by
    rw [Session.fresh_of_compile h]
    rfl
  have hvisible : ((Sink.buffer #[]).write r.machine.output).visible =
      r.machine.output.toArray := by
    simp [Sink.write, Sink.visible]
  rcases Nat.lt_or_eq_of_le hk with hlt | rfl
  · have hle : k ≤ limit := Nat.le_of_lt_succ hlt
    have hr : r.isCut = false := by
      rcases hr : r.isCut with _ | _
      · rfl
      · exact absurd (hcut hr) (Nat.ne_of_lt hlt)
    obtain ⟨t, hrun, houtput, hiter, hcapped⟩ :=
      Session.exists_run_of_uncut h hlimit hfuel (.buffer #[]) he hr hle
    refine ⟨t.pc, ?_⟩
    cases r with
    | done m =>
      rw [run_of_finished hs herr hrun, houtput, hvisible, hiter, hcapped]
      simp [Outcome.report, Outcome.failure?, hle]
    | stuck m =>
      rw [run_of_endOfInput hs herr hrun, houtput, hvisible, hiter]
      simp [Outcome.report, Outcome.failure?, hle]
    | cut m => cases hr
  · obtain ⟨t, hrun, houtput, hiter, hcapped⟩ :=
      Session.exists_run_of_cut h hlimit hfuel (.buffer #[]) he
    refine ⟨t.pc, ?_⟩
    rw [run_of_finished hs herr hrun, houtput, hvisible, hiter, hcapped]
    simp [Outcome.report]

end Report

/-! ### Plain and optimized -/

/-- **How the report of a plain run compares** to that of the optimized one. -/
structure Comparable (plain optimized : Report) : Prop where
  /-- The plain run has written no more, and nothing else. -/
  output : plain.output.toList <+: optimized.output.toList
  /-- If the plain run was not cut off, the optimized one was not either, and it has written the
  same after no more steps. -/
  uncut : plain.cutOff = false →
    optimized.cutOff = false ∧ optimized.output = plain.output ∧
      optimized.iterations ≤ plain.iterations
  /-- Then both runs come to the end of the program, or neither finds the input that it needs. -/
  error : plain.cutOff = false →
    plain.error = none ∧ optimized.error = none ∨
      ∃ i j, plain.error = some (.endOfInput i) ∧ optimized.error = some (.endOfInput j)

/-- Reports compare if the one outcome covers the other. -/
theorem comparable_of_coveredBy {limit k k' i j : Nat} {r r' : Outcome} (hr : r.CoveredBy r')
    (hcut : r.isCut = true → k = limit + 1) (hle : r.isCut = false → k' ≤ k) :
    Comparable (r.report limit k i) (r'.report limit k' j) := by
  have huncut : (r.report limit k i).cutOff = false → r' = r ∧ k' ≤ k ∧ ¬limit < k := by
    intro h
    have hk : ¬limit < k := of_decide_eq_false h
    have hnot : r.isCut = false := by
      rcases hr' : r.isCut with _ | _
      · rfl
      · have heq := hcut hr'
        omega
    exact ⟨hr.eq hnot, hle hnot, hk⟩
  refine ⟨hr.output_prefix, fun h => ?_, fun h => ?_⟩
  · obtain ⟨rfl, hk, hlimit⟩ := huncut h
    have hlimit' : ¬limit < k' := by omega
    exact ⟨decide_eq_false hlimit', rfl, hk⟩
  · obtain ⟨rfl, hk, hlimit⟩ := huncut h
    have hlimit' : ¬limit < k' := by omega
    simp only [Outcome.report, if_neg hlimit, if_neg hlimit']
    cases r' with
    | done | cut => exact Or.inl ⟨rfl, rfl⟩
    | stuck => exact Or.inr ⟨i, j, rfl, rfl⟩

/-- The arguments for a program text with its input, all options given. -/
def argumentsWith (code : String) (data : Data) (length : TapeLength) (mode : EndMode) (limit : Nat)
    (optimize : Bool) : Arguments :=
  { arguments (.text code) (.data data) (.int limit) with
    tapeLength := some (.int length.val), eof := some (.text mode.name),
    optimize := some (.bool optimize) }

section Comparable

variable {code : String} {data : Data} {input : List UInt8} {length : TapeLength} {limit : Nat}

/-- With such arguments, a run starts from a fresh session. -/
theorem ofArguments_argumentsWith [Memory] (code : String)
    (hinput : (Input.data data).toSource = .ok (.buffer (.ofList input)))
    (htape : Tape.blank? length = .ok (.blank length)) (mode : EndMode) (hpos : 1 ≤ limit)
    (optimize : Bool) :
    Session.ofArguments
        { argumentsWith code data length mode limit optimize with
          output := some (.sink (.buffer #[])) } =
      .ok (Session.fresh (Command.ofText code) optimize length (some ⟨.int limit, some limit⟩) mode
        input (.buffer #[])) :=
  Arguments.Means.ofArguments_fresh ⟨rfl, EndMode.ofValue_name mode, TapeLength.ofValue_val length,
    htape, Cap.ofValue_natCast hpos, hinput, rfl⟩ rfl rfl

/-- **Plain and optimized runs under the same bound are comparable.** There may be no tape as long
as is asked for, and then both runs are refused. -/
theorem run_comparable [Memory] (hsome : Command.ofText code ≠ [])
    (hbalanced : Bracket.Balanced code.toList)
    (hinput : (Input.data data).toSource = .ok (.buffer (.ofList input))) (length : TapeLength)
    (mode : EndMode) (hpos : 1 ≤ limit) {fuel : Nat} (hfuel : limit + 1 ≤ fuel) :
    (∃ f, Tape.blank? length = .error f ∧
        ∀ optimize, run fuel (argumentsWith code data length mode limit optimize) = .error f) ∨
      ∃ plain optimized,
        run fuel (argumentsWith code data length mode limit false) = .ok (some plain) ∧
        run fuel (argumentsWith code data length mode limit true) = .ok (some optimized) ∧
        Comparable plain optimized := by
  rcases htape : Tape.blank? length with f | t
  · refine Or.inl ⟨f, rfl, fun optimize => ?_⟩
    have hrefused := Arguments.ofArguments_of_blank?_error (a :=
      { argumentsWith code data length mode limit optimize with
        output := some (.sink (.buffer #[])) })
      rfl (EndMode.ofValue_name mode) (TapeLength.ofValue_val length) htape
    simp only [run, execute, hrefused, bind, Except.bind]
  · obtain rfl := Tape.eq_blank_of_blank? htape
    have hmade := ofArguments_argumentsWith code hinput htape mode hpos
    obtain ⟨b, hb⟩ := Block.exists_commands_of_balanced hbalanced.ofText
    rw [← hb] at hsome hmade
    obtain ⟨c, hcompile, hrefines⟩ := Block.exists_compile_refines hsome mode
    obtain ⟨k, r, he, hk, hcut⟩ := Block.exists_eval (Machine.performRun mode) (limit + 1)
      (b.map (·, 1)) (Machine.start length input)
    obtain ⟨k', r', he', hk', hcut', hr, hle⟩ := hrefines.exists_eval he hk
    obtain ⟨i, hplain⟩ :=
      run_of_eval b.compile_commands (hmade false) rfl hfuel he hk hcut
    obtain ⟨j, hoptimized⟩ := run_of_eval hcompile (hmade true) rfl hfuel he' hk' hcut'
    exact Or.inr ⟨_, _, hplain, hoptimized, comparable_of_coveredBy hr hcut hle⟩

section Usual

attribute [local instance] Memory.usual

/-- The bound cuts the plain run off before a write that the optimized one still does. -/
theorem run_comparable_cut :
    Command.ofText "+.[.,,.]" ≠ [] ∧ Bracket.Balanced "+.[.,,.]".toList ∧
      (Input.data (.value (.text "ab"))).toSource = .ok (.buffer (.ofList [97, 98])) ∧
      1 ≤ 5 ∧ 5 + 1 ≤ 6 ∧
      run 6 (argumentsWith "+.[.,,.]" (.value (.text "ab")) ⟨3, by decide⟩ .error 5 false) =
        .ok (some ⟨#[1, 1], 6, true, none⟩) ∧
      run 6 (argumentsWith "+.[.,,.]" (.value (.text "ab")) ⟨3, by decide⟩ .error 5 true) =
        .ok (some ⟨#[1, 1, 98], 6, true, none⟩) ∧
      Comparable ⟨#[1, 1], 6, true, none⟩ ⟨#[1, 1, 98], 6, true, none⟩ := by
  have hsome : Command.ofText "+.[.,,.]" ≠ [] := by decide
  have hbalanced : Bracket.Balanced "+.[.,,.]".toList := by decide
  have hinput : (Input.data (.value (.text "ab"))).toSource = .ok (.buffer (.ofList [97, 98])) := by
    rfl
  have hpos : 1 ≤ 5 := by decide
  have hfuel : 5 + 1 ≤ 6 := by decide
  have hplain : run 6
      (argumentsWith "+.[.,,.]" (.value (.text "ab")) ⟨3, by decide⟩ .error 5 false) =
        .ok (some ⟨#[1, 1], 6, true, none⟩) := by
    rfl
  have hoptimized : run 6
      (argumentsWith "+.[.,,.]" (.value (.text "ab")) ⟨3, by decide⟩ .error 5 true) =
        .ok (some ⟨#[1, 1, 98], 6, true, none⟩) := by
    rfl
  refine ⟨hsome, hbalanced, hinput, hpos, hfuel, hplain, hoptimized, ?_⟩
  rcases run_comparable hsome hbalanced hinput ⟨3, by decide⟩ .error hpos hfuel with
    ⟨f, htape, -⟩ | ⟨plain, optimized, h, h', hcomparable⟩
  · cases htape
  · cases hplain.symm.trans h
    cases hoptimized.symm.trans h'
    exact hcomparable

end Usual

end Comparable

end Runner

end Brainfuck
