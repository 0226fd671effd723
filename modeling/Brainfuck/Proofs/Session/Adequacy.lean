import Brainfuck.Proofs.Session.Execution

/-!
# What a run computes

The run of a fresh session comes to the outcome that the block of its program has, and to no
other (`Brainfuck.Session.exists_ends_of_eval` and
`Brainfuck.Session.exists_eval_of_ends`). The second half rests on the meaning being total: after
as many steps as the run had fuel the block is done, stuck or cut off, and if it were cut
off, the run would have used up its fuel as well.

So every statement about runs of compiled programs is one about blocks, where it is proved by
an induction that sees neither positions nor jumps.
-/

namespace Brainfuck

/-- How a run ends that comes to an outcome at a position. -/
def Outcome.ending (pc : Nat) : Outcome → Ending
  | done _ => .finished
  | stuck _ => .failed (.endOfInput pc)
  | cut _ => .outOfFuel

namespace Session

/-! ### Going on from the end of a walk -/

/-- At the end of a program, or before a step that fails, a run is over. It only needs fuel to
find out that the step fails. -/
theorem Arrives.continueRun {p : Program} {mode : EndMode} {sink : Sink} {total : Nat}
    {s : Session} {r : Outcome} (h : s.Arrives p mode sink total p.size r)
    (hr : r.isCut = false) :
    ∃ t, (∀ fuel, (s.available = true → 0 < fuel) →
        Session.continueRun fuel s = (r.ending t.pc, t)) ∧
      t.Shows sink total r.machine ∧ t.iterations = s.iterations ∧ t.capped = s.capped := by
  cases h with
  | done hs =>
    have hnot : s.available = false := by
      rw [Session.available, hs.program, hs.pc]
      simp
    exact ⟨s, fun fuel _ => continueRun_of_unavailable hnot hs.error fuel, hs.shows, rfl, rfl⟩
  | @stuck m t hstep hshows =>
    obtain ⟨hkeeps, hpc, -, hiter, -⟩ := step_failed_keeps hstep
    have havail : s.available = true := by
      rcases step_failed hstep with ⟨_, _, hf, _⟩ | ⟨herr, i, hi, -⟩
      · cases hf
      · exact available_iff.mpr ⟨herr, i, hi⟩
    refine ⟨t, fun fuel hfuel => ?_, hshows, hiter, hkeeps.capped⟩
    obtain ⟨n, rfl⟩ := Nat.exists_eq_succ_of_ne_zero (Nat.pos_iff_ne_zero.mp (hfuel havail))
    rw [continueRun_of_failed hstep, Outcome.ending, hpc]
  | cut => cases hr

/-! ### Fresh sessions -/

section Fresh

variable {commands : List Command} {optimize : Bool} {length : TapeLength} {cap : Option Cap}
  {mode : EndMode} {input : List UInt8} {sink : Sink} {b : Block (Action × Nat)}

/-- A fresh session stands at the start of its program and shows the machine at its start. -/
theorem stands_fresh {p : Program} (h : Program.compile commands optimize = .ok p) :
    (fresh commands optimize length cap mode input sink).Stands p mode sink input.length 0
      (Machine.start length input) := by
  rw [fresh_of_compile h]
  refine ⟨⟨rfl, rfl, rfl, ?_, Nat.zero_add _, rfl⟩, rfl, rfl, rfl, rfl, rfl⟩
  exact (Sink.write_nil sink).symm

theorem walk_fresh (h : Program.compile commands optimize = .ok b.program) (cap : Option Cap)
    (sink : Sink) {k : Nat} {r : Outcome}
    (he : b.Eval (Machine.performRun mode) (Machine.start length input) k r) :
    ∃ t, Walk k (fresh commands optimize length cap mode input sink) t ∧
      t.Arrives b.program mode sink input.length b.program.size r ∧ t.cap = cap ∧
      t.iterations = k := by
  obtain ⟨t, hwalk, ht⟩ :=
    walk_of_eval he (Program.holds_program b) (b.entry_start 0) (stands_fresh h)
  refine ⟨t, hwalk, ?_, ?_, ?_⟩
  · rwa [Nat.zero_add, ← Block.size_program] at ht
  · rw [hwalk.keeps.1.cap, fresh_of_compile h]
    rfl
  · rw [hwalk.keeps.2, fresh_of_compile h]
    exact Nat.zero_add k

/-- **The run comes to every outcome that the block has.** -/
theorem exists_ends_of_eval (h : Program.compile commands optimize = .ok b.program) (sink : Sink)
    {k : Nat} {r : Outcome} (he : b.Eval (Machine.performRun mode) (Machine.start length input) k r)
    (hr : r.isCut = false) :
    ∃ t, (fresh commands optimize length none mode input sink).Ends (r.ending t.pc) t ∧
      t.Shows sink input.length r.machine ∧ t.iterations = k := by
  obtain ⟨u, hwalk, hu, hcap, hiter⟩ := walk_fresh h none sink he
  obtain ⟨t, hrun, hshows, hiter', -⟩ := hu.continueRun hr
  refine ⟨t, ⟨?_, k + 1, ?_⟩, hshows, hiter'.trans hiter⟩
  · cases r with
    | done => nofun
    | stuck => nofun
    | cut => cases hr
  · rw [run_fresh h, continueRun_of_walk hwalk (exceedsCap_of_none hcap)]
    exact hrun 1 fun _ => Nat.one_pos

/-- **The run comes to no other outcome.** -/
theorem exists_eval_of_ends (h : Program.compile commands optimize = .ok b.program) {e : Ending}
    {t : Session} (hends : (fresh commands optimize length none mode input sink).Ends e t) :
    ∃ k r, b.Eval (Machine.performRun mode) (Machine.start length input) k r ∧
      r.isCut = false ∧ e = r.ending t.pc ∧ t.Shows sink input.length r.machine ∧
      t.iterations = k := by
  obtain ⟨hfuel, fuel, hrun⟩ := hends
  obtain ⟨k, r, he, hk, hcut⟩ :=
    Block.exists_eval (Machine.performRun mode) fuel b (Machine.start length input)
  obtain ⟨u, hwalk, hu, hcap, hiter⟩ := walk_fresh h none sink he
  obtain ⟨left, rfl⟩ := Nat.exists_eq_add_of_le hk
  rw [run_fresh h, continueRun_of_walk hwalk (exceedsCap_of_none hcap)] at hrun
  -- with no fuel left, the run would have ended for lack of it
  have hleft : u.available = true → 0 < left := by
    intro havail
    rcases left with _ | left
    · rw [continueRun_zero havail, Prod.mk.injEq] at hrun
      exact absurd hrun.1.symm hfuel
    · exact Nat.succ_pos left
  have hnot : r.isCut = false := by
    cases hu with
    | done | stuck => rfl
    | cut havail =>
      have hpos := hleft havail
      have hzero := hcut rfl
      omega
  obtain ⟨v, hv, hshows, hiter', -⟩ := hu.continueRun hnot
  rw [hv left hleft] at hrun
  cases hrun
  exact ⟨k, r, he, hnot, rfl, hshows, hiter'.trans hiter⟩

/-- A run that finds its input ended has stopped at the instruction that it reports. -/
theorem pc_of_ends (h : Program.compile commands optimize = .ok b.program) {pc : Nat}
    {t : Session} (hends : (fresh commands optimize length none mode input sink).Ends
      (.failed (.endOfInput pc)) t) : pc = t.pc := by
  obtain ⟨k, r, -, hr, hending, -⟩ := exists_eval_of_ends h hends
  cases r with
  | done => cases hending
  | stuck => exact Failure.endOfInput.inj (Ending.failed.inj hending)
  | cut => cases hr

end Fresh

/-! ### Structured programs -/

/-- A session has been left with what a machine holds, with its output in a buffer that was
empty at the start, and after so many steps. -/
structure Leaves (t : Session) (m : Machine) (k : Nat) : Prop where
  /-- The tape. -/
  tape : t.tape = m.tape
  /-- The position of the current cell. -/
  pointer : t.pointer = m.pointer
  /-- The output. -/
  output : t.output = .buffer m.output.toArray
  /-- The input that is left. -/
  input : t.input.unread? = some m.input
  /-- The number of steps. -/
  iterations : t.iterations = k

theorem Shows.leaves {total k : Nat} {t : Session} {m : Machine}
    (h : t.Shows (.buffer #[]) total m) (hk : t.iterations = k) : t.Leaves m k := by
  refine ⟨h.tape, h.pointer, ?_, h.input, hk⟩
  rw [h.output, Sink.write]
  simp

/-- Only one machine is left, and after only one number of steps. -/
theorem Leaves.unique {k k' : Nat} {t : Session} {m m' : Machine} (h : t.Leaves m k)
    (h' : t.Leaves m' k') : m = m' ∧ k = k' := by
  have hinput : some m.input = some m'.input := h.input.symm.trans h'.input
  have houtput : Sink.buffer m.output.toArray = .buffer m'.output.toArray :=
    h.output.symm.trans h'.output
  refine ⟨Machine.ext (h.tape.symm.trans h'.tape) (h.pointer.symm.trans h'.pointer) ?_ ?_,
    h.iterations.symm.trans h'.iterations⟩
  · exact Option.some.inj hinput
  · rw [Sink.buffer.injEq] at houtput
    exact congrArg Array.toList houtput

/-- A run of a plain program leaves what the meaning of its block says. -/
theorem exists_ends_leaves_iff (b : Block Action) (length : TapeLength) (mode : EndMode)
    (input : List UInt8) (k : Nat) {r : Outcome} (hr : r.isCut = false) :
    (∃ t, (fresh b.commands false length none mode input (.buffer #[])).Ends (r.ending t.pc) t ∧
        t.Leaves r.machine k) ↔
      b.Eval (Machine.perform mode) (Machine.start length input) k r := by
  have hcompile := b.compile_commands
  constructor
  · rintro ⟨t, hends, hleaves⟩
    obtain ⟨k', r', he, hr', hending, hshows, hk⟩ := exists_eval_of_ends hcompile hends
    obtain ⟨hm', rfl⟩ := (hshows.leaves hk).unique hleaves
    -- two outcomes that end in the same way and leave the same machine are one
    have heq : r' = r := by
      cases r <;> cases r' <;> simp_all [Outcome.ending, Outcome.machine, Outcome.isCut]
    exact heq ▸ Block.eval_map_once.mp he
  · intro he
    obtain ⟨t, hends, hshows, hk⟩ :=
      exists_ends_of_eval hcompile (.buffer #[]) (Block.eval_map_once.mpr he) hr
    exact ⟨t, hends, hshows.leaves hk⟩

/-- **The session implements structured programs.** The commands of a text with balanced
brackets are those of exactly one block. A run of the text from the start comes to its end
leaving a machine behind after `k` steps exactly if the block is done with that machine after
`k` steps, and it ends for want of input exactly if the block is stuck with it. -/
theorem ends_iff_eval {source : String} (h : Bracket.Balanced source.toList) (length : TapeLength)
    (mode : EndMode) (input : List UInt8) :
    ∃ b : Block Action, b.commands = Command.ofText source ∧
      (∀ c : Block Action, c.commands = Command.ofText source → c = b) ∧
      ∀ m k,
        ((∃ t, (fresh (Command.ofText source) false length none mode input (.buffer #[])).Ends
            .finished t ∧ t.Leaves m k) ↔
          b.Eval (Machine.perform mode) (Machine.start length input) k (.done m)) ∧
        ((∃ t pc, (fresh (Command.ofText source) false length none mode input (.buffer #[])).Ends
            (.failed (.endOfInput pc)) t ∧ t.Leaves m k) ↔
          b.Eval (Machine.perform mode) (Machine.start length input) k (.stuck m)) := by
  obtain ⟨b, hb⟩ := Block.exists_commands_of_balanced h.ofText
  refine ⟨b, hb, fun c hc => Block.commands_injective (hc.trans hb.symm), fun m k => ?_⟩
  rw [← hb]
  have hstuck := exists_ends_leaves_iff b length mode input k (r := .stuck m) rfl
  refine ⟨exists_ends_leaves_iff b length mode input k (r := .done m) rfl, ?_, ?_⟩
  · rintro ⟨t, pc, hends, hleaves⟩
    obtain rfl := pc_of_ends b.compile_commands hends
    exact hstuck.mp ⟨t, hends, hleaves⟩
  · intro he
    obtain ⟨t, hends, hleaves⟩ := hstuck.mpr he
    exact ⟨t, t.pc, hends, hleaves⟩

/-- The text that copies its input, on a tape of one cell. -/
theorem ends_iff_eval_copy :
    Bracket.Balanced ",[.,]".toList ∧
      ∃ b : Block Action, b.commands = Command.ofText ",[.,]" ∧
        (∀ c : Block Action, c.commands = Command.ofText ",[.,]" → c = b) ∧
        ∀ m k,
          ((∃ t, (fresh (Command.ofText ",[.,]") false ⟨1, Nat.one_pos⟩ none .error [7, 8]
              (.buffer #[])).Ends .finished t ∧ t.Leaves m k) ↔
            b.Eval (Machine.perform .error) (Machine.start ⟨1, Nat.one_pos⟩ [7, 8]) k (.done m)) ∧
          ((∃ t pc, (fresh (Command.ofText ",[.,]") false ⟨1, Nat.one_pos⟩ none .error [7, 8]
              (.buffer #[])).Ends (.failed (.endOfInput pc)) t ∧ t.Leaves m k) ↔
            b.Eval (Machine.perform .error) (Machine.start ⟨1, Nat.one_pos⟩ [7, 8]) k
              (.stuck m)) := by
  have h : Bracket.Balanced ",[.,]".toList := by decide
  exact ⟨h, ends_iff_eval h ⟨1, Nat.one_pos⟩ .error [7, 8]⟩

end Session

end Brainfuck
