import Brainfuck.Proofs.Endpoints
import Brainfuck.Proofs.Evaluation
import Brainfuck.Proofs.Program
import Brainfuck.Proofs.Session.Run

/-!
# The session computes what the block means

The session knows nothing of loops: it has a position in an array of instructions, and a
closing bracket goes back to its opening bracket and from there to the instruction after it, so
that the test is made at the closing bracket and not made again. Here it is shown to walk
through the code of a block exactly as `Brainfuck.Block.Eval` says
(`Brainfuck.Session.walk_of_eval`), with one step of the walk for each step that is counted there.

The induction is on the evaluation, not on the block, since a loop is evaluated again after its
body. When that happens the session is at the closing bracket and no longer at the opening
one, so a loop has two positions at which it can be entered (`Brainfuck.Block.Entry`), and
the test comes to the same at both of them.
-/

namespace Brainfuck

namespace Session

/-! ### A session and a machine -/

/-- A session shows a machine: it has its tape and pointer, its input is what is left, it has
written its output to the sink it was given, and it has counted what it read and wrote. -/
structure Shows (sink : Sink) (total : Nat) (s : Session) (m : Machine) : Prop where
  /-- The tape. -/
  tape : s.tape = m.tape
  /-- The position of the current cell. -/
  pointer : s.pointer = m.pointer
  /-- The input that is left. -/
  input : s.input.unread? = some m.input
  /-- The output so far. -/
  output : s.output = sink.write m.output
  /-- What was read and what is left is all there was. -/
  reads : s.reads + m.input.length = total
  /-- The number of bytes written. -/
  writes : s.writes = m.output.length

section Shows

variable {sink : Sink} {total : Nat} {s : Session} {m : Machine}

theorem Shows.cell (h : s.Shows sink total m) : s.cell = m.cell := by
  rw [Session.cell, Machine.cell, h.tape, h.pointer]

/-- What a session and a machine that it shows have both come to by an action. -/
inductive Answers (sink : Sink) (total : Nat) (s : Session) :
    Except Machine Machine → Option Failure × Session → Prop
  /-- The action was done. -/
  | done {m : Machine} {t : Session} :
    t.Shows sink total m → t.pc = s.pc → t.partialReads = s.partialReads →
      Answers sink total s (.ok m) (none, t)
  /-- The action was stuck, and the input has ended. -/
  | stuck {m : Machine} {t : Session} :
    t.Shows sink total m → Answers sink total s (.error m) (some (.endOfInput s.pc), t)

theorem Answers.of_step {t : Session} {r : Except Machine Machine} {o : Option Failure × Session}
    (h : Answers sink total t r o) (hpc : t.pc = s.pc) (hparts : t.partialReads = s.partialReads) :
    Answers sink total s r o := by
  cases h with
  | done hshows hpc' hparts' => exact .done hshows (hpc'.trans hpc) (hparts'.trans hparts)
  | stuck hshows =>
    rw [hpc]
    exact .stuck hshows

/-! ### Actions -/

/-- The reads of one instruction are reads of the machine. -/
theorem Shows.readInput (h : s.Shows sink total m) (times left : Nat) :
    Answers sink total s (Machine.iterate (Machine.perform s.eof .read) left m)
      (s.readInput times left) := by
  induction left generalizing s m with
  | zero => exact .done h rfl rfl
  | succ left ih =>
    have hreads := h.reads
    rcases m with ⟨tape, pointer, hlt, _ | ⟨byte, rest⟩, output⟩
    · have hread := Source.read_of_unread?_nil h.input
      cases heof : s.eof with
      | keep =>
        rw [readInput_keep hread heof]
        have hs : (s.withReads s.input s.tape s.reads (s.pc :: s.misses)).Shows sink total
            ⟨tape, pointer, hlt, [], output⟩ :=
          ⟨h.tape, h.pointer, h.input, h.output, h.reads, h.writes⟩
        have hrest := (ih hs).of_step (s := s) rfl rfl
        have heof' : (s.withReads s.input s.tape s.reads (s.pc :: s.misses)).eof = .keep := heof
        rw [heof'] at hrest
        exact hrest
      | zero =>
        rw [readInput_zero hread heof]
        have hs : (s.withReads s.input (s.tape.put s.pointer 0) s.reads (s.pc :: s.misses)).Shows
            sink total (Machine.store ⟨tape, pointer, hlt, [], output⟩ 0) :=
          ⟨by rw [h.pointer, withReads, h.tape]; rfl, h.pointer, h.input, h.output, h.reads,
            h.writes⟩
        have hrest := (ih hs).of_step (s := s) rfl rfl
        have heof' : (s.withReads s.input (s.tape.put s.pointer 0) s.reads
            (s.pc :: s.misses)).eof = .zero := heof
        rw [heof'] at hrest
        exact hrest
      | error =>
        rw [readInput_end hread heof]
        exact .stuck ⟨h.tape, h.pointer, h.input, h.output, h.reads, h.writes⟩
    · obtain ⟨input, hread, hinput⟩ := Source.read_of_unread?_cons h.input
      rw [readInput_byte hread]
      have hs : (s.withReads input (s.tape.put s.pointer byte) (s.reads + 1) s.misses).Shows
          sink total (Machine.store ⟨tape, pointer, hlt, rest, output⟩ byte) := by
        refine ⟨by rw [h.pointer, withReads, h.tape]; rfl, h.pointer, hinput, h.output, ?_,
          h.writes⟩
        have hlen : s.reads + (rest.length + 1) = total := hreads
        have hlen' : s.reads + 1 + rest.length = total := by omega
        exact hlen'
      have hrest := (ih hs).of_step (s := s) rfl rfl
      exact hrest

/-- **An action of the session is that of the machine**, unless there are reads to be made up
for. -/
theorem Shows.perform (h : s.Shows sink total m) (hparts : s.partialReads = []) (a : Action)
    (n : Nat) :
    Answers sink total s (Machine.performRun s.eof (a, n) m) (s.perform a n) := by
  cases a with
  | right =>
    rw [Machine.performRun, Machine.iterate_move (Machine.perform_right s.eof), Int.mul_one]
    refine .done ⟨h.tape, ?_, h.input, h.output, h.reads, h.writes⟩ rfl rfl
    rw [h.tape, h.pointer]
    rfl
  | left =>
    rw [Machine.performRun, Machine.iterate_move (Machine.perform_left s.eof), Int.mul_neg,
      Int.mul_one]
    refine .done ⟨h.tape, ?_, h.input, h.output, h.reads, h.writes⟩ rfl rfl
    rw [h.tape, h.pointer]
    rfl
  | increment =>
    rw [Machine.performRun, Machine.iterate_add (Machine.perform_increment s.eof), Int.mul_one]
    refine .done ⟨?_, h.pointer, h.input, h.output, h.reads, h.writes⟩ rfl rfl
    rw [h.tape, h.pointer]
    rfl
  | decrement =>
    rw [Machine.performRun, Machine.iterate_add (Machine.perform_decrement s.eof), Int.mul_neg,
      Int.mul_one]
    refine .done ⟨?_, h.pointer, h.input, h.output, h.reads, h.writes⟩ rfl rfl
    rw [h.tape, h.pointer]
    rfl
  | write =>
    rw [Machine.performRun, Machine.iterate_write]
    refine .done ⟨h.tape, h.pointer, h.input, ?_, h.reads, ?_⟩ rfl rfl
    · rw [h.output, h.cell, Sink.write_append]
    · simp [h.writes]
  | read =>
    have hdone : s.readsDone = 0 := by rw [readsDone, hparts]; rfl
    have hforget : s.forgetReads.partialReads = s.partialReads := by
      rw [forgetReads, hparts]
      rfl
    have hs : s.forgetReads.Shows sink total m :=
      ⟨h.tape, h.pointer, h.input, h.output, h.reads, h.writes⟩
    rw [Session.perform, hdone, Nat.sub_zero]
    exact (hs.readInput n n).of_step rfl hforget

end Shows

/-! ### One step -/

/-- A session stands at a position of a program and shows a machine, with no reads to be made
up for. -/
structure Stands (p : Program) (mode : EndMode) (sink : Sink) (total pc : Nat) (s : Session)
    (m : Machine) : Prop where
  /-- What it shows. -/
  shows : s.Shows sink total m
  /-- Its program. -/
  program : s.program = p
  /-- There is one. -/
  error : s.error = none
  /-- How it treats the end of the input. -/
  eof : s.eof = mode
  /-- Where it stands. -/
  pc : s.pc = pc
  /-- No reads are remembered. -/
  partialReads : s.partialReads = []

section Stands

variable {p : Program} {mode : EndMode} {sink : Sink} {total pc i n : Nat} {s t : Session}
  {m m₁ : Machine} {a : Action}

theorem Stands.advance (h : s.Stands p mode sink total pc m) :
    s.advance.Stands p mode sink total (pc + 1) m where
  shows := ⟨h.shows.tape, h.shows.pointer, h.shows.input, h.shows.output, h.shows.reads,
    h.shows.writes⟩
  program := h.program
  error := h.error
  eof := h.eof
  pc := congrArg (· + 1) h.pc
  partialReads := h.partialReads

theorem Stands.jump (h : s.Stands p mode sink total pc m) (i : Nat) :
    { s with pc := i }.Stands p mode sink total i m where
  shows := ⟨h.shows.tape, h.shows.pointer, h.shows.input, h.shows.output, h.shows.reads,
    h.shows.writes⟩
  program := h.program
  error := h.error
  eof := h.eof
  pc := rfl
  partialReads := h.partialReads

theorem Stands.available (h : s.Stands p mode sink total pc m) {i : Instruction}
    (hi : p.at? pc = some i) : s.available = true := by
  refine available_iff.mpr ⟨h.error, i, ?_⟩
  rw [h.program, h.pc, hi]

/-- Executing an instruction from where the session stands is a step. -/
theorem Stands.step_of_execute (h : s.Stands p mode sink total pc m) {ins : Instruction}
    (hins : p.at? pc = some ins) (ht : s.execute ins = (none, t))
    (hstands : t.Stands p mode sink total i m₁) :
    ∃ u c, s.step = (.value c, u) ∧ u.Stands p mode sink total (i + 1) m₁ := by
  have hat : s.program.at? s.pc = some ins := by rw [h.program, h.pc, hins]
  exact ⟨t.advance, t.advance.cell, Session.step_of_execute h.error hat ht, hstands.advance⟩

/-- The step of an action that is not stuck. -/
theorem Stands.step_act (h : s.Stands p mode sink total pc m)
    (hat : p.at? pc = some (.perform a n)) (hm : Machine.performRun mode (a, n) m = .ok m₁) :
    ∃ t c, s.step = (.value c, t) ∧ t.Stands p mode sink total (pc + 1) m₁ := by
  have hans := h.shows.perform h.partialReads a n
  rw [h.eof, hm] at hans
  rcases hp : s.perform a n with ⟨f, t⟩
  rw [hp] at hans
  cases hans with
  | done hshows hpc hparts =>
    have hexec : s.execute (.perform a n) = (none, t) := hp
    have hkeeps := (execute_keeps s (.perform a n)).1
    rw [hexec] at hkeeps
    exact h.step_of_execute hat hexec ⟨hshows, hkeeps.program.trans h.program,
      hkeeps.error.trans h.error, hkeeps.eof.trans h.eof, hpc.trans h.pc,
      hparts.trans h.partialReads⟩

/-- The step of an action that is stuck. -/
theorem Stands.step_stuck (h : s.Stands p mode sink total pc m)
    (hat : p.at? pc = some (.perform a n)) (hm : Machine.performRun mode (a, n) m = .error m₁) :
    ∃ t, s.step = (.failed (.endOfInput s.pc), t) ∧ t.Shows sink total m₁ := by
  have hans := h.shows.perform h.partialReads a n
  rw [h.eof, hm] at hans
  rcases hp : s.perform a n with ⟨f, t⟩
  rw [hp] at hans
  cases hans with
  | stuck hshows =>
    have hexec : s.execute (.perform a n) = (some (.endOfInput s.pc), t) := hp
    have hat' : s.program.at? s.pc = some (.perform a n) := by rw [h.program, h.pc, hat]
    exact ⟨t, step_of_execute_failed h.error hat' hexec, hshows⟩

end Stands

end Session

/-! ### Loops -/

namespace Block

/-- The positions at which a block that stands at `i` can be entered: its start, and the end
of its first loop if it starts with one. -/
def Entry (i : Nat) : Block (Action × Nat) → Nat → Prop
  | nil, pc => pc = i
  | act _ _, pc => pc = i
  | loop body _, pc => pc = i ∨ pc = i + 1 + body.size

theorem entry_start (i : Nat) (b : Block (Action × Nat)) : b.Entry i i := by
  cases b with
  | nil => rfl
  | act x rest => rfl
  | loop body rest => exact Or.inl rfl

end Block

namespace Session

section Loop

variable {p : Program} {mode : EndMode} {sink : Sink} {total pc i : Nat} {s : Session}
  {m : Machine} {body rest : Block (Action × Nat)}

/-- There is an instruction at each of the two positions where a loop can be entered. -/
theorem Stands.available_loop (h : s.Stands p mode sink total pc m)
    (hcode : p.Holds i (.loop body rest)) (hpc : (Block.loop body rest).Entry i pc) :
    s.available = true := by
  obtain ⟨hopen, -, hclose, -⟩ := hcode
  rcases hpc with rfl | rfl
  · exact h.available hopen
  · exact h.available hclose

/-- **A loop is left when the current cell is zero**, from either bracket. -/
theorem Stands.step_skip (h : s.Stands p mode sink total pc m)
    (hcode : p.Holds i (.loop body rest)) (hpc : (Block.loop body rest).Entry i pc)
    (hm : m.cell = 0) :
    ∃ t c, s.step = (.value c, t) ∧ t.Stands p mode sink total (i + 2 + body.size) m := by
  obtain ⟨hopen, -, hclose, -⟩ := hcode
  have hcell : s.cell = 0 := h.shows.cell.trans hm
  -- the opening bracket jumps to the closing one, and either goes on behind that
  have hend : i + 2 + body.size = i + 1 + body.size + 1 := by omega
  rw [hend]
  rcases hpc with rfl | rfl
  · refine h.step_of_execute hopen ?_ (h.jump (pc + 1 + body.size))
    rw [execute, if_pos hcell]
  · refine h.step_of_execute hclose ?_ h
    rw [execute, if_pos hcell]

/-- **Otherwise its body is entered**, from either bracket. -/
theorem Stands.step_enter (h : s.Stands p mode sink total pc m)
    (hcode : p.Holds i (.loop body rest)) (hpc : (Block.loop body rest).Entry i pc)
    (hm : m.cell ≠ 0) :
    ∃ t c, s.step = (.value c, t) ∧ t.Stands p mode sink total (i + 1) m := by
  obtain ⟨hopen, -, hclose, -⟩ := hcode
  have hcell : s.cell ≠ 0 := by rwa [h.shows.cell]
  -- the closing bracket jumps to the opening one, and either goes on behind that
  rcases hpc with rfl | rfl
  · refine h.step_of_execute hopen ?_ h
    rw [execute, if_neg hcell]
  · refine h.step_of_execute hclose ?_ (h.jump i)
    rw [execute, if_neg hcell]

end Loop

/-! ### Walking through the code of a block -/

/-- Where a walk through the code of a block leads, by what becomes of the block: to its end, or
to a step that fails, or to some step. -/
inductive Arrives (p : Program) (mode : EndMode) (sink : Sink) (total stop : Nat) (s : Session) :
    Outcome → Prop
  /-- To the end of the block. -/
  | done {m : Machine} : s.Stands p mode sink total stop m →
      Arrives p mode sink total stop s (.done m)
  /-- To a read that finds no input. -/
  | stuck {m : Machine} {t : Session} : s.step = (.failed (.endOfInput s.pc), t) →
      t.Shows sink total m → Arrives p mode sink total stop s (.stuck m)
  /-- To a step that can be taken. -/
  | cut {m : Machine} : s.available = true → s.Shows sink total m →
      Arrives p mode sink total stop s (.cut m)

/-- A block that is not done stops where it is, whatever comes after it. -/
theorem Arrives.of_not_done {p : Program} {mode : EndMode} {sink : Sink} {total stop stop' : Nat}
    {s : Session} {r : Outcome} (h : s.Arrives p mode sink total stop r) (hr : r.isDone = false) :
    s.Arrives p mode sink total stop' r := by
  cases h with
  | done => cases hr
  | stuck hstep hshows => exact .stuck hstep hshows
  | cut havail hshows => exact .cut havail hshows

/-- **The session walks through the code of a block as the block means**, step by step. -/
theorem walk_of_eval {p : Program} {mode : EndMode} {sink : Sink} {total : Nat}
    {b : Block (Action × Nat)} {m : Machine} {k : Nat} {r : Outcome}
    (h : b.Eval (Machine.performRun mode) m k r) :
    ∀ {i pc : Nat} {s : Session}, p.Holds i b → b.Entry i pc → s.Stands p mode sink total pc m →
      ∃ t, Walk k s t ∧ t.Arrives p mode sink total (i + b.size) r := by
  induction h with
  | nil =>
    intro i pc s _ hpc hs
    obtain rfl : pc = i := hpc
    exact ⟨s, .refl, .done hs⟩
  | @act x rest m m₁ k r hm _ ih =>
    intro i pc s hcode hpc hs
    obtain rfl : pc = i := hpc
    obtain ⟨hat, hrest⟩ := hcode
    obtain ⟨t, c, hstep, ht⟩ := hs.step_act hat hm
    obtain ⟨u, hwalk, hu⟩ := ih hrest (rest.entry_start _) ht
    have hstop : pc + 1 + rest.size = pc + (Block.act x rest).size := by rw [Block.size]; omega
    exact ⟨u, .step hstep hwalk, hstop ▸ hu⟩
  | stuck hm =>
    intro i pc s hcode hpc hs
    obtain rfl : pc = i := hpc
    obtain ⟨t, hstep, ht⟩ := hs.step_stuck hcode.1 hm
    exact ⟨s, .refl, .stuck hstep ht⟩
  | @skip body rest m k r hm _ ih =>
    intro i pc s hcode hpc hs
    obtain ⟨t, c, hstep, ht⟩ := hs.step_skip hcode hpc hm
    obtain ⟨u, hwalk, hu⟩ := ih hcode.2.2.2 (rest.entry_start _) ht
    have hstop : i + 2 + body.size + rest.size = i + (Block.loop body rest).size := by
      rw [Block.size]
      omega
    exact ⟨u, .step hstep hwalk, hstop ▸ hu⟩
  | @again body rest m m₁ j k r hm _ _ ihb ihl =>
    intro i pc s hcode hpc hs
    obtain ⟨t, c, hstep, ht⟩ := hs.step_enter hcode hpc hm
    obtain ⟨u, hwalk, hu⟩ := ihb hcode.2.1 (body.entry_start _) ht
    cases hu with
    | done hu =>
      -- the end of the body is the other position at which the loop can be entered
      obtain ⟨v, hwalk', hv⟩ := ihl hcode (Or.inr rfl) hu
      exact ⟨v, (Walk.step hstep hwalk).trans hwalk', hv⟩
  | @inside body rest m k r hm _ hr ih =>
    intro i pc s hcode hpc hs
    obtain ⟨t, c, hstep, ht⟩ := hs.step_enter hcode hpc hm
    obtain ⟨u, hwalk, hu⟩ := ih hcode.2.1 (body.entry_start _) ht
    exact ⟨u, .step hstep hwalk, hu.of_not_done hr⟩
  | cutAct =>
    intro i pc s hcode hpc hs
    obtain rfl : pc = i := hpc
    exact ⟨s, .refl, .cut (hs.available hcode.1) hs.shows⟩
  | cutLoop =>
    intro i pc s hcode hpc hs
    exact ⟨s, .refl, .cut (hs.available_loop hcode hpc) hs.shows⟩

end Session

end Brainfuck
