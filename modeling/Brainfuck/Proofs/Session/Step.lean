import Brainfuck.Proofs.Tape
import Brainfuck.Session.Run

/-!
# What a step does

The possible outcomes of a step, each with everything that it leaves alone. All that is
not simple bookkeeping is in the reads of one instruction, and
`Brainfuck.Session.ReadOutcome` says all there is to say about those without looking at
where the input comes from: they change the tape, the source, the number of bytes read
and the log of misses, and if they fail because the input has ended they also leave a
note of how many of them were done. `Brainfuck.Session.execute_keeps` and
`Brainfuck.Session.step_value` extend this to all instructions and to a whole step.
-/

namespace Brainfuck

/-- Only a character without a code can make a read fail. -/
theorem Source.read_error {s t : Source} {f : Failure} (h : s.read = (.error f, t)) :
    f = .unencodable := by
  cases s with
  | empty => cases h
  | buffer b => cases h
  | stream rest => rcases rest with _ | ⟨byte, rest⟩ <;> cases h
  | text rest =>
    rcases rest with _ | ⟨c, rest⟩
    · cases h
    · rw [Source.read] at h
      split at h
      · cases h
      · cases h
        rfl

namespace Session

/-! ### Reads -/

/-- The session with everything replaced that reads change. -/
def withReads (s : Session) (input : Source) (tape : Tape) (reads : Nat) (misses : List Nat) :
    Session :=
  { s with input, tape, reads, misses }

section Reads

variable {total left : Nat} {s : Session} {input : Source}

theorem readInput_byte {byte : UInt8} (h : s.input.read = (.ok (some byte), input)) :
    readInput total (left + 1) s = readInput total left
      (s.withReads input (s.tape.put s.pointer byte) (s.reads + 1) s.misses) := by
  rw [readInput, h]
  rfl

theorem readInput_keep (h : s.input.read = (.ok none, input)) (heof : s.eof = .keep) :
    readInput total (left + 1) s = readInput total left
      (s.withReads input s.tape s.reads (s.pc :: s.misses)) := by
  simp only [readInput, h, heof, withReads]

theorem readInput_zero (h : s.input.read = (.ok none, input)) (heof : s.eof = .zero) :
    readInput total (left + 1) s = readInput total left
      (s.withReads input (s.tape.put s.pointer 0) s.reads (s.pc :: s.misses)) := by
  simp only [readInput, h, heof, withReads]

theorem readInput_end (h : s.input.read = (.ok none, input)) (heof : s.eof = .error) :
    readInput total (left + 1) s = (some (.endOfInput s.pc),
      (s.withReads input s.tape s.reads s.misses).rememberReads (total - (left + 1))) := by
  simp only [readInput, h, heof, withReads]

theorem readInput_failed {f : Failure} (h : s.input.read = (.error f, input)) :
    readInput total (left + 1) s = (some f, s.withReads input s.tape s.reads s.misses) := by
  rw [readInput, h]
  rfl

end Reads

/-- **What the reads of one instruction can do**: all of them are done, or the input ended and
it is remembered how many were done, or a character had no code. -/
inductive ReadOutcome (total : Nat) (s : Session) : Option Failure → Session → Prop
  /-- All reads are done. -/
  | all {input : Source} {tape : Tape} {reads : Nat} {misses : List Nat} :
    tape.size = s.tape.size →
      ReadOutcome total s none (s.withReads input tape reads misses)
  /-- The input ended before all of them were done. -/
  | ended {input : Source} {tape : Tape} {reads done : Nat} {misses : List Nat} :
    tape.size = s.tape.size → done < total → s.eof = .error →
      ReadOutcome total s (some (.endOfInput s.pc))
        ((s.withReads input tape reads misses).rememberReads done)
  /-- A character had no code. -/
  | failed {input : Source} {tape : Tape} {reads : Nat} {misses : List Nat} :
    tape.size = s.tape.size →
      ReadOutcome total s (some .unencodable) (s.withReads input tape reads misses)

theorem ReadOutcome.of_withReads {total reads : Nat} {s t : Session} {input : Source} {tape : Tape}
    {misses : List Nat} {o : Option Failure}
    (h : ReadOutcome total (s.withReads input tape reads misses) o t)
    (hsize : tape.size = s.tape.size) : ReadOutcome total s o t := by
  cases h with
  | all h => exact .all (h.trans hsize)
  | ended h hdone heof => exact .ended (h.trans hsize) hdone heof
  | failed h => exact .failed (h.trans hsize)

theorem readInput_outcome {total left : Nat} (hle : left ≤ total) (s : Session) :
    ReadOutcome total s (readInput total left s).1 (readInput total left s).2 := by
  induction left generalizing s with
  | zero =>
    have h : ReadOutcome total s none (s.withReads s.input s.tape s.reads s.misses) := .all rfl
    exact h
  | succ left ih =>
    have hle' : left ≤ total := Nat.le_of_succ_le hle
    rcases hread : s.input.read with ⟨failure | ⟨_ | byte⟩, input⟩
    · obtain rfl := Source.read_error hread
      rw [readInput_failed hread]
      exact .failed rfl
    · cases heof : s.eof with
      | keep =>
        rw [readInput_keep hread heof]
        exact (ih hle' _).of_withReads rfl
      | zero =>
        rw [readInput_zero hread heof]
        exact (ih hle' _).of_withReads (Tape.size_put _ _ _)
      | error =>
        rw [readInput_end hread heof]
        exact .ended rfl (by omega) heof
    · rw [readInput_byte hread]
      exact (ih hle' _).of_withReads (Tape.size_put _ _ _)

/-! ### Instructions -/

/-- What executing an instruction never changes. -/
structure Keeps (s t : Session) : Prop where
  /-- The program. -/
  program : t.program = s.program
  /-- Why there is none. -/
  error : t.error = s.error
  /-- How to treat the end of the input. -/
  eof : t.eof = s.eof
  /-- The bound on the steps. -/
  cap : t.cap = s.cap
  /-- Whether a run was cut off by it. -/
  capped : t.capped = s.capped
  /-- The length of the tape. -/
  size : t.tape.size = s.tape.size

theorem Keeps.trans {s t u : Session} (h : Keeps s t) (h' : Keeps t u) : Keeps s u :=
  ⟨h'.program.trans h.program, h'.error.trans h.error, h'.eof.trans h.eof, h'.cap.trans h.cap,
    h'.capped.trans h.capped, h'.size.trans h.size⟩

/-- **Executing an instruction keeps what it should**, and counts nothing. -/
theorem execute_keeps (s : Session) (i : Instruction) :
    Keeps s (s.execute i).2 ∧ (s.execute i).2.iterations = s.iterations ∧
      (s.execute i).2.halted = s.halted := by
  cases i with
  | perform action times =>
    cases action with
    | read =>
      have h := readInput_outcome (Nat.sub_le times s.readsDone) s.forgetReads
      rw [execute, perform]
      generalize readInput times (times - s.readsDone) s.forgetReads = r at h ⊢
      rcases r with ⟨o, t⟩
      cases h with
      | all hsize => exact ⟨⟨rfl, rfl, rfl, rfl, rfl, hsize⟩, rfl, rfl⟩
      | ended hsize => exact ⟨⟨rfl, rfl, rfl, rfl, rfl, hsize⟩, rfl, rfl⟩
      | failed hsize => exact ⟨⟨rfl, rfl, rfl, rfl, rfl, hsize⟩, rfl, rfl⟩
    | increment | decrement =>
      exact ⟨⟨rfl, rfl, rfl, rfl, rfl, Tape.size_bump _ _ _⟩, rfl, rfl⟩
    | left | right | write => exact ⟨⟨rfl, rfl, rfl, rfl, rfl, rfl⟩, rfl, rfl⟩
  | opening partner =>
    rw [execute]
    split <;> exact ⟨⟨rfl, rfl, rfl, rfl, rfl, rfl⟩, rfl, rfl⟩
  | closing partner =>
    rw [execute]
    split <;> exact ⟨⟨rfl, rfl, rfl, rfl, rfl, rfl⟩, rfl, rfl⟩

/-- Only reading can fail. -/
theorem execute_failed {s t : Session} {i : Instruction} {f : Failure}
    (h : s.execute i = (some f, t)) :
    ∃ n, i = .perform .read n ∧ readInput n (n - s.readsDone) s.forgetReads = (some f, t) := by
  cases i with
  | perform action times =>
    cases action with
    | read => exact ⟨times, rfl, h⟩
    | left | right | increment | decrement | write => cases h
  | opening partner => cases h
  | closing partner => cases h

/-! ### Steps -/

/-- A step that has no program. -/
theorem step_of_error {s : Session} {e : CompileError} (herr : s.error = some e) :
    s.step = (.failed (.compile e), s) := by
  simp only [step, herr]

/-- A step that has no instruction to execute. -/
theorem step_of_none {s : Session} (herr : s.error = none) (hi : s.program.at? s.pc = none) :
    s.step = (.finished, s) := by
  simp only [step, herr, hi]

/-- A step that has an instruction to execute, and executes it. -/
theorem step_of_execute {s t : Session} {i : Instruction} (herr : s.error = none)
    (hi : s.program.at? s.pc = some i) (h : s.execute i = (none, t)) :
    s.step = (.value t.advance.cell, t.advance) := by
  simp only [step, herr, hi, h]

/-- A step that has an instruction to execute, and fails. -/
theorem step_of_execute_failed {s t : Session} {i : Instruction} {f : Failure}
    (herr : s.error = none) (hi : s.program.at? s.pc = some i) (h : s.execute i = (some f, t)) :
    s.step = (.failed f, t) := by
  simp only [step, herr, hi, h]

/-- **A step that was done** has executed an instruction and gone on. -/
theorem step_value {s t : Session} {c : UInt8} (h : s.step = (.value c, t)) :
    s.error = none ∧ ∃ i u, s.program.at? s.pc = some i ∧ s.execute i = (none, u) ∧
      t = u.advance ∧ c = t.cell := by
  rw [step] at h
  split at h
  · cases h
  next herr =>
  split at h
  · cases h
  next i hi =>
  split at h
  · cases h
  next u hu =>
  cases h
  exact ⟨herr, i, u, hi, hu, rfl, rfl⟩

/-- **A step that failed** either had no program or was at an instruction that failed. -/
theorem step_failed {s t : Session} {f : Failure} (h : s.step = (.failed f, t)) :
    (∃ e, s.error = some e ∧ f = .compile e ∧ t = s) ∨
      s.error = none ∧ ∃ i, s.program.at? s.pc = some i ∧ s.execute i = (some f, t) := by
  rw [step] at h
  split at h
  next e herr =>
    cases h
    exact Or.inl ⟨e, herr, rfl, rfl⟩
  next herr =>
  split at h
  · cases h
  next i hi =>
  split at h
  next f' u hu =>
    cases h
    exact Or.inr ⟨herr, i, hi, hu⟩
  · cases h

/-- **A step that found no instruction** changes nothing. -/
theorem step_finished {s t : Session} (h : s.step = (.finished, t)) :
    t = s ∧ s.error = none ∧ s.program.at? s.pc = none := by
  rw [step] at h
  split at h
  · cases h
  next herr =>
  split at h
  next hi =>
    cases h
    exact ⟨rfl, herr, hi⟩
  next i hi =>
  split at h <;> cases h

/-- **What a session is about to do**: there is no instruction, or one that it executes, or one at
which it fails. -/
theorem step_cases (s : Session) :
    s.program.at? s.pc = none ∨
      (∃ i c t, s.program.at? s.pc = some i ∧ s.step = (.value c, t)) ∨
      ∃ i f t, s.program.at? s.pc = some i ∧ s.step = (.failed f, t) := by
  rcases hi : s.program.at? s.pc with _ | i
  · exact Or.inl rfl
  rcases hs : s.step with ⟨c | _ | f, t⟩
  · exact Or.inr (Or.inl ⟨i, c, t, rfl, rfl⟩)
  · obtain ⟨-, -, hnone⟩ := step_finished hs
    cases hi.symm.trans hnone
  · exact Or.inr (Or.inr ⟨i, f, t, rfl, rfl⟩)

/-- A step that failed either had no program or was at a read, all that it did. -/
theorem step_failed_outcome {s t : Session} {f : Failure} (h : s.step = (.failed f, t)) :
    (∃ e, s.error = some e ∧ f = .compile e ∧ t = s) ∨
      ∃ n, s.program.at? s.pc = some (.perform .read n) ∧
        ReadOutcome n s.forgetReads (some f) t := by
  refine (step_failed h).imp_right ?_
  rintro ⟨-, i, hi, hexec⟩
  obtain ⟨n, rfl, hread⟩ := execute_failed hexec
  have hout := readInput_outcome (Nat.sub_le n s.readsDone) s.forgetReads
  rw [hread] at hout
  exact ⟨n, hi, hout⟩

/-- **The reasons for which a step can fail**: there is no program, the input has ended, or a
character has no code. -/
theorem failure_of_step {s : Session} {f : Failure} (h : s.step.1 = .failed f) :
    (∃ e, s.error = some e ∧ f = .compile e) ∨ f = .endOfInput s.pc ∨ f = .unencodable := by
  rcases hs : s.step with ⟨o, t⟩
  rw [hs] at h
  obtain rfl := h
  rcases step_failed_outcome hs with ⟨e, herr, hf, -⟩ | ⟨n, -, hout⟩
  · exact Or.inl ⟨e, herr, hf⟩
  · cases hout with
    | ended => exact Or.inr (Or.inl rfl)
    | failed => exact Or.inr (Or.inr rfl)

theorem step_keeps {s t : Session} {c : UInt8} (h : s.step = (.value c, t)) :
    Keeps s t ∧ t.iterations = s.iterations + 1 := by
  obtain ⟨-, i, u, -, hu, rfl, -⟩ := step_value h
  obtain ⟨hkeeps, hiter, -⟩ := execute_keeps s i
  rw [hu] at hkeeps hiter
  exact ⟨⟨hkeeps.program, hkeeps.error, hkeeps.eof, hkeeps.cap, hkeeps.capped, hkeeps.size⟩,
    congrArg (· + 1) hiter⟩

/-- **A step that failed** changes nothing but what reads change: it does not go on and is not
counted. -/
theorem step_failed_keeps {s t : Session} {f : Failure} (h : s.step = (.failed f, t)) :
    Keeps s t ∧ t.pc = s.pc ∧ t.pointer = s.pointer ∧ t.iterations = s.iterations ∧
      t.halted = s.halted := by
  rcases step_failed_outcome h with ⟨-, -, -, rfl⟩ | ⟨n, -, hout⟩
  · exact ⟨⟨rfl, rfl, rfl, rfl, rfl, rfl⟩, rfl, rfl, rfl, rfl⟩
  cases hout with
  | ended hsize => exact ⟨⟨rfl, rfl, rfl, rfl, rfl, hsize⟩, rfl, rfl, rfl, rfl⟩
  | failed hsize => exact ⟨⟨rfl, rfl, rfl, rfl, rfl, hsize⟩, rfl, rfl, rfl, rfl⟩

/-- A step that failed has written nothing. -/
theorem step_failed_output {s t : Session} {f : Failure} (h : s.step = (.failed f, t)) :
    t.output = s.output := by
  rcases step_failed_outcome h with ⟨-, -, -, rfl⟩ | ⟨n, -, hout⟩
  · rfl
  · cases hout <;> rfl

/-- There is a next instruction exactly if the program has one at the present position. -/
theorem available_iff {s : Session} :
    s.available = true ↔ s.error = none ∧ ∃ i, s.program.at? s.pc = some i := by
  have hlt : (∃ i, s.program.at? s.pc = some i) ↔ s.pc < s.program.size := by
    rw [Program.at?, Program.size]
    constructor
    · rintro ⟨i, hi⟩
      exact (Array.getElem?_eq_some_iff.mp hi).1
    · intro h
      exact ⟨_, Array.getElem?_eq_getElem h⟩
  rw [hlt, available, Bool.and_eq_true, Option.isNone_iff_eq_none, decide_eq_true_eq]

end Session

end Brainfuck
