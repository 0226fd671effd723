import Brainfuck.Proofs.Session.Arguments
import Brainfuck.Proofs.Session.History
import Brainfuck.Proofs.Tables

/-!
# The invariant of a session

Whatever is done with a session, and whether it succeeds or fails, the parts of the session keep
fitting together (`Brainfuck.Session.WellFormed`). Loading a program and resetting establish this
from nothing but the length of the tape, so the only operations with something to show are
those that take steps, and all of them take the same step.

The part that a step could break is the memory of reads that are done. It is for the
present instruction only: a step that is done has forgotten it, and a step that fails has
stayed where it is.
-/

namespace Brainfuck

namespace Session

/-- **The invariant**: how the parts of a session with a tape of a given length fit together. -/
structure WellFormed (length : Nat) (s : Session) : Prop where
  /-- The tape has its length. -/
  size : s.tape.size = length
  /-- The current cell is on the tape. -/
  pointer_lt : s.pointer < length
  /-- The next instruction is in the program or would be right behind it. -/
  pc_le : s.pc ≤ s.program.size
  /-- The tables of the program fit together. -/
  program : s.program.Fits
  /-- A session without a program is at its start, and holds the empty program. -/
  errored : ∀ {e : CompileError}, s.error = some e →
    s.program = .empty ∧ s.pc = 0 ∧ s.pointer = 0 ∧ s.iterations = 0
  /-- A session has only halted at the end of its program, or if it was cut off. -/
  halted : s.halted = true → s.program.size ≤ s.pc ∨ s.capped = true
  /-- A session was only cut off by a bound that it has exceeded. -/
  capped : s.capped = true →
    ∃ c limit, s.cap = some c ∧ c.limit = some limit ∧ limit < s.iterations
  /-- Reads are only remembered for the present instruction, if it is to read more often than
  this and the end of the input is an error. -/
  partialReads : s.partialReads = [] ∨
    ∃ done times, s.partialReads = [⟨s.pc, done⟩] ∧
      s.program.at? s.pc = some (.perform .read times) ∧ done < times ∧ s.eof = .error

section WellFormed

variable {length : Nat} {s t : Session}

/-! ### Starting anew -/

/-- Forgetting the execution leaves a session at its start. -/
theorem wellFormed_reset (hsize : s.tape.size = length) (hprogram : s.program.Fits)
    (herr : ∀ {e : CompileError}, s.error = some e → s.program = .empty) :
    s.reset.WellFormed length where
  size := (Tape.size_reset s.tape).trans hsize
  pointer_lt := hsize ▸ s.tape.size_pos
  pc_le := Nat.zero_le _
  program := hprogram
  errored he := ⟨herr he, rfl, rfl, rfl⟩
  halted h := by cases h
  capped h := by cases h
  partialReads := Or.inl rfl

/-- **Loading establishes the invariant**, whatever the session was like before. -/
theorem wellFormed_load (hsize : s.tape.size = length) (commands : List Command)
    (optimize : Value) : (s.load commands optimize).WellFormed length := by
  rw [load]
  rcases hc : Program.compile commands optimize.isTruthy with e | p
  · exact wellFormed_reset hsize Program.fits_empty fun _ => rfl
  · exact wellFormed_reset hsize (Program.fits_of_compile hc) fun he => by cases he

theorem WellFormed.reset (h : s.WellFormed length) : s.reset.WellFormed length :=
  wellFormed_reset h.size h.program fun he => (h.errored he).1

/-! ### One step -/

/-- What is remembered is forgotten before the instruction reads again. -/
theorem WellFormed.forgetReads (h : s.WellFormed length) : s.forgetReads.partialReads = [] := by
  rcases h.partialReads with hparts | ⟨done, times, hparts, -⟩
  · rw [Session.forgetReads, hparts]
    rfl
  · rw [Session.forgetReads, hparts]
    simp

/-- To forget again what has been forgotten leaves nothing. -/
theorem WellFormed.forgetReads_forgetReads (h : s.WellFormed length) :
    s.forgetReads.forgetReads.partialReads = [] := by
  rw [Session.forgetReads, h.forgetReads]
  rfl

/-- No more reads are done than the instruction is to make. -/
theorem WellFormed.readsDone_le (h : s.WellFormed length) {n : Nat}
    (hi : s.program.at? s.pc = some (.perform .read n)) : s.readsDone ≤ n := by
  rcases h.partialReads with hparts | ⟨done, times, hparts, hat, hlt, -⟩
  · rw [readsDone, hparts]
    exact Nat.zero_le n
  · obtain rfl : n = times := by
      rw [hi] at hat
      cases hat
      rfl
    have hreads : s.readsDone = done := by
      rw [readsDone, hparts]
      simp
    omega

/-- Nothing is remembered at an instruction that does not read. -/
theorem WellFormed.partialReads_eq_nil (h : s.WellFormed length) {i : Instruction}
    (hi : s.program.at? s.pc = some i) (hread : ∀ n, i ≠ .perform .read n) :
    s.partialReads = [] := by
  rcases h.partialReads with hparts | ⟨done, times, -, hat, -⟩
  · exact hparts
  · rw [hi, Option.some.injEq] at hat
    exact absurd hat (hread times)

/-- **An instruction that is executed** leaves the pointer on the tape and the position in the
program, and nothing to be made up for. -/
theorem WellFormed.execute (h : s.WellFormed length) {i : Instruction}
    (hi : s.program.at? s.pc = some i) (ht : s.execute i = (none, t)) :
    t.pc < s.program.size ∧ t.pointer < length ∧ t.partialReads = [] := by
  have hpc : s.pc < s.program.size := (Array.getElem?_eq_some_iff.mp hi).1
  have hshift : ∀ n : Int, s.tape.shift s.pointer n < length := fun n =>
    h.size ▸ s.tape.shift_lt s.pointer n
  cases i with
  | perform action times =>
    cases action with
    | right =>
      cases ht
      exact ⟨hpc, hshift times, h.partialReads_eq_nil hi fun _ hn => by cases hn⟩
    | left =>
      cases ht
      exact ⟨hpc, hshift (-times), h.partialReads_eq_nil hi fun _ hn => by cases hn⟩
    | increment | decrement | write =>
      cases ht
      exact ⟨hpc, h.pointer_lt, h.partialReads_eq_nil hi fun _ hn => by cases hn⟩
    | read =>
      have hout := readInput_outcome (Nat.sub_le times s.readsDone) s.forgetReads
      have hread : readInput times (times - s.readsDone) s.forgetReads = (none, t) := ht
      rw [hread] at hout
      cases hout with
      | all => exact ⟨hpc, h.pointer_lt, h.forgetReads⟩
  | opening partner =>
    have hnil := h.partialReads_eq_nil hi fun _ hn => by cases hn
    have hpartner := h.program.partner_lt hi rfl
    rw [Session.execute] at ht
    split at ht <;> cases ht
    · exact ⟨hpartner, h.pointer_lt, hnil⟩
    · exact ⟨hpc, h.pointer_lt, hnil⟩
  | closing partner =>
    have hnil := h.partialReads_eq_nil hi fun _ hn => by cases hn
    have hpartner := h.program.partner_lt hi rfl
    rw [Session.execute] at ht
    split at ht <;> cases ht
    · exact ⟨hpc, h.pointer_lt, hnil⟩
    · exact ⟨hpartner, h.pointer_lt, hnil⟩

/-- A step that is done. -/
theorem WellFormed.step_value (h : s.WellFormed length) {c : UInt8}
    (hstep : s.step = (.value c, t)) : t.WellFormed length := by
  obtain ⟨hkeeps, hiter⟩ := step_keeps hstep
  obtain ⟨herr, i, u, hi, hu, rfl, -⟩ := Session.step_value hstep
  obtain ⟨hpc, hpointer, hparts⟩ := h.execute hi hu
  have hprogram : u.program = s.program := hkeeps.program
  have hcapped : u.capped = s.capped := hkeeps.capped
  refine ⟨hkeeps.size.trans h.size, hpointer, ?_, ?_, ?_, ?_, ?_, Or.inl hparts⟩
  · exact hprogram ▸ hpc
  · exact hprogram ▸ h.program
  · intro e he
    rw [hkeeps.error, herr] at he
    cases he
  · intro hhalted
    exact Or.inl (of_decide_eq_true hhalted)
  · intro hc
    obtain ⟨c, limit, hcap, hlimit, hlt⟩ := h.capped (hcapped ▸ hc)
    exact ⟨c, limit, hkeeps.cap.trans hcap, hlimit, by omega⟩

/-- A step that fails. -/
theorem WellFormed.step_failed (h : s.WellFormed length) {f : Failure}
    (hstep : s.step = (.failed f, t)) : t.WellFormed length := by
  obtain ⟨hkeeps, hpc, hpointer, hiter, hhalted⟩ := step_failed_keeps hstep
  have hparts : t.partialReads = [] ∨ ∃ done times, t.partialReads = [⟨t.pc, done⟩] ∧
      t.program.at? t.pc = some (.perform .read times) ∧ done < times ∧ t.eof = .error := by
    rcases step_failed_outcome hstep with ⟨-, -, -, rfl⟩ | ⟨n, hi, hout⟩
    · exact h.partialReads
    cases hout with
    | @ended input tape reads done misses _ hdone heof =>
      refine Or.inr ⟨done, n, ?_, hi, hdone, heof⟩
      exact congrArg (List.cons ⟨s.pc, done⟩) h.forgetReads_forgetReads
    | failed => exact Or.inl h.forgetReads
  refine ⟨hkeeps.size.trans h.size, hpointer ▸ h.pointer_lt, ?_, ?_, ?_, ?_, ?_, hparts⟩
  · rw [hpc, hkeeps.program]
    exact h.pc_le
  · rw [hkeeps.program]
    exact h.program
  · intro e he
    rw [hkeeps.error] at he
    rw [hkeeps.program, hpc, hpointer, hiter]
    exact h.errored he
  · intro ht
    rw [hkeeps.program, hpc, hkeeps.capped]
    exact h.halted (hhalted ▸ ht)
  · intro ht
    rw [hkeeps.cap, hiter]
    exact h.capped (hkeeps.capped ▸ ht)

/-- **Every step keeps the invariant.** -/
theorem WellFormed.step (h : s.WellFormed length) : s.step.2.WellFormed length := by
  rcases hstep : s.step with ⟨c | _ | f, t⟩
  · exact h.step_value hstep
  · obtain ⟨rfl, -⟩ := step_finished hstep
    exact h
  · exact h.step_failed hstep

/-- A run that exceeds its bound is cut off. -/
theorem WellFormed.cutOff (h : s.WellFormed length) (hexceeded : s.exceedsCap = true) :
    s.cutOff.WellFormed length where
  size := h.size
  pointer_lt := h.pointer_lt
  pc_le := h.pc_le
  program := h.program
  errored := h.errored
  halted _ := Or.inr rfl
  capped _ := exceedsCap_iff.mp hexceeded
  partialReads := h.partialReads

/-! ### Histories -/

/-- **Everything that can be done to a session keeps the invariant.** -/
theorem kept_wellFormed (length : Nat) : Kept (WellFormed length) where
  step h := h.step
  cutOff h hexceeded := h.cutOff hexceeded
  reset h := h.reset
  load h commands optimize := wellFormed_load h.size commands optimize
  tape h _ hsize := ⟨hsize.trans h.size, h.pointer_lt, h.pc_le, h.program, h.errored, h.halted,
    h.capped, h.partialReads⟩
  endpoints h _ _ := ⟨h.size, h.pointer_lt, h.pc_le, h.program, h.errored, h.halted, h.capped,
    h.partialReads⟩

/-- **Every history keeps the invariant.** -/
theorem WellFormed.applyAll (h : s.WellFormed length) (history : List Operation) :
    (s.applyAll history).WellFormed length :=
  (kept_wellFormed length).applyAll h history

end WellFormed

/-! ### Sessions that have been made -/

/-- A session that has been made is all right, with a tape of the length that was asked for. -/
theorem wellFormed_ofArguments [Memory] {a : Arguments} {s : Session} (h : ofArguments a = .ok s) :
    ∃ length, TapeLength.ofValue a.tapeLengthValue = .ok length ∧ s.WellFormed length.val := by
  obtain ⟨length, cap, mode, input, output, hmeans, hload⟩ := a.exists_means h
  obtain ⟨commands, -, rfl⟩ := exists_of_loadValue hload
  exact ⟨length, hmeans.tapeLength, wellFormed_load (Tape.size_blank length) commands _⟩

/-- After every history a session still has the options that it was made with. -/
theorem exists_means_applyAll [Memory] {a : Arguments} {s : Session} (h : ofArguments a = .ok s)
    (history : List Operation) :
    ∃ length cap mode input output, a.Means length cap mode input output ∧
      (s.applyAll history).WellFormed length.val ∧ (s.applyAll history).eof = mode ∧
      (s.applyAll history).cap = cap := by
  obtain ⟨length, cap, mode, input, output, hmeans, hload⟩ := a.exists_means h
  obtain ⟨commands, -, rfl⟩ := exists_of_loadValue hload
  have hs := wellFormed_load (s := idle (.blank length) cap input output mode)
    (Tape.size_blank length) commands a.optimizeValue
  have hoptions := (kept_options mode cap).load (s := idle (.blank length) cap input output mode)
    ⟨rfl, rfl⟩ commands a.optimizeValue
  exact ⟨length, cap, mode, input, output, hmeans, hs.applyAll history,
    (kept_options mode cap).applyAll hoptions history⟩

/-- **The session invariant.** After every history of a session that has been made, failures
included, its tape has the length that was asked for and all its parts fit together. -/
theorem wellFormed_history [Memory] {a : Arguments} {s : Session} (h : ofArguments a = .ok s)
    (history : List Operation) :
    ∃ length, TapeLength.ofValue a.tapeLengthValue = .ok length ∧ 1 ≤ length.val ∧
      s.tape.size = length.val ∧ (s.applyAll history).WellFormed length.val := by
  obtain ⟨length, hlength, hs⟩ := wellFormed_ofArguments h
  exact ⟨length, hlength, length.pos, hs.size, hs.applyAll history⟩

section Usual

attribute [local instance] Memory.usual

/-- A folded read that fails half way, is fed and goes on, before a text that does not compile. -/
theorem wellFormed_history_folded :
    ofArguments
        { source := some (.text ",,."), tapeLength := some (.int 2),
          optimize := some (.bool true), maxIterations := none,
          input := some (.source (.buffer (.ofList [7]))), output := some (.sink (.buffer #[])),
          eof := some (.text EndMode.error.name), unknown := [] } =
      .ok (fresh (Command.ofText ",,.") true ⟨2, Nat.two_pos⟩ none .error [7] (.buffer #[])) ∧
    ∃ length, TapeLength.ofValue (.int 2) = .ok length ∧ 1 ≤ length.val ∧
      (fresh (Command.ofText ",,.") true ⟨2, Nat.two_pos⟩ none .error [7]
        (.buffer #[])).tape.size = length.val ∧
      ((fresh (Command.ofText ",,.") true ⟨2, Nat.two_pos⟩ none .error [7] (.buffer #[])).applyAll
        [.run 9 true, .poke 1 300, .feed (.bytes false [8]), .step, .trace (.int 5) (some 1),
          .load (.text "]") (.bool false), .debug .null .null]).WellFormed length.val := by
  have h := ofArguments_fresh ",,." true ⟨2, Nat.two_pos⟩ rfl .error [7] (.buffer #[])
  exact ⟨h, wellFormed_history h _⟩

end Usual

end Session

end Brainfuck
