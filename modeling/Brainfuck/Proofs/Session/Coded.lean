import Brainfuck.Proofs.Endpoints
import Brainfuck.Proofs.Session.Observation

/-!
# Input that has a code

A step can fail at a character that has no code, but only a text file has such characters. As long
as a source gives nothing but bytes (`Brainfuck.Source.Coded`), and a step leaves it so, there is
one failure that a program which has compiled can meet: its input may end.
-/

namespace Brainfuck

/-- **A source of bytes**: no character without a code is pending in it. -/
def Source.Coded (s : Source) : Prop := none ∉ s.pending

/-- What bytes are made of has a code. -/
theorem Source.coded_of_map {s : Source} (bytes : List UInt8) (h : s.pending = bytes.map some) :
    s.Coded := by
  simp [Coded, h]

/-- **A read of a source of bytes** does not fail, and leaves a source of bytes. -/
theorem Source.Coded.exists_read {s : Source} (h : s.Coded) :
    ∃ x t, s.read = (.ok x, t) ∧ t.Coded := by
  rcases hs : s.pending with _ | ⟨_ | byte, rest⟩
  · exact ⟨none, s, read_of_pending_nil hs, h⟩
  · rw [Coded, hs] at h
    exact absurd List.mem_cons_self h
  · obtain ⟨t, ht, rfl⟩ := read_of_pending_cons hs
    rw [Coded, hs] at h
    exact ⟨some byte, t, ht, fun hmem => h (List.mem_cons_of_mem _ hmem)⟩

namespace Session

section Coded

variable {s t : Session} {f : Failure}

/-- All reads of an instruction leave a source of bytes. -/
theorem readInput_coded (total left : Nat) (h : s.input.Coded) :
    (readInput total left s).1 ≠ some .unencodable ∧ (readInput total left s).2.input.Coded := by
  induction left generalizing s with
  | zero => exact ⟨nofun, h⟩
  | succ left ih =>
    obtain ⟨x, input, hread, hinput⟩ := h.exists_read
    rcases x with _ | byte
    · cases heof : s.eof with
      | keep =>
        rw [readInput_keep hread heof]
        exact ih hinput
      | zero =>
        rw [readInput_zero hread heof]
        exact ih hinput
      | error =>
        rw [readInput_end hread heof]
        exact ⟨nofun, hinput⟩
    · rw [readInput_byte hread]
      exact ih hinput

theorem execute_coded (h : s.input.Coded) (i : Instruction) :
    (s.execute i).1 ≠ some .unencodable ∧ (s.execute i).2.input.Coded := by
  have hdone : (none : Option Failure) ≠ some .unencodable := (Option.some_ne_none _).symm
  cases i with
  | perform action times =>
    cases action with
    | read => exact readInput_coded times _ h
    | left | right | increment | decrement | write => exact ⟨hdone, h⟩
  | opening partner =>
    rw [execute]
    split <;> exact ⟨hdone, h⟩
  | closing partner =>
    rw [execute]
    split <;> exact ⟨hdone, h⟩

theorem step_coded {c : UInt8} (h : s.input.Coded) (hs : s.step = (.value c, t)) :
    t.input.Coded := by
  obtain ⟨-, i, u, -, hu, rfl, -⟩ := step_value hs
  have hcoded := (execute_coded h i).2
  rw [hu] at hcoded
  exact hcoded

/-- **A step that has bytes to read fails only at the end of them.** -/
theorem exists_of_step_failed (h : s.input.Coded) (herr : s.error = none)
    (hs : s.step.1 = .failed f) : ∃ pc, f = .endOfInput pc := by
  rcases failure_of_step hs with ⟨e, he, -⟩ | rfl | rfl
  · cases herr.symm.trans he
  · exact ⟨s.pc, rfl⟩
  · rcases hs' : s.step with ⟨o, t⟩
    rw [hs'] at hs
    obtain rfl := hs
    rcases step_failed hs' with ⟨e, he, -⟩ | ⟨-, i, -, hexec⟩
    · cases herr.symm.trans he
    · exact absurd (congrArg Prod.fst hexec) (execute_coded h i).1

theorem Walk.coded {n : Nat} (h : Walk n s t) (hs : s.input.Coded) : t.input.Coded := by
  induction h with
  | refl => exact hs
  | step hstep _ ih => exact ih (step_coded hs hstep)

/-- **A run that has bytes to read fails only at the end of them.** -/
theorem exists_of_run_failed {fuel : Nat} (h : s.input.Coded) (herr : s.error = none)
    (hrun : (s.run fuel true).1 = .failed f) : ∃ pc, f = .endOfInput pc := by
  rw [run_true_of_error herr] at hrun
  obtain ⟨n, t, hwalk, ht⟩ := exists_walk_of_failed hrun
  exact exists_of_step_failed (hwalk.coded h) (hwalk.keeps.1.error.trans herr) ht

/-- **So does a trace.** -/
theorem exists_of_observe_failed {β : Type} {note : TraceEntry → Session → β} {limit : Nat}
    (h : s.input.Coded) (herr : s.error = none) (hf : (s.observe note limit).2.1 = some f) :
    ∃ pc, f = .endOfInput pc := by
  obtain ⟨k, t, hwalk, -, -, -, hend⟩ := exists_walk_of_observe herr note limit
  rcases hend with ⟨hsnd, -⟩ | ⟨-, g, hg, hsnd⟩ <;> rw [hsnd] at hf <;> cases hf
  exact exists_of_step_failed (hwalk.coded h) (hwalk.keeps.1.error.trans herr) hg

end Coded

end Session

end Brainfuck
