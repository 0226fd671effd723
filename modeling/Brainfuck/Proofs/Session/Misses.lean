import Brainfuck.Proofs.Session.Persistence

/-!
# Runs that miss nothing

How the end of the input is treated makes no difference to a run that never reads there. With the
end of the input an error, a run comes to the end of its program exactly if it misses
nothing with the end treated in any other way
(`Brainfuck.Session.misses_eq_nil_iff`), so that whether a run misses anything is a
question about how another run ends.
-/

namespace Brainfuck

namespace Session

/-- The session with another way to treat the end of its input. -/
def withMode (s : Session) (mode : EndMode) : Session := { s with eof := mode }

section Misses

variable {s t : Session} {mode : EndMode} {total : Nat}

/-! ### Misses add up -/

/-- No read takes a read or a miss back. -/
theorem counts_le_readInput (total left : Nat) (s : Session) :
    s.reads ≤ (readInput total left s).2.reads ∧
      s.misses.length ≤ (readInput total left s).2.misses.length := by
  induction left generalizing s with
  | zero => exact ⟨Nat.le_refl _, Nat.le_refl _⟩
  | succ left ih =>
    rcases hread : s.input.read with ⟨failure | ⟨_ | byte⟩, input⟩
    · rw [readInput_failed hread]
      exact ⟨Nat.le_refl _, Nat.le_refl _⟩
    · cases heof : s.eof with
      | keep =>
        obtain ⟨hreads, hmisses⟩ := ih (s.withReads input s.tape s.reads (s.pc :: s.misses))
        rw [readInput_keep hread heof]
        exact ⟨hreads, Nat.le_of_succ_le hmisses⟩
      | zero =>
        obtain ⟨hreads, hmisses⟩ :=
          ih (s.withReads input (s.tape.put s.pointer 0) s.reads (s.pc :: s.misses))
        rw [readInput_zero hread heof]
        exact ⟨hreads, Nat.le_of_succ_le hmisses⟩
      | error =>
        rw [readInput_end hread heof]
        exact ⟨Nat.le_refl _, Nat.le_refl _⟩
    · obtain ⟨hreads, hmisses⟩ :=
        ih (s.withReads input (s.tape.put s.pointer byte) (s.reads + 1) s.misses)
      rw [readInput_byte hread]
      exact ⟨Nat.le_of_succ_le hreads, hmisses⟩

/-- Reads that are all done, the first of them at the end of the input, have missed something. -/
theorem misses_lt_readInput {left : Nat} {input : Source} (hread : s.input.read = (.ok none, input))
    (h : readInput total (left + 1) s = (none, t)) : s.misses.length < t.misses.length := by
  cases heof : s.eof with
  | keep =>
    obtain ⟨-, hle⟩ :=
      counts_le_readInput total left (s.withReads input s.tape s.reads (s.pc :: s.misses))
    rw [readInput_keep hread heof] at h
    rw [h] at hle
    exact hle
  | zero =>
    obtain ⟨-, hle⟩ := counts_le_readInput total left
      (s.withReads input (s.tape.put s.pointer 0) s.reads (s.pc :: s.misses))
    rw [readInput_zero hread heof] at h
    rw [h] at hle
    exact hle
  | error =>
    rw [readInput_end hread heof] at h
    cases h

theorem misses_le_execute (s : Session) (i : Instruction) :
    s.misses.length ≤ (s.execute i).2.misses.length := by
  cases i with
  | perform action times =>
    cases action with
    | read => exact (counts_le_readInput times (times - s.readsDone) s.forgetReads).2
    | left | right | increment | decrement | write => exact Nat.le_refl _
  | opening partner =>
    rw [execute]
    split <;> exact Nat.le_refl _
  | closing partner =>
    rw [execute]
    split <;> exact Nat.le_refl _

/-- **No walk takes a miss back.** -/
theorem Walk.misses_le {n : Nat} (h : Walk n s t) : s.misses.length ≤ t.misses.length := by
  induction h with
  | refl => exact Nat.le_refl _
  | @step n s t u c hstep _ ih =>
    obtain ⟨-, i, v, -, hv, rfl, -⟩ := step_value hstep
    have hle := misses_le_execute s i
    rw [hv] at hle
    exact Nat.le_trans hle ih

/-! ### The end of the input as an error -/

/-- Reads of a session to which the end of its input is an error are all done, and then they are the
same if it is not; or else there is a miss if it is not. -/
theorem readInput_withMode (hs : s.eof = .error) (mode : EndMode) (left : Nat) :
    (∃ t, readInput total left s = (none, t) ∧
        readInput total left (s.withMode mode) = (none, t.withMode mode) ∧ t.misses = s.misses) ∨
      (∃ f t, readInput total left s = (some f, t)) ∧
        ∀ t, readInput total left (s.withMode mode) = (none, t) →
          s.misses.length < t.misses.length := by
  induction left generalizing s with
  | zero => exact Or.inl ⟨s, rfl, rfl, rfl⟩
  | succ left ih =>
    rcases hread : s.input.read with ⟨failure | ⟨_ | byte⟩, input⟩
    · rw [readInput_failed hread, readInput_failed (s := s.withMode mode) hread]
      refine Or.inr ⟨⟨_, _, rfl⟩, fun t ht => ?_⟩
      cases ht
    · rw [readInput_end hread hs]
      exact Or.inr ⟨⟨_, _, rfl⟩, fun t ht => misses_lt_readInput (s := s.withMode mode) hread ht⟩
    · rw [readInput_byte hread, readInput_byte (s := s.withMode mode) hread]
      exact ih (s := s.withReads input (s.tape.put s.pointer byte) (s.reads + 1) s.misses) hs

theorem execute_withMode (hs : s.eof = .error) (mode : EndMode) (i : Instruction) :
    (∃ t, s.execute i = (none, t) ∧ (s.withMode mode).execute i = (none, t.withMode mode) ∧
        t.misses = s.misses) ∨
      (∃ f t, s.execute i = (some f, t)) ∧
        ∀ t, (s.withMode mode).execute i = (none, t) → s.misses.length < t.misses.length := by
  have hcell : (s.withMode mode).cell = s.cell := rfl
  cases i with
  | perform action times =>
    cases action with
    | read => exact readInput_withMode (s := s.forgetReads) hs mode (times - s.readsDone)
    | left | right | increment | decrement | write => exact Or.inl ⟨_, rfl, rfl, rfl⟩
  | opening partner =>
    rw [execute, execute, hcell]
    split <;> exact Or.inl ⟨_, rfl, rfl, rfl⟩
  | closing partner =>
    rw [execute, execute, hcell]
    split <;> exact Or.inl ⟨_, rfl, rfl, rfl⟩

/-- **A step is the same however the end of the input is treated**, unless it fails where that is an
error, and then it is missed where that is none. -/
theorem step_withMode (hs : s.eof = .error) (mode : EndMode) :
    (∃ c t, s.step = (.value c, t) ∧ (s.withMode mode).step = (.value c, t.withMode mode) ∧
        t.misses = s.misses) ∨
      (∀ c t, s.step ≠ (.value c, t)) ∧
        ∀ c t, (s.withMode mode).step = (.value c, t) → s.misses.length < t.misses.length := by
  rcases herr : s.error with _ | e
  · rcases hi : s.program.at? s.pc with _ | i
    · refine Or.inr ⟨fun c t h => ?_, fun c t h => ?_⟩
      · cases (step_of_none herr hi).symm.trans h
      · cases (step_of_none (s := s.withMode mode) herr hi).symm.trans h
    · rcases execute_withMode hs mode i with ⟨t, ht, ht', hmisses⟩ | ⟨⟨f, t, ht⟩, hmissed⟩
      · exact Or.inl ⟨_, _, step_of_execute herr hi ht,
          step_of_execute (s := s.withMode mode) herr hi ht', hmisses⟩
      · refine Or.inr ⟨fun c u hu => ?_, fun c u hu => ?_⟩
        · cases (step_of_execute_failed herr hi ht).symm.trans hu
        · obtain ⟨-, j, v, hj, hv, rfl, -⟩ := step_value hu
          obtain rfl : i = j := Option.some.inj (hi.symm.trans hj)
          exact hmissed v hv
  · refine Or.inr ⟨fun c t h => ?_, fun c t h => ?_⟩
    · cases (step_of_error herr).symm.trans h
    · cases (step_of_error (s := s.withMode mode) herr).symm.trans h

/-- A walk is the same however the end of the input is treated. -/
theorem Walk.withMode {n : Nat} (h : Walk n s t) (hs : s.eof = .error) (mode : EndMode) :
    Walk n (s.withMode mode) (t.withMode mode) ∧ t.misses = s.misses := by
  induction h with
  | refl => exact ⟨.refl, rfl⟩
  | @step n s t u c hstep _ ih =>
    rcases step_withMode hs mode with ⟨c', t', ht, ht', hmisses⟩ | ⟨hnot, -⟩
    · rw [hstep] at ht
      cases ht
      obtain ⟨hwalk, hmisses'⟩ := ih ((step_keeps hstep).1.eof.trans hs)
      exact ⟨.step ht' hwalk, hmisses'.trans hmisses⟩
    · exact absurd hstep (hnot c t)

/-- **A walk that misses nothing can be walked where the end of the input is an error.** -/
theorem Walk.exists_of_withMode {n : Nat} {v : Session} (h : Walk n (s.withMode mode) v)
    (hs : s.eof = .error) (hle : v.misses.length ≤ s.misses.length) :
    ∃ t, Walk n s t ∧ v = t.withMode mode := by
  generalize hu : s.withMode mode = u at h
  induction h generalizing s with
  | refl =>
    subst hu
    exact ⟨s, .refl, rfl⟩
  | @step n u w v c hstep hwalk ih =>
    subst hu
    rcases step_withMode hs mode with ⟨c', t, ht, ht', hmisses⟩ | ⟨-, hmissed⟩
    · rw [hstep] at ht'
      cases ht'
      obtain ⟨r, hr, hv⟩ := ih ((step_keeps ht).1.eof.trans hs) (by rwa [hmisses]) rfl
      exact ⟨r, .step ht hr, hv⟩
    · -- a miss is not taken back
      have hlt := hmissed c w hstep
      have hle' := hwalk.misses_le
      omega

end Misses

/-! ### Fresh sessions -/

section Fresh

variable {commands : List Command} {optimize : Bool} {length : TapeLength} {mode : EndMode}
  {input : List UInt8} {sink : Sink} {p : Program} {t : Session}

/-- A run of a fresh session without a bound comes to the end of the program by a walk. -/
theorem ends_finished_iff (h : Program.compile commands optimize = .ok p) :
    (fresh commands optimize length none mode input sink).Ends .finished t ↔
      ∃ n, Walk n (fresh commands optimize length none mode input sink) t ∧
        t.step = (.finished, t) := by
  have hfresh : (fresh commands optimize length none mode input sink).cap = none ∧
      (fresh commands optimize length none mode input sink).error = none := by
    rw [fresh_of_compile h]
    exact ⟨rfl, rfl⟩
  obtain ⟨hcap, herr⟩ := hfresh
  constructor
  · rintro ⟨-, fuel, hrun⟩
    rw [run_fresh h] at hrun
    obtain ⟨n, v, hwalk, ⟨hv, -, rfl⟩ | ⟨f, -, hf⟩⟩ :=
      exists_walk_of_continueRun hcap herr hrun nofun
    · exact ⟨n, hwalk, hv⟩
    · cases hf
  · rintro ⟨n, hwalk, ht⟩
    have hcap' : t.cap = none := hwalk.keeps.1.cap.trans hcap
    refine ⟨nofun, n + 1, ?_⟩
    rw [run_fresh h, continueRun_of_walk hwalk (exceedsCap_of_none hcap'), continueRun, ht]

/-- **A run that comes to the end of the program misses nothing exactly if it does so where the end
of the input is an error.** -/
theorem misses_eq_nil_iff (h : Program.compile commands optimize = .ok p)
    (hends : (fresh commands optimize length none mode input sink).Ends .finished t) :
    t.misses = [] ↔
      ∃ u, (fresh commands optimize length none .error input sink).Ends .finished u := by
  have hmode : fresh commands optimize length none mode input sink =
      (fresh commands optimize length none .error input sink).withMode mode := by
    rw [fresh_of_compile h, fresh_of_compile h]
    rfl
  have hstrict : (fresh commands optimize length none .error input sink).eof = .error ∧
      (fresh commands optimize length none .error input sink).misses = [] := by
    rw [fresh_of_compile h]
    exact ⟨rfl, rfl⟩
  obtain ⟨heof, hnil⟩ := hstrict
  constructor
  · intro hmisses
    obtain ⟨n, hwalk, ht⟩ := (ends_finished_iff h).mp hends
    rw [hmode] at hwalk
    obtain ⟨u, hu, rfl⟩ := hwalk.exists_of_withMode heof (by simp [hmisses])
    obtain ⟨-, herr, hi⟩ := step_finished ht
    exact ⟨u, (ends_finished_iff h).mpr ⟨n, hu, step_of_none herr hi⟩⟩
  · rintro ⟨u, hu⟩
    obtain ⟨n, hwalk, hfinished⟩ := (ends_finished_iff h).mp hu
    obtain ⟨hwalk', hmisses⟩ := hwalk.withMode heof mode
    rw [← hmode] at hwalk'
    obtain ⟨-, herr, hi⟩ := step_finished hfinished
    have hends' : (fresh commands optimize length none mode input sink).Ends .finished
        (u.withMode mode) :=
      (ends_finished_iff h).mpr ⟨n, hwalk', step_of_none (s := u.withMode mode) herr hi⟩
    obtain ⟨-, rfl⟩ := hends.unique hends'
    exact hmisses.trans hnil

end Fresh

end Session

end Brainfuck
