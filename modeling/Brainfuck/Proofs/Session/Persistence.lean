import Brainfuck.Proofs.Session.Run

/-!
# Going on after a character without a code

A text is read character by character, and a character that has no code of one byte makes the
read fail when its turn comes. Such a character is used up, so the session can be continued,
and if it is continued as often as it takes it comes to an end of another kind or goes on
forever (`Brainfuck.Session.Settles`).

Without a bound on the steps it does not matter where one run ends and the next one starts:
a session that is driven in this way takes step after step, and a step that fails is taken
again (`Brainfuck.Session.Persists`). What a step that fails has done before it failed
is not undone, though, and an instruction that stands for several reads starts all over. The
sessions that are not harmed by this are those that never complete a read in a step that fails
(`Brainfuck.Session.KeepsReads`); in a program that folds no reads there is none to complete
(`Brainfuck.Session.keepsReads_of_once`).
-/

namespace Brainfuck

namespace Session

/-- **A session that is driven**: it is run, and continued after every character that has no code,
until it comes to another end. -/
inductive Settles : Bool → Session → Ending → Session → Prop
  /-- The run comes to another end. -/
  | ends {fromStart : Bool} {fuel : Nat} {s t : Session} {e : Ending} :
    s.run fuel fromStart = (e, t) → e ≠ .outOfFuel → e ≠ .failed .unencodable →
      Settles fromStart s e t
  /-- The run is continued. -/
  | again {fromStart : Bool} {fuel : Nat} {s t u : Session} {e : Ending} :
    s.run fuel fromStart = (.failed .unencodable, t) → Settles false t e u →
      Settles fromStart s e u

/-- **Steps that are taken again** when they find a character without a code, up to another end. -/
inductive Persists : Session → Ending → Session → Prop
  /-- There is no instruction left. -/
  | finished {s : Session} : s.step = (.finished, s) → Persists s .finished s
  /-- A step fails for another reason. -/
  | failed {s t : Session} {f : Failure} :
    s.step = (.failed f, t) → f ≠ .unencodable → Persists s (.failed f) t
  /-- A step is done. -/
  | value {s t u : Session} {c : UInt8} {e : Ending} :
    s.step = (.value c, t) → Persists t e u → Persists s e u
  /-- A step is taken again. -/
  | again {s t u : Session} {e : Ending} :
    s.step = (.failed .unencodable, t) → Persists t e u → Persists s e u

/-! ### Runs and steps -/

section Steps

variable {s t u : Session} {e : Ending} {fuel : Nat}

theorem Persists.of_walk {n : Nat} (h : Walk n s t) (ht : Persists t e u) : Persists s e u := by
  induction h with
  | refl => exact ht
  | step hstep _ ih => exact .value hstep (ih ht)

/-- Without a bound, a run that ends has walked to where no step could be taken. -/
theorem exists_walk_of_continueRun (hcap : s.cap = none) (herr : s.error = none)
    (h : continueRun fuel s = (e, t)) (he : e ≠ .outOfFuel) :
    ∃ n v, Walk n s v ∧
      (v.step = (.finished, v) ∧ e = .finished ∧ t = v ∨
        ∃ f, v.step = (.failed f, t) ∧ e = .failed f) := by
  induction fuel generalizing s with
  | zero =>
    rcases havail : s.available with _ | _
    · rw [continueRun_of_unavailable havail herr] at h
      cases h
      exact ⟨0, _, .refl, Or.inl ⟨step_of_unavailable havail herr, rfl, rfl⟩⟩
    · rw [continueRun_zero havail] at h
      cases h
      exact absurd rfl he
  | succ fuel ih =>
    rcases hs : s.step with ⟨c | _ | f, v⟩
    · obtain ⟨hkeeps, -⟩ := step_keeps hs
      have hcap' : v.cap = none := hkeeps.cap.trans hcap
      rw [continueRun_of_value hs (exceedsCap_of_none hcap')] at h
      obtain ⟨n, w, hwalk, hend⟩ := ih hcap' (hkeeps.error.trans herr) h
      exact ⟨n + 1, w, .step hs hwalk, hend⟩
    · rw [continueRun, hs] at h
      cases h
      obtain ⟨rfl, -⟩ := step_finished hs
      exact ⟨0, _, .refl, Or.inl ⟨hs, rfl, rfl⟩⟩
    · rw [continueRun_of_failed hs] at h
      cases h
      exact ⟨0, s, .refl, Or.inr ⟨f, hs, rfl⟩⟩

/-- **A driven session takes its steps** until they come to an end. -/
theorem Settles.persists (h : Settles false s e t) (hcap : s.cap = none) (herr : s.error = none) :
    Persists s e t := by
  generalize hstart : false = fromStart at h
  induction h with
  | @ends _ fuel s t e hrun hfuel hcode =>
    subst hstart
    rw [run_false_of_error herr] at hrun
    obtain ⟨n, v, hwalk, ⟨hv, rfl, rfl⟩ | ⟨f, hv, rfl⟩⟩ :=
      exists_walk_of_continueRun hcap herr hrun hfuel
    · exact .of_walk hwalk (.finished hv)
    · exact .of_walk hwalk (.failed hv fun hf => hcode (congrArg Ending.failed hf))
  | @again _ fuel s t u e hrun _ ih =>
    subst hstart
    rw [run_false_of_error herr] at hrun
    obtain ⟨n, v, hwalk, ⟨-, hf, -⟩ | ⟨f, hv, hf⟩⟩ :=
      exists_walk_of_continueRun hcap herr hrun nofun
    · cases hf
    · cases hf
      obtain ⟨hkeeps, -⟩ := hwalk.keeps
      obtain ⟨hkeeps', -⟩ := step_failed_keeps hv
      exact .of_walk hwalk (.again hv (ih (hkeeps'.cap.trans (hkeeps.cap.trans hcap))
        (hkeeps'.error.trans (hkeeps.error.trans herr)) rfl))

/-- A step can be put before the first run. -/
theorem Settles.of_value {c : UInt8} (h : s.step = (.value c, t)) (ht : Settles false t e u)
    (hcap : s.cap = none) (herr : s.error = none) : Settles false s e u := by
  obtain ⟨hkeeps, -⟩ := step_keeps h
  have hrun : ∀ fuel, s.run (fuel + 1) false = t.run fuel false := by
    intro fuel
    rw [run_false_of_error herr, run_false_of_error (hkeeps.error.trans herr)]
    exact continueRun_of_value h (exceedsCap_of_none (hkeeps.cap.trans hcap)) fuel
  cases ht with
  | ends hends hfuel hcode => exact .ends ((hrun _).trans hends) hfuel hcode
  | again hends hrest => exact .again ((hrun _).trans hends) hrest

/-- **Steps that come to an end are those of a driven session.** -/
theorem Persists.settles (h : Persists s e t) (hcap : s.cap = none) (herr : s.error = none) :
    Settles false s e t := by
  induction h with
  | @finished s hs =>
    have hrun : s.run 1 false = (.finished, s) := by
      rw [run_false_of_error herr, continueRun, hs]
    refine .ends hrun ?_ ?_
    · intro h
      cases h
    · intro h
      cases h
  | @failed s t f hs hf =>
    have hrun : s.run 1 false = (.failed f, t) := by
      rw [run_false_of_error herr, continueRun_of_failed hs]
    refine .ends hrun ?_ ?_
    · intro h
      cases h
    · intro h
      exact hf (Ending.failed.inj h)
  | value hs _ ih =>
    obtain ⟨hkeeps, -⟩ := step_keeps hs
    exact .of_value hs (ih (hkeeps.cap.trans hcap) (hkeeps.error.trans herr)) hcap herr
  | @again s t _ _ hs _ ih =>
    obtain ⟨hkeeps, -⟩ := step_failed_keeps hs
    have hrun : s.run 1 false = (.failed .unencodable, t) := by
      rw [run_false_of_error herr, continueRun_of_failed hs]
    exact .again hrun (ih (hkeeps.cap.trans hcap) (hkeeps.error.trans herr))

/-- **To drive a session that is at its start is to take its steps.** -/
theorem settles_iff_persists (hreset : s.reset = s) (hcap : s.cap = none) (herr : s.error = none) :
    Settles true s e t ↔ Persists s e t := by
  have hrun : ∀ fuel, s.run fuel true = s.run fuel false := by
    intro fuel
    rw [run_true_of_error herr, run_false_of_error herr, hreset]
  constructor
  · intro h
    refine Settles.persists ?_ hcap herr
    cases h with
    | ends hends hfuel hcode => exact .ends ((hrun _).symm.trans hends) hfuel hcode
    | again hends hrest => exact .again ((hrun _).symm.trans hends) hrest
  · intro h
    cases h.settles hcap herr with
    | ends hends hfuel hcode => exact .ends ((hrun _).trans hends) hfuel hcode
    | again hends hrest => exact .again ((hrun _).trans hends) hrest

end Steps

/-! ### Reads that are not lost -/

/-- The sessions that a driven session comes by. -/
inductive Visits : Session → Session → Prop
  /-- It starts where it is. -/
  | here {s : Session} : Visits s s
  /-- A step is done. -/
  | value {s t u : Session} {c : UInt8} : s.step = (.value c, t) → Visits t u → Visits s u
  /-- A step is to be taken again. -/
  | again {s t u : Session} : s.step = (.failed .unencodable, t) → Visits t u → Visits s u

/-- **No read is lost**: a step that is to be taken again has not completed any. -/
def KeepsReads (s : Session) : Prop :=
  ∀ t u, Visits s t → t.step = (.failed .unencodable, u) → u.reads = t.reads

section KeepsReads

variable {s t : Session} {c : UInt8}

theorem KeepsReads.value (h : s.KeepsReads) (hs : s.step = (.value c, t)) : t.KeepsReads :=
  fun u v hu => h u v (.value hs hu)

theorem KeepsReads.again (h : s.KeepsReads) (hs : s.step = (.failed .unencodable, t)) :
    t.KeepsReads :=
  fun u v hu => h u v (.again hs hu)

theorem keepsReads_of_finished (hs : s.step = (.finished, t)) : s.KeepsReads := by
  intro u v hu hv
  cases hu with
  | here => cases hs.symm.trans hv
  | value hs' => cases hs.symm.trans hs'
  | again hs' => cases hs.symm.trans hs'

theorem keepsReads_of_value (hs : s.step = (.value c, t)) (ht : t.KeepsReads) : s.KeepsReads := by
  intro u v hu hv
  cases hu with
  | here => cases hs.symm.trans hv
  | value hs' hu =>
    cases hs.symm.trans hs'
    exact ht u v hu hv
  | again hs' => cases hs.symm.trans hs'

theorem keepsReads_of_again (hs : s.step = (.failed .unencodable, t)) (hreads : t.reads = s.reads)
    (ht : t.KeepsReads) : s.KeepsReads := by
  intro u v hu hv
  cases hu with
  | here =>
    cases hs.symm.trans hv
    exact hreads
  | value hs' => cases hs.symm.trans hs'
  | again hs' hu =>
    cases hs.symm.trans hs'
    exact ht u v hu hv

/-- A single read that fails is not done. -/
theorem readInput_failed_reads {total left : Nat} {f : Failure} (hle : left ≤ 1)
    (h : readInput total left s = (some f, t)) : t.reads = s.reads := by
  rcases left with _ | left
  · cases h
  obtain rfl : left = 0 := by omega
  rcases hread : s.input.read with ⟨failure | ⟨_ | byte⟩, input⟩
  · rw [readInput_failed hread] at h
    cases h
    rfl
  · cases heof : s.eof with
    | keep =>
      rw [readInput_keep hread heof] at h
      cases h
    | zero =>
      rw [readInput_zero hread heof] at h
      cases h
    | error =>
      rw [readInput_end hread heof] at h
      cases h
      rfl
  · rw [readInput_byte hread] at h
    cases h

/-- **A program that folds no reads loses none.** -/
theorem keepsReads_of_once
    (h : ∀ i n, s.program.at? i = some (.perform .read n) → n ≤ 1) : s.KeepsReads := by
  intro t u ht
  induction ht with
  | @here s =>
    intro hu
    rcases step_failed hu with ⟨e, -, hf, -⟩ | ⟨-, i, hi, hexec⟩
    · cases hf
    obtain ⟨n, rfl, hread⟩ := execute_failed hexec
    have hle : n - s.readsDone ≤ 1 := Nat.le_trans (Nat.sub_le n s.readsDone) (h s.pc n hi)
    exact readInput_failed_reads (s := s.forgetReads) hle hread
  | value hs _ ih =>
    obtain ⟨hkeeps, -⟩ := step_keeps hs
    exact ih (hkeeps.program ▸ h)
  | again hs _ ih =>
    obtain ⟨hkeeps, -⟩ := step_failed_keeps hs
    exact ih (hkeeps.program ▸ h)

end KeepsReads

end Session

end Brainfuck
