import Brainfuck.Proofs.Session.Step

/-!
# Runs as walks

A run of a session is a walk, a number of steps none of which fails
(`Brainfuck.Session.Walk`), and then a reason to stop. Everything about runs is shown of walks,
which have neither fuel nor a bound on the steps in them, and carried over by
`Brainfuck.Session.continueRun_of_walk`: as long as the bound is not exceeded, a run with
fuel for a walk and some more gets through the walk and goes on with the rest.
-/

namespace Brainfuck

namespace Session

/-! ### Walks -/

/-- **A walk**: a number of steps in a row that are all done. -/
inductive Walk : Nat → Session → Session → Prop
  /-- No step. -/
  | refl {s : Session} : Walk 0 s s
  /-- One step more. -/
  | step {n : Nat} {s t u : Session} {c : UInt8} :
    s.step = (.value c, t) → Walk n t u → Walk (n + 1) s u

theorem Walk.trans {m n : Nat} {s t u : Session} (h : Walk m s t) (h' : Walk n t u) :
    Walk (m + n) s u := by
  induction h with
  | refl => rwa [Nat.zero_add]
  | @step m s t v c hstep _ ih =>
    have hn : m + 1 + n = m + n + 1 := by omega
    rw [hn]
    exact .step hstep (ih h')

/-- A walk keeps what its steps keep, and counts them. -/
theorem Walk.keeps {n : Nat} {s t : Session} (h : Walk n s t) :
    Keeps s t ∧ t.iterations = s.iterations + n := by
  induction h with
  | refl => exact ⟨⟨rfl, rfl, rfl, rfl, rfl, rfl⟩, rfl⟩
  | step hstep _ ih =>
    obtain ⟨hkeeps, hiter⟩ := step_keeps hstep
    exact ⟨hkeeps.trans ih.1, by rw [ih.2, hiter]; omega⟩

/-! ### Runs -/

theorem exceedsCap_of_none {s : Session} (h : s.cap = none) : s.exceedsCap = false := by
  rw [exceedsCap, h]
  rfl

/-- The bound is exceeded if there is one and more steps were taken. -/
theorem exceedsCap_iff {s : Session} :
    s.exceedsCap = true ↔
      ∃ c limit, s.cap = some c ∧ c.limit = some limit ∧ limit < s.iterations := by
  rw [exceedsCap, Option.any_eq_true]
  constructor
  · rintro ⟨c, hc, hexceeded⟩
    rw [Cap.exceededBy, Option.any_eq_true] at hexceeded
    obtain ⟨limit, hlimit, hlt⟩ := hexceeded
    exact ⟨c, limit, hc, hlimit, of_decide_eq_true hlt⟩
  · rintro ⟨c, limit, hc, hlimit, hlt⟩
    refine ⟨c, hc, ?_⟩
    rw [Cap.exceededBy, Option.any_eq_true]
    exact ⟨limit, hlimit, decide_eq_true hlt⟩

/-- A bound that is exceeded stays exceeded. -/
theorem Walk.exceedsCap {n : Nat} {s t : Session} (h : Walk n s t) (hs : s.exceedsCap = true) :
    t.exceedsCap = true := by
  obtain ⟨hkeeps, hiter⟩ := h.keeps
  obtain ⟨c, limit, hc, hlimit, hlt⟩ := exceedsCap_iff.mp hs
  exact exceedsCap_iff.mpr ⟨c, limit, hkeeps.cap.trans hc, hlimit, by omega⟩

/-- A run goes on after a step that does not exceed the bound. -/
theorem continueRun_of_value {s t : Session} {c : UInt8} (h : s.step = (.value c, t))
    (ht : t.exceedsCap = false) (fuel : Nat) :
    continueRun (fuel + 1) s = continueRun fuel t := by
  rw [continueRun, h]
  simp only [ht, Bool.false_eq_true, if_false]

/-- A run is cut off after a step that exceeds the bound. -/
theorem continueRun_of_exceeded {s t : Session} {c : UInt8} (h : s.step = (.value c, t))
    (ht : t.exceedsCap = true) (fuel : Nat) :
    continueRun (fuel + 1) s = (.finished, t.cutOff) := by
  rw [continueRun, h]
  simp only [ht, if_true]

/-- **A run gets through a walk** that does not exceed the bound on the steps. -/
theorem continueRun_of_walk {n : Nat} {s t : Session} (h : Walk n s t)
    (hcap : t.exceedsCap = false) (fuel : Nat) :
    continueRun (n + fuel) s = continueRun fuel t := by
  induction h with
  | refl => rw [Nat.zero_add]
  | @step n s t u c hstep hwalk ih =>
    have hn : n + 1 + fuel = n + fuel + 1 := by omega
    -- the bound is not exceeded after the first step, or else it would be at the end
    have ht : t.exceedsCap = false := by
      rcases ht : t.exceedsCap with _ | _
      · rfl
      · rw [hwalk.exceedsCap ht] at hcap
        cases hcap
    rw [hn, continueRun_of_value hstep ht]
    exact ih hcap

/-- There is no step to take if there is no next instruction. -/
theorem step_of_unavailable {s : Session} (hs : s.available = false) (herr : s.error = none) :
    s.step = (.finished, s) := by
  rcases hi : s.program.at? s.pc with _ | i
  · exact step_of_none herr hi
  · rw [available_iff.mpr ⟨herr, i, hi⟩] at hs
    cases hs

theorem continueRun_of_unavailable {s : Session} (hs : s.available = false)
    (herr : s.error = none) (fuel : Nat) : continueRun fuel s = (.finished, s) := by
  cases fuel with
  | zero => simp only [continueRun, hs, Bool.false_eq_true, if_false]
  | succ fuel => rw [continueRun, step_of_unavailable hs herr]

theorem continueRun_of_failed {s t : Session} {f : Failure} (h : s.step = (.failed f, t))
    (fuel : Nat) : continueRun (fuel + 1) s = (.failed f, t) := by
  rw [continueRun, h]

/-- **A run fails because one of its steps does.** -/
theorem exists_walk_of_failed {s : Session} {f : Failure} {fuel : Nat}
    (h : (continueRun fuel s).1 = .failed f) : ∃ n t, Walk n s t ∧ t.step.1 = .failed f := by
  induction fuel generalizing s with
  | zero =>
    rw [continueRun] at h
    split at h <;> cases h
  | succ fuel ih =>
    rcases hs : s.step with ⟨c | _ | g, t⟩
    · rcases hexceeded : t.exceedsCap with _ | _
      · rw [continueRun_of_value hs hexceeded] at h
        obtain ⟨n, u, hwalk, hu⟩ := ih h
        exact ⟨n + 1, u, .step hs hwalk, hu⟩
      · rw [continueRun_of_exceeded hs hexceeded] at h
        cases h
    · rw [continueRun, hs] at h
      cases h
    · rw [continueRun_of_failed hs] at h
      cases h
      exact ⟨0, s, .refl, congrArg Prod.fst hs⟩

theorem continueRun_zero {s : Session} (hs : s.available = true) :
    continueRun 0 s = (.outOfFuel, s) := by
  rw [continueRun, hs]
  rfl

/-- A run of a session that has a program takes steps from the start or from the present state. -/
theorem run_true_of_error {s : Session} (herr : s.error = none) (fuel : Nat) :
    s.run fuel true = continueRun fuel s.reset := by
  simp only [run, herr, if_true]

theorem run_false_of_error {s : Session} (herr : s.error = none) (fuel : Nat) :
    s.run fuel false = continueRun fuel s := by
  simp only [run, herr, Bool.false_eq_true, if_false]

theorem run_of_error {s : Session} {e : CompileError} (herr : s.error = some e) (fuel : Nat)
    (fromStart : Bool) : s.run fuel fromStart = (.failed (.compile e), s) := by
  simp only [run, herr]

/-- **A run of a session that has a program fails only at its input.** -/
theorem run_failed {s : Session} {f : Failure} {fuel : Nat} (herr : s.error = none)
    (h : (s.run fuel true).1 = .failed f) : (∃ pc, f = .endOfInput pc) ∨ f = .unencodable := by
  rw [run_true_of_error herr] at h
  obtain ⟨n, t, hwalk, ht⟩ := exists_walk_of_failed h
  rcases failure_of_step ht with ⟨e, he, -⟩ | hf | hf
  · rw [hwalk.keeps.1.error] at he
    cases herr.symm.trans he
  · exact Or.inl ⟨_, hf⟩
  · exact Or.inr hf

/-- **The end of a run**: with enough fuel, a run of the session ends so. -/
def Ends (s : Session) (e : Ending) (t : Session) : Prop :=
  e ≠ .outOfFuel ∧ ∃ fuel, s.run fuel true = (e, t)

/-- **More fuel changes no ending** but that for lack of it. -/
theorem continueRun_add {fuel : Nat} {s t : Session} {e : Ending} (herr : s.error = none)
    (h : continueRun fuel s = (e, t)) (he : e ≠ .outOfFuel) (more : Nat) :
    continueRun (fuel + more) s = (e, t) := by
  induction fuel generalizing s with
  | zero =>
    rcases havail : s.available with _ | _
    · rw [continueRun_of_unavailable havail herr] at h ⊢
      exact h
    · rw [continueRun_zero havail, Prod.mk.injEq] at h
      exact absurd h.1.symm he
  | succ fuel ih =>
    have hsucc : fuel + 1 + more = fuel + more + 1 := by omega
    rw [hsucc]
    rcases hstep : s.step with ⟨c | _ | f, u⟩
    · have hu : u.error = none := (step_keeps hstep).1.error.trans herr
      rcases hcap : u.exceedsCap with _ | _
      · rw [continueRun_of_value hstep hcap] at h ⊢
        exact ih hu h
      · rw [continueRun_of_exceeded hstep hcap] at h ⊢
        exact h
    · rw [continueRun, hstep] at h ⊢
      exact h
    · rw [continueRun_of_failed hstep] at h ⊢
      exact h

/-- **A run has one end.** -/
theorem Ends.unique {s t t' : Session} {e e' : Ending} (h : s.Ends e t) (h' : s.Ends e' t') :
    e = e' ∧ t = t' := by
  obtain ⟨he, fuel, hrun⟩ := h
  obtain ⟨he', fuel', hrun'⟩ := h'
  rw [run] at hrun hrun'
  rcases herr : s.error with _ | err
  · rw [herr] at hrun hrun'
    have hmore := continueRun_add (s := s.reset) herr hrun he fuel'
    have hmore' := continueRun_add (s := s.reset) herr hrun' he' fuel
    rw [Nat.add_comm, hmore] at hmore'
    exact Prod.mk.inj hmore'
  · rw [herr] at hrun hrun'
    exact Prod.mk.inj (hrun.symm.trans hrun')

/-! ### Fresh sessions -/

/-- A session that has just been made and that holds a program. -/
def made (length : TapeLength) (cap : Option Cap) (input : Source) (output : Sink) (mode : EndMode)
    (program : Program) (optimized : Value) : Session :=
  { idle (.blank length) cap input output mode with program, optimized }

/-- Loading commands that compile into an idle session makes one that holds their program. -/
theorem load_idle {commands : List Command} {optimize : Value} {p : Program}
    (h : Program.compile commands optimize.isTruthy = .ok p) (length : TapeLength)
    (cap : Option Cap) (input : Source) (output : Sink) (mode : EndMode) :
    (idle (.blank length) cap input output mode).load commands optimize =
      made length cap input output mode p optimize := by
  simp only [load, h, reset, idle, made, Tape.reset_blank]

/-- A session that has just been made is at its start. -/
theorem reset_made (length : TapeLength) (cap : Option Cap) (input : Source) (output : Sink)
    (mode : EndMode) (p : Program) (optimized : Value) :
    (made length cap input output mode p optimized).reset =
      made length cap input output mode p optimized := by
  simp only [reset, made, idle, Tape.reset_blank]

/-- A session that has just been made, with its input in memory. -/
def fresh (commands : List Command) (optimize : Bool) (length : TapeLength) (cap : Option Cap)
    (mode : EndMode) (input : List UInt8) (output : Sink) : Session :=
  (idle (.blank length) cap (.buffer (.ofList input)) output mode).load commands (.bool optimize)

section Fresh

variable {commands : List Command} {optimize : Bool} {length : TapeLength} {cap : Option Cap}
  {mode : EndMode} {input : List UInt8} {output : Sink} {p : Program}

/-- A fresh session whose commands compile. -/
theorem fresh_of_compile (h : Program.compile commands optimize = .ok p) :
    fresh commands optimize length cap mode input output =
      made length cap (.buffer (.ofList input)) output mode p (.bool optimize) := by
  have hc : Program.compile commands (Value.bool optimize).isTruthy = .ok p := h
  exact load_idle hc length cap (.buffer (.ofList input)) output mode

/-- A run from the start of a fresh session goes on from where it is. -/
theorem run_fresh (h : Program.compile commands optimize = .ok p) (fuel : Nat) :
    (fresh commands optimize length cap mode input output).run fuel true =
      continueRun fuel (fresh commands optimize length cap mode input output) := by
  rw [fresh_of_compile h, run_true_of_error rfl, reset_made]

end Fresh

end Session

end Brainfuck
