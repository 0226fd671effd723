import Mathlib
import Brainfuck.Proofs.Session.Invariant

/-!
# Where the bound cuts a run off

A run with a bound on its steps is cut off at one place, which can be told in advance from
the number of steps taken so far: it is given an allowance of further steps
(`Brainfuck.Session.allowance`), as many as are missing to one more than the bound, and always
at least one because the bound is looked at after a step and not before it. If that
many steps can be taken the run takes them and is cut off, even where the last of them
was the last one of the program; and otherwise the bound plays no part.

How many steps can be taken is a number or infinite
(`Brainfuck.Session.possibleSteps`). All walks from a session go the same way
(`Brainfuck.Session.Walk.rest`), so that it is the length of the longest one.
-/

namespace Brainfuck

namespace Session

/-! ### All walks go the same way -/

/-- **A longer walk starts with every shorter one.** -/
theorem Walk.rest {m n : Nat} {s t u : Session} (h : Walk m s t) (h' : Walk (m + n) s u) :
    Walk n t u := by
  induction h with
  | refl => rwa [Nat.zero_add] at h'
  | @step m s t v c hstep _ ih =>
    have hn : m + 1 + n = m + n + 1 := by omega
    rw [hn] at h'
    cases h' with
    | step hstep' hwalk' =>
      rw [hstep] at hstep'
      cases hstep'
      exact ih hwalk'

/-- A walk of a given length leads to one place. -/
theorem Walk.unique {n : Nat} {s t u : Session} (h : Walk n s t) (h' : Walk n s u) : t = u := by
  have hrest : Walk 0 t u := h.rest h'
  cases hrest
  rfl

/-- The last step of a walk. -/
theorem Walk.exists_last {n : Nat} {s u : Session} (h : Walk (n + 1) s u) :
    ∃ t c, Walk n s t ∧ t.step = (.value c, u) := by
  induction n generalizing s with
  | zero =>
    cases h with
    | @step _ _ t _ c hstep hwalk =>
      cases hwalk
      exact ⟨s, c, .refl, hstep⟩
  | succ n ih =>
    cases h with
    | step hstep hwalk =>
      obtain ⟨t, c, hwalk', hlast⟩ := ih hwalk
      exact ⟨t, c, .step hstep hwalk', hlast⟩

/-- No step can be taken from a session. -/
def Stuck (s : Session) : Prop := ∀ c t, s.step ≠ (.value c, t)

/-- No walk is longer than one that has got stuck. -/
theorem Walk.le_of_stuck {m n : Nat} {s t u : Session} (h : Walk m s t) (ht : t.Stuck)
    (h' : Walk n s u) : n ≤ m := by
  by_contra hlt
  obtain ⟨k, rfl⟩ := Nat.exists_eq_add_of_lt (Nat.lt_of_not_le hlt)
  have hrest : Walk (k + 1) t u := h.rest h'
  cases hrest with
  | step hstep _ => exact ht _ _ hstep

/-- As many steps as wanted can be taken, or the walk gets stuck before. -/
theorem exists_walk (s : Session) (n : Nat) :
    ∃ k t, Walk k s t ∧ k ≤ n ∧ (k < n → t.Stuck) := by
  induction n generalizing s with
  | zero => exact ⟨0, s, .refl, Nat.le_refl 0, fun h => absurd h (Nat.lt_irrefl 0)⟩
  | succ n ih =>
    rcases hs : s.step with ⟨o, t⟩
    cases o with
    | value c =>
      obtain ⟨k, u, hwalk, hk, hstuck⟩ := ih t
      exact ⟨k + 1, u, .step hs hwalk, Nat.succ_le_succ hk,
        fun h => hstuck (Nat.lt_of_succ_lt_succ h)⟩
    | finished | failed =>
      refine ⟨0, s, .refl, Nat.zero_le _, fun _ c u hu => ?_⟩
      rw [hs] at hu
      cases hu

/-! ### How many steps can be taken -/

/-- **The number of steps that can be taken** in a row from a session, if it is finite. -/
noncomputable def possibleSteps (s : Session) : ℕ∞ :=
  ⨆ (n : ℕ) (_ : ∃ t, Walk n s t), (n : ℕ∞)

section PossibleSteps

variable {s t : Session} {n : Nat}

theorem Walk.le_possibleSteps (h : Walk n s t) : (n : ℕ∞) ≤ s.possibleSteps :=
  le_iSup₂_of_le n ⟨t, h⟩ le_rfl

/-- A walk that has got stuck has taken all steps that were possible. -/
theorem Walk.possibleSteps_eq (h : Walk n s t) (ht : t.Stuck) : s.possibleSteps = n := by
  refine le_antisymm (iSup₂_le fun m hm => ?_) h.le_possibleSteps
  obtain ⟨u, hu⟩ := hm
  exact Nat.cast_le.mpr (h.le_of_stuck ht hu)

end PossibleSteps

/-! ### The allowance of a run -/

/-- **The number of steps that a bound leaves** to a run from the present state on. -/
def allowance (limit : Nat) (s : Session) : Nat := max 1 (limit + 1 - s.iterations)

section Allowance

variable {limit k : Nat} {c : Cap} {s t : Session}

/-- At the start the allowance is one step more than the bound. -/
theorem allowance_of_start (h : s.iterations = 0) : s.allowance limit = limit + 1 := by
  rw [allowance, h]
  omega

/-- Before the allowance is used up, a walk is part of the run. -/
theorem continueRun_of_walk_lt (hcap : s.cap = some c) (hlimit : c.limit = some limit)
    (h : Walk k s t) (hlt : k < s.allowance limit) (fuel : Nat) :
    continueRun (k + fuel) s = continueRun fuel t := by
  rcases k with _ | k
  · cases h
    rw [Nat.zero_add]
  refine continueRun_of_walk h ?_ fuel
  obtain ⟨hkeeps, hiter⟩ := h.keeps
  rw [Bool.eq_false_iff]
  intro hexceeded
  obtain ⟨c', limit', hcap', hlimit', hlt'⟩ := exceedsCap_iff.mp hexceeded
  -- it is the bound of the session, and at most `limit` steps have been taken
  obtain rfl : c = c' := Option.some.inj ((hkeeps.cap.trans hcap).symm.trans hcap')
  obtain rfl : limit = limit' := Option.some.inj (hlimit.symm.trans hlimit')
  rw [allowance] at hlt
  omega

/-- **With its allowance used up, the run is cut off.** -/
theorem continueRun_of_walk_eq (hcap : s.cap = some c) (hlimit : c.limit = some limit)
    (h : Walk (s.allowance limit) s t) (fuel : Nat) :
    continueRun (s.allowance limit + fuel) s = (.finished, t.cutOff) := by
  have hallowance : s.allowance limit = max 1 (limit + 1 - s.iterations) := rfl
  obtain ⟨n, hn⟩ := Nat.exists_eq_add_of_le' (show 1 ≤ s.allowance limit by omega)
  rw [hn] at h ⊢
  obtain ⟨u, v, hwalk, hlast⟩ := h.exists_last
  obtain ⟨hkeeps, hiter⟩ := h.keeps
  have hexceeded : t.exceedsCap = true :=
    exceedsCap_iff.mpr ⟨c, limit, hkeeps.cap.trans hcap, hlimit, by omega⟩
  have hfuel : n + 1 + fuel = n + (fuel + 1) := by omega
  rw [hfuel, continueRun_of_walk_lt hcap hlimit hwalk (by omega),
    continueRun_of_exceeded hlast hexceeded]

end Allowance

/-! ### What a bounded run comes to -/

/-- **What a run from the present state on comes to** if the bound leaves it an allowance: the
session `t` is where the steps that it takes have led. -/
structure Continues (allowance : Nat) (s t : Session) (e : Ending) (u : Session) : Prop where
  /-- It is cut off if all the steps of its allowance can be taken. -/
  cut : (allowance : ℕ∞) ≤ s.possibleSteps → e = .finished ∧ u = t.cutOff
  /-- If not, it comes to what the next step comes to, which finds no instruction or fails. -/
  uncut : s.possibleSteps < allowance →
    t.step = (.finished, t) ∧ e = .finished ∧ u = t ∨
      ∃ f, t.step = (.failed f, u) ∧ e = .failed f
  /-- It misses its input exactly if the next step does and the allowance is not used up. -/
  endOfInput_iff : (∃ pc, e = .failed (.endOfInput pc)) ↔
    s.possibleSteps < allowance ∧ ∃ pc, t.step.1 = .failed (.endOfInput pc)
  /-- It shows that it was cut off. -/
  flags_of_cut : (allowance : ℕ∞) ≤ s.possibleSteps → u.capped = true ∧ u.halted = true
  /-- If it was not, it shows what was shown before. -/
  capped_of_uncut : s.possibleSteps < allowance → u.capped = s.capped

section Continues

variable {limit k : Nat} {c : Cap} {s t u : Session} {e : Ending}

/-- The run that is cut off. -/
theorem continues_cut (hle : (k : ℕ∞) ≤ s.possibleSteps) :
    Continues k s t .finished t.cutOff where
  cut _ := ⟨rfl, rfl⟩
  uncut hlt := absurd hle (not_le_of_gt hlt)
  endOfInput_iff := by
    constructor
    · rintro ⟨pc, hpc⟩
      cases hpc
    · rintro ⟨hlt, -⟩
      exact absurd hle (not_le_of_gt hlt)
  flags_of_cut _ := ⟨rfl, rfl⟩
  capped_of_uncut hlt := absurd hle (not_le_of_gt hlt)

/-- The run that comes to the end of the program. -/
theorem continues_finished (hlt : s.possibleSteps < k) (hcapped : t.capped = s.capped)
    (hstep : t.step = (.finished, t)) : Continues k s t .finished t where
  cut hle := absurd hle (not_le_of_gt hlt)
  uncut _ := Or.inl ⟨hstep, rfl, rfl⟩
  endOfInput_iff := by
    rw [hstep]
    constructor
    · rintro ⟨pc, hpc⟩
      cases hpc
    · rintro ⟨-, pc, hpc⟩
      cases hpc
  flags_of_cut hle := absurd hle (not_le_of_gt hlt)
  capped_of_uncut _ := hcapped

/-- The run that comes to a step that fails. -/
theorem continues_failed (hlt : s.possibleSteps < k) (hcapped : t.capped = s.capped)
    {f : Failure} (hstep : t.step = (.failed f, u)) : Continues k s t (.failed f) u where
  cut hle := absurd hle (not_le_of_gt hlt)
  uncut _ := Or.inr ⟨f, hstep, rfl⟩
  endOfInput_iff := by
    rw [hstep]
    constructor
    · rintro ⟨pc, hpc⟩
      cases hpc
      exact ⟨hlt, pc, rfl⟩
    · rintro ⟨-, pc, hpc⟩
      cases hpc
      exact ⟨pc, rfl⟩
  flags_of_cut hle := absurd hle (not_le_of_gt hlt)
  capped_of_uncut _ := by
    obtain ⟨hkeeps, -⟩ := step_failed_keeps hstep
    exact hkeeps.capped.trans hcapped

/-- **A bounded run takes the steps that are possible**, but no more than its allowance. -/
theorem exists_continues (hcap : s.cap = some c) (hlimit : c.limit = some limit) :
    ∃ (k : ℕ) (t : Session), (k : ℕ∞) = min s.possibleSteps (s.allowance limit) ∧
      Walk k s t ∧ ∀ fuel, s.allowance limit ≤ fuel →
        Continues (s.allowance limit) s t (continueRun fuel s).1 (continueRun fuel s).2 := by
  obtain ⟨k, t, hwalk, hk, hstuck⟩ := exists_walk s (s.allowance limit)
  rcases Nat.eq_or_lt_of_le hk with heq | hlt
  · rw [heq] at hwalk
    have hle := hwalk.le_possibleSteps
    refine ⟨s.allowance limit, t, (min_eq_right hle).symm, hwalk, fun fuel hfuel => ?_⟩
    obtain ⟨left, rfl⟩ := Nat.exists_eq_add_of_le hfuel
    rw [continueRun_of_walk_eq hcap hlimit hwalk]
    exact continues_cut hle
  · have hsteps := hwalk.possibleSteps_eq (hstuck hlt)
    have hlt' : s.possibleSteps < s.allowance limit := by
      rw [hsteps]
      exact Nat.cast_lt.mpr hlt
    have hcapped : t.capped = s.capped := hwalk.keeps.1.capped
    refine ⟨k, t, ?_, hwalk, fun fuel hfuel => ?_⟩
    · rw [hsteps] at hlt' ⊢
      exact (min_eq_left hlt'.le).symm
    -- what is left of the fuel is enough to find out why no further step can be taken
    obtain ⟨left, rfl⟩ := Nat.exists_eq_add_of_lt (Nat.lt_of_lt_of_le hlt hfuel)
    have hleft : k + left + 1 = k + (left + 1) := by omega
    rw [hleft, continueRun_of_walk_lt hcap hlimit hwalk hlt]
    rcases ht : t.step with ⟨v | _ | f, u⟩
    · exact absurd ht (hstuck hlt v u)
    · obtain ⟨rfl, -⟩ := step_finished ht
      rw [continueRun, ht]
      exact continues_finished hlt' hcapped ht
    · rw [continueRun_of_failed ht]
      exact continues_failed hlt' hcapped ht

/-- A run that misses no fuel has an ending of its own. -/
theorem Continues.ne_outOfFuel (h : Continues k s t e u) : e ≠ .outOfFuel := by
  rintro rfl
  rcases le_or_gt (k : ℕ∞) s.possibleSteps with hle | hlt
  · cases (h.cut hle).1
  · rcases h.uncut hlt with ⟨-, hfinished, -⟩ | ⟨f, -, hfailed⟩
    · cases hfinished
    · cases hfailed

/-- Nothing is counted but the steps of the walk. -/
theorem Continues.iterations (h : Continues k s t e u) : u.iterations = t.iterations := by
  rcases le_or_gt (k : ℕ∞) s.possibleSteps with hle | hlt
  · rw [(h.cut hle).2]
    rfl
  · rcases h.uncut hlt with ⟨-, -, rfl⟩ | ⟨f, hfailed, -⟩
    · rfl
    · obtain ⟨-, -, -, hiter, -⟩ := step_failed_keeps hfailed
      exact hiter

end Continues

/-! ### Sessions with a bound -/

/-- **How a bound acts** on the runs of a session. -/
structure BoundedBy (limit : Nat) (s : Session) : Prop where
  /-- A run from the present state on takes the steps that are possible, up to its allowance. -/
  continues : ∃ (k : ℕ) (t : Session), (k : ℕ∞) = min s.possibleSteps (s.allowance limit) ∧
    Walk k s t ∧ ∀ fuel, s.allowance limit ≤ fuel →
      Continues (s.allowance limit) s t (s.run fuel false).1 (s.run fuel false).2
  /-- A run from the start always ends, and has taken at most one step more than the bound. -/
  fromStart : ∀ fuel, limit + 1 ≤ fuel →
    (s.run fuel true).1 ≠ .outOfFuel ∧ (s.run fuel true).2.iterations ≤ limit + 1
  /-- A run that was cut off and can go on is cut off again after one step. -/
  again : s.capped = true → ∀ c t, s.step = (.value c, t) → ∀ fuel, 1 ≤ fuel →
    s.run fuel false = (.finished, t.cutOff)

section BoundedBy

variable {limit length : Nat} {c : Cap} {s : Session}

/-- **Every well-formed session with a program obeys its bound.** -/
theorem WellFormed.boundedBy (h : s.WellFormed length) (herr : s.error = none)
    (hcap : s.cap = some c) (hlimit : c.limit = some limit) : s.BoundedBy limit where
  continues := by
    obtain ⟨k, t, hk, hwalk, hrun⟩ := exists_continues hcap hlimit
    refine ⟨k, t, hk, hwalk, fun fuel hfuel => ?_⟩
    rw [run_false_of_error herr]
    exact hrun fuel hfuel
  fromStart := by
    intro fuel hfuel
    obtain ⟨k, t, hk, hwalk, hrun⟩ := exists_continues (s := s.reset) hcap hlimit
    rw [allowance_of_start rfl] at hk hrun
    have hle : k ≤ limit + 1 := by
      have hmin : (k : ℕ∞) ≤ ((limit + 1 : ℕ) : ℕ∞) := by
        rw [hk]
        exact min_le_right _ _
      exact Nat.cast_le.mp hmin
    have hcontinues := hrun fuel hfuel
    rw [run_true_of_error herr]
    refine ⟨hcontinues.ne_outOfFuel, ?_⟩
    have hiter : t.iterations = 0 + k := hwalk.keeps.2
    rw [hcontinues.iterations]
    omega
  again := by
    intro hcapped v t hstep fuel hfuel
    obtain ⟨c', limit', hcap', hlimit', hlt⟩ := h.capped hcapped
    obtain rfl : c = c' := Option.some.inj (hcap.symm.trans hcap')
    obtain rfl : limit = limit' := Option.some.inj (hlimit.symm.trans hlimit')
    -- a run was only cut off because more steps were taken than the bound allows
    have hallowance : s.allowance limit = 1 := by
      rw [allowance]
      omega
    have hwalk : Walk (s.allowance limit) s t := by
      rw [hallowance]
      exact .step hstep .refl
    obtain ⟨left, rfl⟩ := Nat.exists_eq_add_of_le hfuel
    rw [run_false_of_error herr, ← hallowance]
    exact continueRun_of_walk_eq hcap hlimit hwalk left

end BoundedBy

/-- **The bound cuts a run off at exactly one place.** Take any history of a session that was made
with a positive whole number as the bound on its steps, after which the session has a program. -/
theorem boundedBy_history [Memory] {a : Arguments} {s : Session} (h : ofArguments a = .ok s)
    {limit : Nat} (hpos : 1 ≤ limit) (hlimit : a.maxIterationsValue = .int limit)
    (history : List Operation) (herr : (s.applyAll history).error = none) :
    (s.applyAll history).BoundedBy limit := by
  obtain ⟨length, cap, mode, input, output, hmeans, hs, -, hcap⟩ := exists_means_applyAll h history
  have hvalue := hmeans.cap
  rw [hlimit, Cap.ofValue_natCast hpos] at hvalue
  cases hvalue
  exact hs.boundedBy herr hcap rfl

section Usual

attribute [local instance] Memory.usual

/-- A loop without end, cut off after four steps, continued once and given another cell. -/
theorem boundedBy_history_endless :
    ofArguments
        { source := some (.text "+[]"), tapeLength := some (.int 2), optimize := none,
          maxIterations := some (.int 3), input := some (.source (.buffer (.ofList []))),
          output := some (.sink (.buffer #[])), eof := none, unknown := [] } =
      .ok (fresh (Command.ofText "+[]") false ⟨2, Nat.two_pos⟩ (some ⟨.int 3, some 3⟩) .keep []
        (.buffer #[])) ∧
    1 ≤ 3 ∧
    ((fresh (Command.ofText "+[]") false ⟨2, Nat.two_pos⟩ (some ⟨.int 3, some 3⟩) .keep []
      (.buffer #[])).applyAll [.run 4 true, .run 1 false, .poke 0 7]).error = none ∧
    ((fresh (Command.ofText "+[]") false ⟨2, Nat.two_pos⟩ (some ⟨.int 3, some 3⟩) .keep []
      (.buffer #[])).applyAll [.run 4 true, .run 1 false, .poke 0 7]).BoundedBy 3 := by
  have h : ofArguments
      { source := some (.text "+[]"), tapeLength := some (.int 2), optimize := none,
        maxIterations := some (.int 3), input := some (.source (.buffer (.ofList []))),
        output := some (.sink (.buffer #[])), eof := none, unknown := [] } =
      .ok (fresh (Command.ofText "+[]") false ⟨2, Nat.two_pos⟩ (some ⟨.int 3, some 3⟩) .keep []
        (.buffer #[])) :=
    Arguments.Means.ofArguments_fresh ⟨rfl, EndMode.ofValue_name .keep, rfl, rfl, rfl, rfl, rfl⟩
      rfl rfl
  have hpos : 1 ≤ 3 := by decide
  have herr : ((fresh (Command.ofText "+[]") false ⟨2, Nat.two_pos⟩ (some ⟨.int 3, some 3⟩) .keep
      [] (.buffer #[])).applyAll [.run 4 true, .run 1 false, .poke 0 7]).error = none := by
    decide
  exact ⟨h, hpos, herr, boundedBy_history h hpos rfl _ herr⟩

end Usual

end Session

end Brainfuck
