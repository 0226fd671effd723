import Brainfuck.Proofs.Session.Run

/-!
# Sessions in step

Two sessions that differ in nothing that their instructions look at do the same, step by step.
What they may differ in is a relation between sessions, and it is in step
(`Brainfuck.Session.Lockstep`) if sessions so related are at the same instruction, have the
same byte in the current cell, and stay related by the bookkeeping of a step and of a
run. What remains to be shown of such a relation is that instructions keep it; steps and
runs do so because instructions do.
-/

namespace Brainfuck

namespace Session

/-- **A relation between sessions in step**: it leaves no difference that is seen outside of
instructions. -/
structure Lockstep (R : Session → Session → Prop) : Prop where
  /-- Both have a program, or they have the same error. -/
  error : ∀ {s u : Session}, R s u → u.error = s.error
  /-- Both are at the same instruction. -/
  at? : ∀ {s u : Session}, R s u → u.program.at? u.pc = s.program.at? s.pc
  /-- Both have the same byte in the current cell. -/
  cell : ∀ {s u : Session}, R s u → u.cell = s.cell
  /-- Both have exceeded their bound, or neither has. -/
  exceedsCap : ∀ {s u : Session}, R s u → u.exceedsCap = s.exceedsCap
  /-- Both go on to the next instruction. -/
  advance : ∀ {s u : Session}, R s u → R s.advance u.advance
  /-- Both are cut off. -/
  cutOff : ∀ {s u : Session}, R s u → R s.cutOff u.cutOff

/-- The session with another source. -/
def withInput (s : Session) (input : Source) : Session := { s with input }

/-- Two results that are the same, of sessions that are related. -/
def Alongside {α : Type} (R : Session → Session → Prop) (a b : α × Session) : Prop :=
  b.1 = a.1 ∧ R a.2 b.2

section Alongside

variable {α : Type} {R : Session → Session → Prop} {a b : α × Session} {x : α} {s : Session}

theorem Alongside.exists_right (h : Alongside R a b) (ha : a = (x, s)) :
    ∃ u, b = (x, u) ∧ R s u := by
  subst ha
  exact ⟨b.2, Prod.ext h.1 rfl, h.2⟩

theorem Alongside.exists_left (h : Alongside R a b) (hb : b = (x, s)) :
    ∃ u, a = (x, u) ∧ R u s := by
  subst hb
  exact ⟨a.2, Prod.ext h.1.symm rfl, h.2⟩

end Alongside

section Lockstep

variable {R : Session → Session → Prop} {s u : Session}

/-- Steps that execute the same instruction alongside are taken alongside. -/
theorem Lockstep.step_of_execute (hR : Lockstep R) {i : Instruction} (herr : s.error = none)
    (herr' : u.error = none) (hi : s.program.at? s.pc = some i)
    (hi' : u.program.at? u.pc = some i) (h : Alongside R (s.execute i) (u.execute i)) :
    Alongside R s.step u.step := by
  rcases hs : s.execute i with ⟨_ | f, t⟩
  · obtain ⟨v, hu, hrel⟩ := h.exists_right hs
    rw [Session.step_of_execute herr hi hs, Session.step_of_execute herr' hi' hu]
    exact ⟨congrArg StepResult.value (hR.cell (hR.advance hrel)), hR.advance hrel⟩
  · obtain ⟨v, hu, hrel⟩ := h.exists_right hs
    rw [step_of_execute_failed herr hi hs, step_of_execute_failed herr' hi' hu]
    exact ⟨rfl, hrel⟩

/-- **A step of both sessions**, if the instruction keeps them related. -/
theorem Lockstep.step (hR : Lockstep R) (h : R s u) (herr : s.error = none)
    (hexec : ∀ i, s.program.at? s.pc = some i → Alongside R (s.execute i) (u.execute i)) :
    Alongside R s.step u.step := by
  have herr' : u.error = none := (hR.error h).trans herr
  rcases hi : s.program.at? s.pc with _ | i
  · rw [step_of_none herr hi, step_of_none herr' ((hR.at? h).trans hi)]
    exact ⟨rfl, h⟩
  · exact hR.step_of_execute herr herr' hi ((hR.at? h).trans hi) (hexec i hi)

theorem Lockstep.available (hR : Lockstep R) (h : R s u) : u.available = s.available := by
  rw [Bool.eq_iff_iff, available_iff, available_iff, hR.error h, hR.at? h]

/-- Two runs are alongside each other if their first steps are and what comes after these is. -/
theorem Lockstep.continueRun_of_step (hR : Lockstep R) {fuel : Nat}
    (h : Alongside R s.step u.step)
    (hrest : ∀ {t v : Session}, R t v → continueRun (fuel + 1) s = continueRun fuel t →
      Alongside R (continueRun fuel t) (continueRun fuel v)) :
    Alongside R (continueRun (fuel + 1) s) (continueRun (fuel + 1) u) := by
  rcases hs : s.step with ⟨o, t⟩
  obtain ⟨v, hu, hrel⟩ := h.exists_right hs
  cases o with
  | finished =>
    rw [continueRun, hs, continueRun, hu]
    exact ⟨rfl, hrel⟩
  | failed f =>
    rw [continueRun_of_failed hs, continueRun_of_failed hu]
    exact ⟨rfl, hrel⟩
  | value c =>
    rcases hcap : t.exceedsCap with _ | _
    · have heq := continueRun_of_value hs hcap fuel
      rw [heq, continueRun_of_value hu ((hR.exceedsCap hrel).trans hcap)]
      exact hrest hrel heq
    · rw [continueRun_of_exceeded hs hcap,
        continueRun_of_exceeded hu ((hR.exceedsCap hrel).trans hcap)]
      exact ⟨rfl, hR.cutOff hrel⟩

/-- **A run of both sessions**, if every step keeps them related. -/
theorem Lockstep.continueRun (hR : Lockstep R)
    (hstep : ∀ {s u : Session}, R s u → Alongside R s.step u.step) (h : R s u) (fuel : Nat) :
    Alongside R (continueRun fuel s) (continueRun fuel u) := by
  induction fuel generalizing s u with
  | zero =>
    rw [Session.continueRun, Session.continueRun, hR.available h]
    exact ⟨rfl, h⟩
  | succ fuel ih => exact hR.continueRun_of_step (hstep h) fun hrel _ => ih hrel

end Lockstep

end Session

end Brainfuck
