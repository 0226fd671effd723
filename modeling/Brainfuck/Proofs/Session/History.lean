import Brainfuck.Proofs.Session.Operation
import Brainfuck.Proofs.Session.Run

/-!
# What every history keeps

There are many operations on a session, but what they do is made of a few parts: a step is
taken, a run is cut off, the execution is forgotten, a program is loaded, a cell is written, an
endpoint is exchanged. A property that each of these parts keeps
(`Brainfuck.Session.Kept`) is kept by every operation, wherever it stops, and so by every
history (`Brainfuck.Session.Kept.applyAll`).

The way the input is to end and the bound on the steps are such a property: they are given
once and for all when a session is made (`Brainfuck.Session.kept_options`).
-/

namespace Brainfuck

namespace Session

/-- **A property that is kept** by each of the parts that operations are made of. -/
structure Kept (P : Session → Prop) : Prop where
  /-- By a step, whatever comes of it. -/
  step : ∀ {s : Session}, P s → P s.step.2
  /-- By cutting a run off that has exceeded its bound. -/
  cutOff : ∀ {s : Session}, P s → s.exceedsCap = true → P s.cutOff
  /-- By forgetting the execution. -/
  reset : ∀ {s : Session}, P s → P s.reset
  /-- By loading another program. -/
  load : ∀ {s : Session}, P s → ∀ commands optimize, P (s.load commands optimize)
  /-- By writing to the tape. -/
  tape : ∀ {s : Session}, P s → ∀ {tape : Tape}, tape.size = s.tape.size → P { s with tape }
  /-- By exchanging the endpoints. -/
  endpoints : ∀ {s : Session}, P s → ∀ input output, P { s with input, output }

section Kept

variable {P : Session → Prop} {s : Session}

/-! ### Many steps -/

theorem Kept.continueRun (hP : Kept P) (h : P s) (fuel : Nat) : P (continueRun fuel s).2 := by
  induction fuel generalizing s with
  | zero => exact h
  | succ fuel ih =>
    have hstep := hP.step h
    rcases hs : s.step with ⟨c | _ | f, t⟩
    · rw [hs] at hstep
      rcases hexceeded : t.exceedsCap with _ | _
      · rw [continueRun_of_value hs hexceeded]
        exact ih hstep
      · rw [continueRun_of_exceeded hs hexceeded]
        exact hP.cutOff hstep hexceeded
    · rw [Session.continueRun, hs]
      rw [hs] at hstep
      exact hstep
    · rw [continueRun_of_failed hs]
      rw [hs] at hstep
      exact hstep

/-- A run keeps the property, wherever it stops. -/
theorem Kept.run (hP : Kept P) (h : P s) (fuel : Nat) (fromStart : Bool) :
    P (s.run fuel fromStart).2 := by
  rw [Session.run]
  split
  · exact h
  · cases fromStart with
    | true => exact hP.continueRun (hP.reset h) fuel
    | false => exact hP.continueRun h fuel

theorem Kept.observe {β : Type} (hP : Kept P) (h : P s) (note : TraceEntry → Session → β)
    (limit : Nat) : P (s.observe note limit).2.2 := by
  induction limit generalizing s with
  | zero => exact h
  | succ limit ih =>
    have hstep := hP.step h
    rw [Session.observe]
    split
    · exact h
    rcases hs : s.step with ⟨c | _ | f, t⟩
    · rw [hs] at hstep
      exact ih hstep
    · rw [hs] at hstep
      exact hstep
    · rw [hs] at hstep
      exact hstep

theorem Kept.observeFromStart {β : Type} (hP : Kept P) (h : P s)
    (note : TraceEntry → Session → β) (limit : Int) :
    P (s.observeFromStart note limit).2.2 := by
  rw [Session.observeFromStart]
  split
  · exact h
  · exact hP.observe (hP.reset h) note limit.toNat

theorem Kept.trace (hP : Kept P) (h : P s) (maxSteps : Int) (take : Option Nat) :
    P (s.trace maxSteps take).2.2 := by
  rcases take with _ | _ | n
  · exact hP.observeFromStart h _ _
  · exact h
  · exact hP.observeFromStart h _ _

/-- A trace keeps the property, wherever it is given up. -/
theorem Kept.traceBelow (hP : Kept P) (h : P s) (bound : Value) (take : Option Nat) :
    P (s.traceBelow bound take).2.2 := by
  rw [Session.traceBelow]
  split
  · exact hP.trace h _ _
  · split
    · exact h
    · exact hP.trace h 0 none

theorem Kept.runBelow (hP : Kept P) (h : P s) (width maxSteps : Int) (bound : String) :
    P (Debugger.runBelow width maxSteps bound s).session := by
  rw [Debugger.runBelow]
  split
  · exact h
  · have hobserve := hP.observeFromStart h (Debugger.stepReport width) maxSteps
    rcases hs : s.observeFromStart (Debugger.stepReport width) maxSteps with ⟨reports, f | f, t⟩
    · rw [hs] at hobserve
      exact hobserve
    · rw [hs] at hobserve
      exact hobserve

/-- A run of the debugger keeps the property. -/
theorem Kept.runWith (hP : Kept P) (h : P s) (width bound : Value) :
    P (Debugger.runWith width bound s).session := by
  rw [Debugger.runWith]
  split
  · exact hP.runBelow h 0 0 _
  · exact hP.reset h
  · split
    · exact hP.runBelow h _ _ _
    · simp only
      split
      · exact hP.reset h
      · exact hP.runBelow h _ 0 _

/-! ### Operations -/

/-- **Every operation keeps the property.** -/
theorem Kept.apply (hP : Kept P) (h : P s) (o : Operation) : P (s.apply o) := by
  cases o with
  | step => exact hP.step h
  | run fuel fromStart => exact hP.run h fuel fromStart
  | reset => exact hP.reset h
  | trace bound take => exact hP.traceBelow h bound take
  | debug width bound => exact hP.runWith h width bound
  | load source optimize =>
    rw [Session.apply, loadValue]
    split
    next commands _ => exact hP.load h commands optimize
    next => exact h
  | poke p value => exact hP.tape h (s.tape.size_set? p value)
  | setInput input =>
    rw [Session.apply, setInput]
    split
    next source _ => exact hP.endpoints h source s.output
    next => exact h
  | setOutput output =>
    rw [Session.apply, setOutput]
    split
    next sink _ => exact hP.endpoints h s.input sink
    next => exact h
  | feed data => exact hP.endpoints h (s.input.feed data).2 s.output
  | clearOutput => exact hP.endpoints h s.input s.output.clear?.2

/-- **Every history keeps the property.** -/
theorem Kept.applyAll (hP : Kept P) (h : P s) (history : List Operation) :
    P (s.applyAll history) := by
  induction history generalizing s with
  | nil => exact h
  | cons o rest ih => exact ih (hP.apply h o)

end Kept

/-! ### The options of a session -/

/-- **The end mode and the bound are never changed.** -/
theorem kept_options (mode : EndMode) (cap : Option Cap) :
    Kept fun s => s.eof = mode ∧ s.cap = cap where
  step {s} h := by
    rcases hs : s.step with ⟨c | _ | f, t⟩
    · obtain ⟨hkeeps, -⟩ := step_keeps hs
      exact ⟨hkeeps.eof.trans h.1, hkeeps.cap.trans h.2⟩
    · obtain ⟨rfl, -⟩ := step_finished hs
      exact h
    · obtain ⟨hkeeps, -⟩ := step_failed_keeps hs
      exact ⟨hkeeps.eof.trans h.1, hkeeps.cap.trans h.2⟩
  cutOff h _ := h
  reset h := h
  load {s} h commands optimize := by
    rw [load]
    split <;> exact h
  tape h _ _ := h
  endpoints h _ _ := h

end Session

end Brainfuck
