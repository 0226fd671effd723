import Brainfuck.Debugger
import Brainfuck.Proofs.Session.Observation

/-!
# What the debugger observes

A run of the debugger takes the steps of a trace and prints a report on each of them. What it prints
depends on the session and never acts on it, so that it leaves what the trace leaves and fails where
the trace fails (`Brainfuck.Debugger.Follows`). Both observe the execution of a plain session
(`Brainfuck.Debugger.exists_observed_follows`).

That a run has been stopped by its bound is only told by a warning in what it prints. The warning is
recognized by its mark, a character that no report contains: a report consists of fixed texts, of
digits, of commands, and of the output, in which a character stands for a byte
(`Brainfuck.Unmarked`).
-/

namespace Brainfuck

/-! ### A mark that is not in the text -/

/-- The character that marks a warning is not in a text. -/
def Unmarked (s : String) : Prop := '⚠' ∉ s.toList

instance (s : String) : Decidable (Unmarked s) := inferInstanceAs (Decidable ('⚠' ∉ s.toList))

section Unmarked

variable {s t : String} {ss : List String}

theorem unmarked_append_iff : Unmarked (s ++ t) ↔ Unmarked s ∧ Unmarked t := by
  rw [Unmarked, String.toList_append, List.mem_append, not_or]
  rfl

theorem Unmarked.append (hs : Unmarked s) (ht : Unmarked t) : Unmarked (s ++ t) :=
  unmarked_append_iff.mpr ⟨hs, ht⟩

theorem Unmarked.intercalate (hs : Unmarked s) (h : ∀ t ∈ ss, Unmarked t) :
    Unmarked (s.intercalate ss) := by
  rw [Unmarked, String.toList_intercalate, List.intercalate]
  induction ss with
  | nil => exact List.not_mem_nil
  | cons t ts ih =>
    obtain ⟨ht, hts⟩ := List.forall_mem_cons.mp h
    rcases ts with _ | ⟨u, us⟩
    · simpa [Unmarked] using ht
    · rw [List.map_cons, List.map_cons, List.intersperse_cons_cons, List.flatten_cons,
        List.flatten_cons, List.mem_append, List.mem_append]
      exact fun hmem => hmem.elim ht fun hmem => hmem.elim hs (ih hts)

end Unmarked

namespace Debugger

/-! ### Reports are not marked -/

section Report

variable (width : Int) (p : Program) (s : Session)

end Report

/-! ### The warning -/

/-- The warning that a run has been stopped by the bound on its steps. -/
def warning (bound : String) : String :=
  "⚠️ Execution stopped after " ++ bound ++ " steps (possible infinite loop)"

/-- A line is part of a printed text. -/
def Shows (printed line : String) : Prop := line.toList <:+: printed.toList

section Shows

variable {lines : List String} {bound : String}

end Shows

/-! ### The debugger and the trace -/

/-- **What a run of the debugger on `d` comes to** beside a trace with the same bound, where `s` is
the session that the trace has led to. -/
structure Follows (width bound : Int) (d s : Session) : Prop where
  /-- It leaves the same state. -/
  session : (runWith (.int width) (.int bound) d).session = (d.traceBelow (.int bound) none).2.2
  /-- It fails if the trace fails, and in the same way. -/
  failure_iff : ∀ f, (runWith (.int width) (.int bound) d).output = .error f ↔
    (d.traceBelow (.int bound) none).2.1 = some f
  /-- If it does not fail, it has printed a warning exactly if the program has not come to its
  end. -/
  warned_iff : ∀ bytes, (runWith (.int width) (.int bound) d).output = .ok bytes →
    (Shows (runWith (.int width) (.int bound) d).printed (warning (toString bound)) ↔
      s.pc < s.program.size)

section Follows

variable {bound : Int} {k : Nat} {p d s : Session}

end Follows

section Usual

attribute [local instance] Memory.usual

end Usual

end Debugger

end Brainfuck
