import Brainfuck.Debugger
import Brainfuck.Proofs.Failure
import Brainfuck.Session.Run

/-!
# Operations on a session

Everything that can be done with a session or a debugger once it has been made. An operation
may fail, in the middle or at once, and the session can be used all the same afterwards; so an
operation takes a session to a session (`Brainfuck.Session.apply`), and a history is a list of
operations.

A run is given fuel. Whatever holds after each amount of it holds after the run, if the run
ends, and while it goes on. A trace is given up after so many entries, or not at all.
-/

namespace Brainfuck

/-- Something that can be done with a session. -/
inductive Operation where
  /-- Take one step. -/
  | step
  /-- Run, from the start or from the present state. -/
  | run (fuel : Nat) (fromStart : Bool)
  /-- Load another program text, which has not been checked. -/
  | load (source optimize : Value)
  /-- Forget the execution. -/
  | reset
  /-- Store a number at a position of the tape. -/
  | poke (p value : Int)
  /-- Take input from somewhere else. -/
  | setInput (input : Input)
  /-- Write output to somewhere else. -/
  | setOutput (output : Output)
  /-- Put more bytes into the source. -/
  | feed (data : Data)
  /-- Empty the sink. -/
  | clearOutput
  /-- Trace the program from its start, and give the trace up. -/
  | trace (bound : Value) (take : Option Nat)
  /-- Run the debugger. -/
  | debug (width bound : Value)

namespace Session

/-- The session after an operation, whether that has failed or not. -/
def apply (s : Session) : Operation → Session
  | .step => s.step.2
  | .run fuel fromStart => (s.run fuel fromStart).2
  | .load source optimize => (s.loadValue source optimize).2
  | .reset => s.reset
  | .poke p value => (s.poke p value).2
  | .setInput input => (s.setInput input).2
  | .setOutput output => (s.setOutput output).2
  | .feed data => (s.feed data).2
  | .clearOutput => s.clearOutput.2
  | .trace bound take => (s.traceBelow bound take).2.2
  | .debug width bound => (Debugger.runWith width bound s).session

/-- The session after a history. -/
def applyAll (s : Session) (history : List Operation) : Session := history.foldl apply s

/-- A program text that is not refused stands for commands, and these are loaded. -/
theorem exists_of_loadValue {s t : Session} {source optimize : Value}
    (h : s.loadValue source optimize = (none, t)) :
    ∃ commands, commandsOfValue source = .ok commands ∧ t = s.load commands optimize := by
  rw [loadValue] at h
  split at h
  next commands hcommands =>
    cases h
    exact ⟨commands, hcommands, rfl⟩
  · cases h

end Session

end Brainfuck
