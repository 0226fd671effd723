import Brainfuck.Session.Step

/-!
# Runs of a session

A run takes steps until the program ends, a step fails, or the bound on the number of
steps is exceeded. The bound is looked at after each step, so a run of a session that
has already exceeded it still takes one step.

A program need not end, so a run has an amount of fuel, one unit for each step. Running
out of fuel is an ending of its own and more fuel never changes any other.
-/

namespace Brainfuck

/-- How a run ended. -/
inductive Ending where
  /-- The program ended, or the bound on the steps was exceeded. -/
  | finished
  /-- A step failed. -/
  | failed (failure : Failure)
  /-- The fuel was used up. -/
  | outOfFuel

namespace Session

/-- Whether more steps were taken than the bound allows. -/
def exceedsCap (s : Session) : Bool := s.cap.any (·.exceededBy s.iterations)

/-- Cut the run off. -/
def cutOff (s : Session) : Session := { s with halted := true, capped := true }

/-- Take steps from the present state on. -/
def continueRun : (fuel : Nat) → Session → Ending × Session
  | 0, s => (if s.available then .outOfFuel else .finished, s)
  | fuel + 1, s =>
    match s.step with
    | (.finished, s) => (.finished, s)
    | (.failed failure, s) => (.failed failure, s)
    | (.value _, s) => if s.exceedsCap then (.finished, s.cutOff) else continueRun fuel s

/-- Run the program, from the start or from the present state. -/
def run (fuel : Nat) (fromStart : Bool) (s : Session) : Ending × Session :=
  match s.error with
  | some e => (.failed (.compile e), s)
  | none => continueRun fuel (if fromStart then s.reset else s)

end Session

end Brainfuck
