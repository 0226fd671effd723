import Brainfuck.Session.Step

/-!
# Traces

A trace records each step of a run from the start. It pays no heed to the bound on the
number of steps that the session may have: a trace has a bound of its own, which is on
the number of entries.
-/

namespace Brainfuck

/-- One step of a trace. -/
structure TraceEntry where
  /-- The number of the step, from one on. -/
  step : Nat
  /-- The position of the instruction. -/
  pc : Nat
  /-- Its command. -/
  command : Command
  /-- The number of commands it stands for. -/
  times : Nat
  /-- The position of the current cell after the step. -/
  pointer : Nat
  /-- The byte in the current cell after the step. -/
  cell : UInt8

/-- How many whole numbers from zero on are below a value, if it can be compared with them. -/
def countBelow? : Value → Option Nat
  | .int n => some n.toNat
  | .bool b => some (if b then 1 else 0)
  | .float x =>
    match Decimal.Reading.ofFloat x with
    | .finite d => some d.ceiling.toNat
    | .infinite negative => some (if negative then 0 else unbounded)
    | .zero _ | .notANumber => some 0
  | _ => none
where
  /-- More steps than anybody will wait for. -/
  unbounded : Nat := Nat.pow 2 63

namespace Session

/-- Take up to `limit` steps from the present state on, and note something about each step: its
entry and the session after it are there to be looked at. -/
def observe {β : Type} (note : TraceEntry → Session → β) :
    (limit : Nat) → Session → List β × Option Failure × Session
  | 0, s => ([], none, s)
  | limit + 1, s =>
    match s.program.at? s.pc with
    | none => ([], none, s)
    | some instruction =>
      let pc := s.pc
      match s.step with
      | (.failed failure, s) => ([], some failure, s)
      | (.finished, s) => ([], none, s)
      | (.value cell, s) =>
        let entry :=
          ⟨s.iterations, pc, instruction.command, instruction.times, s.pointer, cell⟩
        let noted := note entry s
        let (rest, failure, s) := observe note limit s
        (noted :: rest, failure, s)

/-- Run from the start and note something about each step, up to `limit` of them. A session
without a program reports its error and is left as it is. -/
def observeFromStart {β : Type} (note : TraceEntry → Session → β) (limit : Int) (s : Session) :
    List β × Option Failure × Session :=
  match s.error with
  | some e => ([], some (.compile e), s)
  | none => observe note limit.toNat s.reset

/-- The entries of the first steps from the start: up to `maxSteps`, of which the caller takes
only the first `take`. A caller that takes none does not even start. -/
def trace (maxSteps : Int) (take : Option Nat) (s : Session) :
    List TraceEntry × Option Failure × Session :=
  match take with
  | some 0 => ([], none, s)
  | some n => s.observeFromStart (fun entry _ => entry) (min maxSteps n)
  | none => s.observeFromStart (fun entry _ => entry) maxSteps

/-! ### Unchecked bounds -/

/-- A trace with a bound that has not been checked. One that is no number is only noticed when
there is a step to take. -/
def traceBelow (bound : Value) (take : Option Nat) (s : Session) :
    List TraceEntry × Option Failure × Session :=
  match countBelow? bound with
  | some n => s.trace n take
  | none =>
    if take = some 0 then ([], none, s)
    else
      let (entries, failure, s) := s.trace 0 none
      (entries, failure <|> if s.available then some .wrongKind else none, s)

end Session

end Brainfuck
