import Brainfuck.Session

/-!
# One step of a session

A step performs the next instruction and gives the byte in the cell that is then the
current one. An instruction that stands for several commands is one step.

A step that fails is not counted and does not move on. Only reading can fail. If it does
because the input has ended, the reads that the instruction has already done are
remembered with it and not repeated when the step is tried again.
-/

namespace Brainfuck

/-- What came of a step. -/
inductive StepResult where
  /-- The step was done; the byte in the current cell. -/
  | value (cell : UInt8)
  /-- There was no instruction left. -/
  | finished
  /-- The step failed. -/
  | failed (failure : Failure)

namespace Session

/-- The byte in the current cell. -/
def cell (s : Session) : UInt8 := s.tape.cell s.pointer

/-- The number of reads of the current instruction that need not be repeated. -/
def readsDone (s : Session) : Nat := ((s.partialReads.find? (·.pc = s.pc)).map (·.done)).getD 0

/-- Forget what is remembered for the current instruction. -/
def forgetReads (s : Session) : Session :=
  { s with partialReads := s.partialReads.filter (·.pc ≠ s.pc) }

/-- Remember that so many reads of the current instruction are done. -/
def rememberReads (s : Session) (done : Nat) : Session :=
  { s with partialReads := ⟨s.pc, done⟩ :: s.forgetReads.partialReads }

/-- Do the last `left` of `total` reads of the current instruction. -/
def readInput (total : Nat) : (left : Nat) → Session → Option Failure × Session
  | 0, s => (none, s)
  | left + 1, s =>
    match s.input.read with
    | (.ok (some byte), input) =>
      readInput total left
        { s with input, tape := s.tape.put s.pointer byte, reads := s.reads + 1 }
    | (.ok none, input) =>
      match s.eof with
      | .keep => readInput total left { s with input, misses := s.pc :: s.misses }
      | .zero =>
        readInput total left
          { s with input, tape := s.tape.put s.pointer 0, misses := s.pc :: s.misses }
      | .error =>
        (some (.endOfInput s.pc), { s with input }.rememberReads (total - (left + 1)))
    | (.error failure, input) => (some failure, { s with input })

/-- Perform an action a number of times. -/
def perform (s : Session) (action : Action) (times : Nat) : Option Failure × Session :=
  match action with
  | .right => (none, { s with pointer := s.tape.shift s.pointer times })
  | .left => (none, { s with pointer := s.tape.shift s.pointer (-times) })
  | .increment => (none, { s with tape := s.tape.bump s.pointer times })
  | .decrement => (none, { s with tape := s.tape.bump s.pointer (-times) })
  | .write =>
    (none, { s with
      output := s.output.write (List.replicate times s.cell), writes := s.writes + times })
  | .read => readInput times (times - s.readsDone) s.forgetReads

/-- Execute an instruction, without going on to the next one. A bracket that jumps goes to its
partner. -/
def execute (s : Session) : Instruction → Option Failure × Session
  | .perform action times => s.perform action times
  | .opening partner => (none, if s.cell = 0 then { s with pc := partner } else s)
  | .closing partner => (none, if s.cell = 0 then s else { s with pc := partner })

/-- Go on to the next instruction and count the step. -/
def advance (s : Session) : Session :=
  { s with
    pc := s.pc + 1, iterations := s.iterations + 1, halted := s.program.size ≤ s.pc + 1 }

/-- Take one step. -/
def step (s : Session) : StepResult × Session :=
  match s.error with
  | some e => (.failed (.compile e), s)
  | none =>
    match s.program.at? s.pc with
    | none => (.finished, s)
    | some instruction =>
      match s.execute instruction with
      | (some failure, s) => (.failed failure, s)
      | (none, s) =>
        let s := s.advance
        (.value s.cell, s)

/-- Take so many steps, or fewer if one fails. The byte after each step, and nothing for a step
that found no instruction. -/
def steps : Nat → Session → List (Option UInt8) × Option Failure × Session
  | 0, s => ([], none, s)
  | n + 1, s =>
    match s.step with
    | (.failed failure, s) => ([], some failure, s)
    | (.finished, s) =>
      let (values, failure, s) := steps n s
      (none :: values, failure, s)
    | (.value cell, s) =>
      let (values, failure, s) := steps n s
      (some cell :: values, failure, s)

end Session

end Brainfuck
