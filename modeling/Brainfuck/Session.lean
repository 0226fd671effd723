import Brainfuck.Arguments

/-!
# Sessions

A session holds one tape, one program and the state of its execution, and it is bound to
a source and a sink. It can be given another program, other endpoints, and be reset, all
without being made anew.

A text that does not compile leaves the session with the empty program and the error,
and every attempt to run it reports that error. An operation that can fail gives the
session that it leaves together with the failure.
-/

namespace Brainfuck

/-- How far the reads of one instruction got before the input ended. -/
structure PartialRead where
  /-- The position of the instruction. -/
  pc : Nat
  /-- The number of its reads that are done. -/
  done : Nat
deriving DecidableEq

/-- A session. -/
structure Session where
  /-- The tape. -/
  tape : Tape
  /-- The program. -/
  program : Program
  /-- The setting that the program was compiled with, as it was given. -/
  optimized : Value
  /-- Why there is no program, if its text was refused. -/
  error : Option CompileError
  /-- The position of the next instruction. -/
  pc : Nat
  /-- The position of the current cell. -/
  pointer : Nat
  /-- The number of steps taken. -/
  iterations : Nat
  /-- Whether the last step was the last one of the program, or the run was cut off. -/
  halted : Bool
  /-- Whether a run was cut off by the bound on its steps. -/
  capped : Bool
  /-- The number of bytes read. -/
  reads : Nat
  /-- The number of bytes written. -/
  writes : Nat
  /-- The reads that need not be repeated, for each instruction that some are remembered for. -/
  partialReads : List PartialRead
  /-- The instructions whose reads found no input and went on, the last one first. -/
  misses : List Nat
  /-- Where input comes from. -/
  input : Source
  /-- Where output goes to. -/
  output : Sink
  /-- What to do at the end of the input. -/
  eof : EndMode
  /-- The bound on the number of steps of a run. -/
  cap : Option Cap

/-- The state of a session. -/
inductive Status where
  /-- There is a next instruction. -/
  | running
  /-- The program has ended or the run was cut off. -/
  | halted
  /-- There is no program. -/
  | errored
deriving DecidableEq

namespace Session

/-- Forget everything about the execution: tape, position, counters. Program and endpoints
stay as they are. -/
def reset (s : Session) : Session :=
  { s with
    tape := s.tape.reset, pc := 0, pointer := 0, iterations := 0, halted := false, capped := false,
    reads := 0, writes := 0, partialReads := [], misses := [] }

/-- Replace the program. Commands that do not compile leave the empty program. -/
def load (s : Session) (commands : List Command) (optimize : Value) : Session :=
  match Program.compile commands optimize.isTruthy with
  | .ok program => reset { s with program, optimized := optimize, error := none }
  | .error e => reset { s with program := .empty, optimized := .bool false, error := some e }

/-- Replace the program by that of an unchecked text. -/
def loadValue (s : Session) (source optimize : Value) : Option Failure × Session :=
  match commandsOfValue source with
  | .ok commands => (none, s.load commands optimize)
  | .error failure => (some failure, s)

/-- A session that has no program yet. -/
def idle (tape : Tape) (cap : Option Cap) (input : Source) (output : Sink) (eof : EndMode) :
    Session where
  tape
  program := .empty
  optimized := .bool false
  error := none
  pc := 0
  pointer := 0
  iterations := 0
  halted := false
  capped := false
  reads := 0
  writes := 0
  partialReads := []
  misses := []
  input
  output
  eof
  cap

/-- The session that is asked for. The program text is looked at last, and one that does not
compile is no reason to refuse the session. -/
def ofArguments [Memory] (a : Arguments) : Except Failure Session := do
  a.checkNames
  let eof ← EndMode.ofValue a.eofValue
  let tape ← Tape.blank? (← TapeLength.ofValue a.tapeLengthValue)
  let cap ← Cap.ofValue a.maxIterationsValue
  let input ← a.inputValue.toSource
  let output ← a.outputValue.toSink
  Failure.resolve ((idle tape cap input output eof).loadValue a.sourceValue a.optimizeValue)

/-! ### Endpoints -/

/-- Take input from somewhere else. -/
def setInput (s : Session) (input : Input) : Option Failure × Session :=
  match input.toSource with
  | .ok input => (none, { s with input })
  | .error failure => (some failure, s)

/-- Write output to somewhere else. -/
def setOutput (s : Session) (output : Output) : Option Failure × Session :=
  match output.toSink with
  | .ok output => (none, { s with output })
  | .error failure => (some failure, s)

/-- Put more bytes into the source. -/
def feed (s : Session) (data : Data) : Option Failure × Session :=
  let (failure?, input) := s.input.feed data
  (failure?, { s with input })

/-- Empty the sink. -/
def clearOutput (s : Session) : Option Failure × Session :=
  let (failure?, output) := s.output.clear?
  (failure?, { s with output })

/-! ### Inspection -/

/-- Store a number at a position of the tape. -/
def poke (s : Session) (p value : Int) : Option Failure × Session :=
  let (failure?, tape) := s.tape.set? p value
  (failure?, { s with tape })

/-- Whether there is a next instruction. -/
def available (s : Session) : Bool := s.error.isNone && s.pc < s.program.size

/-- The state of the session. -/
def status (s : Session) : Status :=
  if s.error.isSome then .errored
  else if s.halted || s.program.size ≤ s.pc then .halted
  else .running

end Session

end Brainfuck
