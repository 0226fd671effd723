import Brainfuck.Decimal.Numeral
import Brainfuck.Session.Run

/-!
# Running a program in memory

The shortest way from a program text to its output: make a session with a collecting
sink, run it, and report what came of it. A text that does not compile and input that
ends too early are part of the report; anything else that fails is a failure of its own.
-/

namespace Brainfuck

/-- What a run of a program in memory produced. -/
structure Report where
  /-- The bytes written. -/
  output : Array UInt8
  /-- The number of steps. -/
  iterations : Nat
  /-- Whether the run was cut off by the bound on its steps. -/
  cutOff : Bool
  /-- Why the run ended early, if it did. -/
  error : Option Failure

namespace Report

/-- The bytes written, as a text. -/
def text (r : Report) : String := Text.ofBytes r.output.toList

/-- Whether the run did not end early. -/
def ok (r : Report) : Bool := r.error.isNone

end Report

namespace Runner

/-- Whether a failure of a run belongs into its report. -/
def isReported : Failure → Bool
  | .compile _ | .endOfInput _ => true
  | _ => false

/-- Run a program in memory, and tell what it has left of its input. The output of the given
arguments is replaced. Running out of fuel leaves no report. -/
def execute [Memory] (fuel : Nat) (a : Arguments) : Except Failure (Option Report × Source) := do
  let s ← Session.ofArguments { a with output := some (.sink (.buffer #[])) }
  match s.error with
  | some e => return (some ⟨#[], 0, false, some (.compile e)⟩, s.input)
  | none =>
    let (ending, s) := s.run fuel true
    match ending with
    | .finished => return (some ⟨s.output.visible, s.iterations, s.capped, none⟩, s.input)
    | .failed failure =>
      if isReported failure then
        return (some ⟨s.output.visible, s.iterations, false, some failure⟩, s.input)
      else throw failure
    | .outOfFuel => return (none, s.input)

/-- Run a program in memory. -/
def run [Memory] (fuel : Nat) (a : Arguments) : Except Failure (Option Report) := do
  return (← execute fuel a).1

/-- The arguments for a program text, its input and a bound on the steps. -/
def arguments (code : Value) (input : Input) (limit : Value) : Arguments :=
  { Arguments.empty with source := some code, input := some input, maxIterations := some limit }

/-- Run a program without and then with optimization. A source is used by both runs, so that the
second one goes on where the first one stopped reading. -/
def compare [Memory] (fuel : Nat) (code : Value) (input : Input) (limit : Value) :
    Except Failure (Option Report × Option Report) := do
  let runWith (input : Input) (optimize : Bool) :=
    execute fuel { arguments code input limit with optimize := some (.bool optimize) }
  let (plain, left) ← runWith input false
  let (optimized, _) ← runWith (input.afterUse left) true
  return (plain, optimized)

/-- The byte that a number stands for, modulo 256. -/
def byteOfValue : Value → Except Failure UInt8
  | .int n => .ok (UInt8.ofInt n)
  | .bool b => .ok (if b then 1 else 0)
  | _ => .error .wrongKind

/-- The first byte that a program writes when its input is one byte. -/
def firstByte [Memory] (fuel : Nat) (code input limit : Value) : Except Failure (Option UInt8) := do
  let byte ← byteOfValue input
  let report ← run fuel (arguments code (.data (.bytes false [byte])) limit)
  return report.bind fun r => if r.ok then r.output[0]? else none

/-- The bound on the steps that an environment asks for: none unless the text is a numeral. -/
def limitOfText (text : String) : Except Failure Int :=
  match Decimal.integer? text with
  | some n => .ok n
  | none => .error .badValue

end Runner

end Brainfuck
