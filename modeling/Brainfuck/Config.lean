import Brainfuck.Session
import Brainfuck.Value.Equality

/-!
# Configurations

A configuration is the checked form of the arguments of a session: the program text
without its comments, a positive length, a bound on the number of steps that is positive
or missing, and a known way to treat the end of the input.

A changed copy of a configuration is made by laying the changes over the arguments that
the configuration itself stands for, and checking the result.
-/

namespace Brainfuck

/-- The checked arguments of a session. -/
structure Config where
  /-- The program, without comments. -/
  source : List Command
  /-- The length of the tape. -/
  tapeLength : TapeLength
  /-- Whether to optimize the program, as it was given. -/
  optimize : Value
  /-- The bound on the number of steps. -/
  maxIterations : Option Nat
  /-- Where input comes from. -/
  input : Input
  /-- Where output goes to. -/
  output : Output
  /-- What to do at the end of the input. -/
  eof : EndMode

namespace Config

/-- The bound on the number of steps that a value stands for: a whole number or no value. A
number that is not positive is no bound. -/
def boundOfValue : Value → Except Failure (Option Nat)
  | .null => .ok none
  | .int n => .ok (if 0 < n then some n.toNat else none)
  | v => .error (.about v fun text => .option (.notInteger "max_iterations" text))

/-- Check the arguments of a session. -/
def ofArguments (a : Arguments) : Except Failure Config := do
  a.checkNames
  let source ← commandsOfValue a.sourceValue
  let tapeLength ← TapeLength.ofValue a.tapeLengthValue
  let maxIterations ← boundOfValue a.maxIterationsValue
  let eof ← EndMode.ofValue a.eofValue
  return { source, tapeLength, optimize := a.optimizeValue, maxIterations,
           input := a.inputValue, output := a.outputValue, eof }

/-- The arguments that a configuration stands for. -/
def arguments (c : Config) : Arguments where
  source := some (.text (Command.toText c.source))
  tapeLength := some (.int c.tapeLength.val)
  optimize := some c.optimize
  maxIterations := some (c.maxIterations.elim .null fun n => .int n)
  input := some c.input
  output := some c.output
  eof := some (.text c.eof.name)
  unknown := []

/-- A copy with changes. -/
def withArguments (c : Config) (changes : Arguments) : Except Failure Config :=
  ofArguments (changes.onto c.arguments)

/-- Whether two configurations are the same, their endpoints apart. -/
def same (c d : Config) : Bool :=
  c.source == d.source && c.tapeLength == d.tapeLength && c.optimize.same d.optimize &&
    c.maxIterations == d.maxIterations && c.eof == d.eof

/-- The session of a configuration. Only its endpoints can still be refused. -/
def build [Memory] (c : Config) : Except Failure Session := Session.ofArguments c.arguments

end Config

end Brainfuck
