import Brainfuck.Config
import Brainfuck.Session.Run

/-!
# Builders

A builder collects the options of a session one by one and can make any number of
sessions from them. Most options are only checked when a session is made; the length of
the tape is checked at once.

Sources and sinks are things, not values: all sessions of one builder share them, so what
one session reads is gone for the next, and what it writes stays. Input that was given as
a text or as bytes starts anew with each session.
-/

namespace Brainfuck

/-- A builder: the options collected so far. -/
structure Builder where
  /-- The options named so far. -/
  arguments : Arguments

namespace Builder

/-- A builder for a program text, with further options to begin with. -/
def ofSource (source : Value) (defaults : Arguments) : Except Failure Builder := do
  if defaults.source.isSome then
    throw .wrongKind
  let commands ← commandsOfValue source
  return ⟨{ defaults with source := some (.text (Command.toText commands)) }⟩

/-- Name the input. -/
def input (b : Builder) (input : Input) : Builder :=
  ⟨{ b.arguments with input := some input }⟩

/-- Name the output. -/
def output (b : Builder) (output : Output) : Builder :=
  ⟨{ b.arguments with output := some output }⟩

/-- Set the length of the tape. -/
def tapeLength (b : Builder) (v : Value) : Option Failure × Builder :=
  match TapeLength.ofValue v with
  | .ok length => (none, ⟨{ b.arguments with tapeLength := some (.int length.val) }⟩)
  | .error failure => (some failure, b)

/-- Ask for optimization, or not to optimize, as the value counts as true or not. -/
def optimize (b : Builder) (v : Value) : Builder :=
  ⟨{ b.arguments with optimize := some (.bool v.isTruthy) }⟩

/-- Bound the number of steps. -/
def maxIterations (b : Builder) (v : Value) : Builder :=
  ⟨{ b.arguments with maxIterations := some v }⟩

/-- Say what to do at the end of the input. -/
def eof (b : Builder) (v : Value) : Builder :=
  ⟨{ b.arguments with eof := some v }⟩

/-- The configuration for the options collected so far. -/
def config (b : Builder) : Except Failure Config := Config.ofArguments b.arguments

/-- A session with the options collected so far. -/
def build [Memory] (b : Builder) : Except Failure Session := do (← b.config).build

/-- The builder after one of its sessions has used the endpoints. -/
def afterSession (b : Builder) (s : Session) : Builder :=
  ⟨{ b.arguments with
    input := b.arguments.input.map (·.afterUse s.input)
    output := b.arguments.output.map fun o => match o with
      | .sink _ => .sink s.output
      | .data d => .data d }⟩

/-- Make a session and run it. -/
def run [Memory] (fuel : Nat) (b : Builder) : Except Failure (Ending × Session × Builder) := do
  let s ← b.build
  let (ending, s) := s.run fuel true
  return (ending, s, b.afterSession s)

end Builder

end Brainfuck
