import Brainfuck.Builder
import Brainfuck.CommandLine.Log
import Brainfuck.CommandLine.Request
import Brainfuck.CommandLine.Usage
import Brainfuck.Debugger
import Brainfuck.Settings.File

/-!
# The command line

What the program does is a function of the words of its command line and of its
surroundings: the files that the words name, the environment and the standard input, and
the reader of documents that a file of settings is read with. It gives the bytes on the
standard output, the text on the standard error, and how the program ended.

The options of the session come in three layers. The command line wins over the file of
settings, which wins over the environment.
-/

namespace Brainfuck

namespace CommandLine

/-- What the program finds around it when it is started. The bound on the steps of runs in memory
(`Brainfuck.Runner.limitOfText`) is not among it: that one is looked up when the library is
loaded, and the command line makes no use of it. -/
structure Surroundings where
  /-- What is found under the name of a file. -/
  file : String → FileEntry
  /-- The reader of documents. -/
  reader : Reader
  /-- The environment variables, after those of an environment file have been added. -/
  environment : List (String × String)
  /-- The standard input. -/
  input : List UInt8

/-- How the program ended. -/
inductive Exit where
  /-- In an orderly way, with a status. -/
  | status (code : Nat)
  /-- By a failure that is not reported. -/
  | stopped (failure : Failure)
  /-- Not at all: the fuel was used up. -/
  | outOfFuel

/-- What became of a run of the program. -/
structure Outcome where
  /-- How it ended. -/
  exit : Exit
  /-- The bytes on the standard output. -/
  output : Array UInt8
  /-- The text on the standard error. -/
  messages : String

namespace Outcome

/-- The code of a text. -/
def code (text : String) : Array UInt8 := text.toUTF8.data

/-- The end by a failure, which is reported if the program can do so. -/
def ofFailure (f : Failure) (output : Array UInt8) (messages : String) : Outcome :=
  match f.isReported, f.message? with
  | true, some text => ⟨.status 1, output, messages ++ Text.line (Debugger.errorMark ++ text)⟩
  | _, _ => ⟨.stopped f, output, messages⟩

/-- The end of a command line that is refused. -/
def ofUsageError (e : UsageError) : Outcome :=
  ⟨.status 2, #[], Text.lines (usage ++ [programName ++ ": error: " ++ e.message])⟩

end Outcome

/-! ### The demonstration -/

/-- The program of the demonstration. -/
def helloWorld : String :=
  "++++++++[>++++[>++>+++>+++>+<<<<-]>+>+>->>+[<]<-]" ++
    ">>.>---.+++++++..+++.>>.<-.<.+++.------.--------.>>+.>++."

/-- The session of the demonstration after its run, optimized or not. -/
def demoSession (fuel : Nat) (optimize : Bool) : Session :=
  let s := Session.idle (.blank .standard) none .empty (.buffer #[]) .keep
  ((s.load (Command.ofText helloWorld) (.bool optimize)).run fuel true).2

/-- What the demonstration prints about a session. -/
def demoText (s : Session) : String :=
  Text.ofBytes s.output.visible.toList ++ Text.line ("Iterations: " ++ toString s.iterations)

/-- Run the demonstration. -/
def demonstrate (fuel : Nat) (verbose : Bool) : Outcome :=
  let plain := demoSession fuel false
  let optimized := demoSession fuel true
  ⟨.status 0, Outcome.code (demoText plain ++ Text.line "---" ++ demoText optimized),
    logText verbose (compileLog plain ++ compileLog optimized)⟩

/-! ### Sessions -/

namespace Request

/-- The names of the files that a request looks at. -/
def fileNames (r : Request) : List String :=
  if r.demo then []
  else (if r.options.source.isSome then [] else r.program.toList) ++ [r.config]

/-- Whether a request may look at the standard input. -/
def readsInput (r : Request) : Bool := !r.demo && r.options.input.isNone

/-- The settings that apply below the options of the command line. -/
def settings (r : Request) (around : Surroundings) : Except Failure Settings := do
  let lower ← Settings.ofEnvironment (around.environment.map fun (name, text) => (name, .text text))
  let upper ← if r.config = "" then pure .empty
    else Settings.ofFile around.reader r.config (around.file r.config)
  return upper.onto lower

/-- The builder of the session that is asked for. -/
def builder (r : Request) (around : Surroundings) (source : Value) : Except Failure Builder := do
  let settings ← r.settings around
  let b ← Builder.ofSource source ({ r.options with source := none }.onto settings.arguments)
  return b.input (r.options.input.getD (.source (.stream around.input)))

/-- Run the program of a session. -/
def runSession (fuel : Nat) (r : Request) (s : Session) : Outcome :=
  let (ending, s) := s.run fuel true
  let output := (s.output.collected?).getD #[]
  let messages := logText r.verbose (compileLog s ++ runLog s)
  match ending with
  | .failed f => .ofFailure f output messages
  | .outOfFuel => ⟨.outOfFuel, output, messages⟩
  | .finished =>
    let note := if s.capped then " (iteration cap reached)" else ""
    let statistics := Text.line ("Iterations: " ++ toString s.iterations ++ note)
    ⟨.status 0, output, messages ++ if r.stats then statistics else ""⟩

/-- The width of the part of the tape that the debugger shows. -/
def debugWidth : Int := 10

/-- Run the debugger on a session. -/
def debugSession (r : Request) (s : Session) : Outcome :=
  match r.debugSteps, s.available with
  | none, true =>
    ⟨.stopped .wrongKind, Outcome.code (Text.lines (Debugger.introduction debugWidth s)),
      logText r.verbose (compileLog s)⟩
  | steps, _ =>
    let result := Debugger.run debugWidth (steps.getD 0) s
    let output := Outcome.code result.printed
    let messages := logText r.verbose (compileLog s ++ runLog result.session)
    match result.output with
    | .error f => .ofFailure f output messages
    | .ok _ => ⟨.status (if s.error.isSome then 1 else 0), output, messages⟩

/-- The session for the debugger: its output is collected, and the bound on the number of steps
does not matter. -/
def debuggedSession [Memory] (b : Builder) : Except Failure Session := do
  let config ← b.config
  Session.ofArguments
    { config.arguments with maxIterations := none, output := some (.sink (.buffer #[])) }

/-- Do what is asked for with the text of a program. -/
def runSource [Memory] (fuel : Nat) (r : Request) (around : Surroundings) (source : Value) :
    Outcome :=
  match r.builder around source with
  | .error f => .ofFailure f #[] ""
  | .ok b =>
    if r.debug then
      match debuggedSession b with
      | .error f => .ofFailure f #[] ""
      | .ok s => r.debugSession s
    else
      match (b.output (.sink (.stream #[]))).build with
      | .error f => .ofFailure f #[] ""
      | .ok s => r.runSession fuel s

/-- Do what is asked for. -/
def run [Memory] (fuel : Nat) (r : Request) (around : Surroundings) : Outcome :=
  if r.demo then demonstrate fuel r.verbose
  else match r.options.source, r.program with
    | some source, _ => r.runSource fuel around source
    | none, none | none, some "" => .ofUsageError .nothingToRun
    | none, some name =>
      match (around.file name).read? name with
      | .ok text => r.runSource fuel around (.text text)
      | .error (.file e name) =>
        ⟨.status 1, #[],
          Text.line (Debugger.errorMark ++ "Cannot read " ++ name ++ ": " ++ e.message)⟩
      | .error f => ⟨.stopped f, #[], ""⟩

end Request

/-- Run the program on the words of a command line. -/
def run [Memory] (fuel : Nat) (around : Surroundings) (words : List String) : Outcome :=
  match Request.ofTexts words with
  | .error .help => ⟨.status 0, Outcome.code (Text.lines help), ""⟩
  | .error (.refused e) => .ofUsageError e
  | .ok r => r.run fuel around

end CommandLine

end Brainfuck
