/-!
# The switches of the command line

A switch is a word with a leading dash that asks for something. It has one or two
spellings, a long one with two dashes and perhaps a short one, and some switches take a
value.

The order of the spellings matters: it is the order in which the possible meanings of an
abbreviated spelling are listed.
-/

namespace Brainfuck

namespace CommandLine

/-- A switch of the command line. -/
inductive Switch where
  /-- Print a description of the command line and stop. -/
  | help
  /-- The program text. -/
  | eval
  /-- The input text. -/
  | input
  /-- Optimize the program. -/
  | optimize
  /-- The length of the tape. -/
  | tapeLength
  /-- The bound on the number of steps. -/
  | maxIterations
  /-- What to do at the end of the input. -/
  | eof
  /-- The name of a file of settings. -/
  | config
  /-- Tell the number of steps. -/
  | stats
  /-- Run the debugger. -/
  | debug
  /-- The number of steps of the debugger. -/
  | debugSteps
  /-- Run the demonstration. -/
  | demo
  /-- Tell what is going on. -/
  | verbose
deriving DecidableEq

namespace Switch

/-- All switches. -/
def all : List Switch :=
  [help, eval, input, optimize, tapeLength, maxIterations, eof, config, stats, debug, debugSteps,
    demo, verbose]

/-- The letter of the short spelling. -/
def letter? : Switch → Option Char
  | help => some 'h'
  | eval => some 'e'
  | verbose => some 'v'
  | _ => none

/-- The name in the long spelling. -/
def name : Switch → String
  | help => "help"
  | eval => "eval"
  | input => "input"
  | optimize => "optimize"
  | tapeLength => "tape-length"
  | maxIterations => "max-iterations"
  | eof => "eof"
  | config => "config"
  | stats => "stats"
  | debug => "debug"
  | debugSteps => "debug-steps"
  | demo => "demo"
  | verbose => "verbose"

/-- Whether a switch takes a value. The others are flags. -/
def takesValue : Switch → Bool
  | eval | input | tapeLength | maxIterations | eof | config | debugSteps => true
  | help | optimize | stats | debug | demo | verbose => false

/-- The long spelling. -/
def longSpelling (s : Switch) : String := "--" ++ s.name

/-- The spellings of a switch, the short one first. -/
def spellings (s : Switch) : List String :=
  (s.letter?.map fun c => String.ofList ['-', c]).toList ++ [s.longSpelling]

/-- A switch as messages name it. -/
def display (s : Switch) : String := "/".intercalate s.spellings

/-- The switch of a letter. -/
def ofLetter? (c : Char) : Option Switch := all.find? (·.letter? == some c)

/-- The switch of a full spelling. -/
def ofSpelling? (spelling : String) : Option Switch := all.find? (spelling ∈ ·.spellings)

/-- The switches whose long spelling begins as given. -/
def withBeginning (beginning : String) : List Switch :=
  all.filter fun s => beginning.toList.isPrefixOf s.longSpelling.toList

end Switch

end CommandLine

end Brainfuck
