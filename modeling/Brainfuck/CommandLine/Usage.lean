import Brainfuck.Text.Lines

/-!
# The description of the command line

The short form comes before every usage error, the long form is the help text.
-/

namespace Brainfuck

namespace CommandLine

/-- The name of the program. -/
def programName : String := "bfsession"

/-- The ways to treat the end of the input, as the description lists them. -/
def modesText : String := "\x7bkeep,zero,error\x7d"

/-- The short form of the description. -/
def usage : List String :=
  ["usage: " ++ programName ++ " [-h] [-e CODE] [--input INPUT] [--optimize]",
   "                 [--tape-length TAPE_LENGTH] [--max-iterations MAX_ITERATIONS]",
   "                 [--eof " ++ modesText ++ "] [--config CONFIG] [--stats]",
   "                 [--debug] [--debug-steps DEBUG_STEPS] [--demo] [-v]",
   "                 [program]"]

/-- The long form of the description. -/
def help : List String :=
  usage ++
  ["",
   "Run a Brainfuck program",
   "",
   "positional arguments:",
   "  program               Path to a Brainfuck source file",
   "",
   "options:",
   "  -h, --help            show this help message and exit",
   "  -e CODE, --eval CODE  Program text given on the command line",
   "  --input INPUT         Input text for ',' (default: read stdin)",
   "  --optimize            Fold runs of identical instructions",
   "  --tape-length TAPE_LENGTH",
   "  --max-iterations MAX_ITERATIONS",
   "                        Stop after this many steps (<= 0: unlimited)",
   "  --eof " ++ modesText,
   "                        What ',' does at end of input",
   "  --config CONFIG       YAML file with session options",
   "  --stats               Print iteration count to stderr when done",
   "  --debug               Step through the program, printing the tape",
   "  --debug-steps DEBUG_STEPS",
   "  --demo                Run the built-in Hello World demo",
   "  -v, --verbose"]

end CommandLine

end Brainfuck
