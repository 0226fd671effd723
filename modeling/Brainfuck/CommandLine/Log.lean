import Brainfuck.Session
import Brainfuck.Text.Lines

/-!
# The log

While it works, the program tells what is going on: always when brackets do not match,
and on request how large a program is, where reads found no more input, and when a run
was cut off. What a session has to tell can be read off its state. A line about a value
that cannot be written is left out.
-/

namespace Brainfuck

namespace CommandLine

/-- The importance of a line of the log. -/
inductive Level where
  /-- Of interest to those who want to know everything. -/
  | debug
  /-- Of interest to those who want to know more. -/
  | info
  /-- Of interest to everyone. -/
  | warning
deriving DecidableEq

/-- The name of a level. -/
def Level.name : Level → String
  | debug => "DEBUG"
  | info => "INFO"
  | warning => "WARNING"

/-- A line of the log. -/
structure LogLine where
  /-- How important it is. -/
  level : Level
  /-- Who says it. -/
  origin : String
  /-- What is said. -/
  text : String

/-- The text of those lines of a log that are wanted: all of them, or only the warnings. -/
def logText (verbose : Bool) (log : List LogLine) : String :=
  Text.lines ((log.filter fun l => verbose || l.level = .warning).map fun l =>
    l.level.name ++ " " ++ l.origin ++ ": " ++ l.text)

/-- What is told about the program of a session. -/
def compileLog (s : Session) : List LogLine :=
  let say (level : Level) (text : String) : LogLine := ⟨level, "bfsession.core.compiler", text⟩
  match s.error with
  | some .empty => []
  | some e => [say .warning e.message]
  | none => (s.optimized.literal.toOption.map fun optimized =>
      say .debug ("compiled " ++ toString s.program.size ++ " instructions (optimize="
        ++ optimized ++ ", " ++ toString s.program.logicalSize ++ " logical)")).toList

/-- What is told about the last run of a session. -/
def runLog (s : Session) : List LogLine :=
  let say (level : Level) (text : String) : LogLine := ⟨level, "bfsession.brainfuck", text⟩
  (s.misses.reverse.map fun pc => say .debug ("end of input at pc=" ++ toString pc)) ++
    if s.capped then
      ((s.cap.elim .null Cap.given).literal.toOption.map fun cap =>
        say .info ("stopped after " ++ toString s.iterations ++ " iterations (max_iterations="
          ++ cap ++ ")")).toList
    else []

end CommandLine

end Brainfuck
