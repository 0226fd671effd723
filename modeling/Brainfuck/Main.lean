import Brainfuck.CommandLine
import Brainfuck.Yaml

/-!
# The program

The outer layer of the program: it reads what a command line needs, the files, the
environment and the standard input, and writes what `Brainfuck.CommandLine.run` gives.
It also chooses the reader of documents and the memory.
-/

namespace Brainfuck

namespace Console

/-- Why a file could not be read. -/
def fileError : IO.Error → FileError
  | .inappropriateType none _ _ => .directory
  | .inappropriateType (some _) _ _ => .throughFile
  | .invalidArgument _ _ _ => .nameTooLong
  | .permissionDenied _ _ _ => .forbidden
  | _ => .missing

/-- What is found under the name of a file. -/
def readFile (name : String) : IO FileEntry := do
  match ← (IO.FS.readBinFile name).toBaseIO with
  | .ok bytes => return .ok bytes.toList
  | .error e => return .error (fileError e)

/-- What is left of a stream. -/
partial def readAll (stream : IO.FS.Stream) (before : ByteArray) : IO ByteArray := do
  let bytes ← stream.read 4096
  if bytes.isEmpty then return before else readAll stream (before ++ bytes)

/-- The environment variables that matter, as far as they are set. -/
def readEnvironment : IO (List (String × String)) :=
  Setting.all.filterMapM fun s => do
    return (← IO.getEnv s.environmentName).map (s.environmentName, ·)

/-- What the program finds around it, as far as the words of its command line need it. -/
def surroundings (words : List String) : IO CommandLine.Surroundings := do
  match CommandLine.Request.ofTexts words with
  | .error _ => return ⟨fun _ => .error .missing, Yaml.valueOfText, [], []⟩
  | .ok request =>
    let files ← request.fileNames.mapM fun name => return (name, ← readFile name)
    let environment ← readEnvironment
    let input ← if request.readsInput then readAll (← IO.getStdin) .empty else pure .empty
    return {
      file := fun name => (files.lookup name).getD (.error .missing)
      reader := Yaml.valueOfText
      environment
      input := input.toList }

/-- More steps than any run takes. -/
def fuel : Nat := 1000000000000000000

/-- The status that the program leaves. -/
def status : CommandLine.Exit → UInt32
  | .status code => code.toUInt32
  | .stopped _ | .outOfFuel => 1

/-- What is said about a failure that stopped the program. -/
def farewell : CommandLine.Exit → String
  | .stopped f =>
    Text.line (CommandLine.programName ++ ": " ++ f.message?.getD "unexpected failure")
  | .status _ | .outOfFuel => ""

end Console

end Brainfuck

/-- The program. -/
def main (words : List String) : IO UInt32 := do
  let around ← Brainfuck.Console.surroundings words
  let _ := Brainfuck.Memory.usual
  let outcome := Brainfuck.CommandLine.run Brainfuck.Console.fuel around words
  let stdout ← IO.getStdout
  stdout.write ⟨outcome.output⟩
  stdout.flush
  let stderr ← IO.getStderr
  stderr.putStr (outcome.messages ++ Brainfuck.Console.farewell outcome.exit)
  return Brainfuck.Console.status outcome.exit
