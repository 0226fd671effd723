import Brainfuck.Text.Lines
import Brainfuck.Trace

/-!
# The debugger

A run of the debugger prints the program with the next instruction marked, the part of
the tape around the current cell and the output so far, before the first step and after
each one.

The part of the tape is as wide as was asked for and has the current cell in its middle,
unless an end of the tape is too near: then it is moved, and on a short tape cut.
-/

namespace Brainfuck

namespace Debugger

/-! ### The parts of a report -/

/-- An instruction as the debugger shows it: its command, with the number of times unless that
is one. -/
def instructionText (i : Instruction) : String :=
  String.singleton i.command.toChar ++ (if i.times = 1 then "" else toString i.times)

/-- The program, the instruction at `pc` in brackets. -/
def programText (p : Program) (pc : Nat) : String :=
  String.join (p.instructions.toList.zipIdx.map fun (instruction, i) =>
    let text := instructionText instruction
    if i = pc then "[" ++ text ++ "]" else text)

/-- The bounds of the part of a tape of length `size` around `pointer` that is `width` wide. -/
def windowBounds (size pointer : Nat) (width : Int) : Int × Int :=
  let start := max 0 ((pointer : Int) - Int.fdiv width 2)
  let stop := min (size : Int) (start + width)
  (if stop - start < width then max 0 (stop - width) else start, stop)

/-- The whole numbers from `start` up to `stop`. -/
def positions (start stop : Int) : List Int :=
  (List.range (stop - start).toNat).map fun (i : Nat) => start + i

/-- A number in at least three columns. -/
def column (n : Int) : String :=
  let digits := toString n
  String.ofList (List.replicate (3 - digits.length) ' ') ++ digits

/-- Bytes as a list of numbers. -/
def byteList (bytes : Array UInt8) : String :=
  "[" ++ ", ".intercalate (bytes.toList.map fun b => toString b.toNat) ++ "]"

/-- Bytes as a text between quotes and as a list of numbers. -/
def outputText (bytes : Array UInt8) : String :=
  Text.quoted (Text.ofBytes bytes.toList) ++ " → " ++ byteList bytes

/-- A part of the tape as it is shown, one entry of each list for each cell. -/
structure TapeView where
  /-- The bytes in the cells. -/
  cells : List UInt8
  /-- Whether a cell is the current one. -/
  marks : List Bool
  /-- The positions of the cells. -/
  addresses : List Int

/-- The part of a tape around a pointer that is `width` wide. -/
def TapeView.around (t : Tape) (pointer : Nat) (width : Int) : TapeView :=
  let (start, stop) := windowBounds t.size pointer width
  let addresses := positions start stop
  { cells := t.window start stop
    marks := addresses.map fun (i : Int) => decide (i = pointer)
    addresses }

/-- The three rows that show a part of the tape, with a caret under the current cell. -/
def TapeView.rows (v : TapeView) : List String :=
  ["Memory:   [" ++ "|".intercalate (v.cells.map fun b => column b.toNat) ++ "]",
    "Pointer:   " ++ " ".intercalate (v.marks.map fun marked => if marked then " ^ " else "   "),
    "Address:   " ++ " ".intercalate (v.addresses.map column)]

/-- A heading and the program. -/
def stateHead (label : String) (s : Session) : List String :=
  ["", label ++ ":", "Program:  " ++ programText s.program s.pc]

/-- The state of a session under a heading. -/
def report (width : Int) (label : String) (s : Session) : List String :=
  let output := s.output.visible
  stateHead label s ++ (TapeView.around s.tape s.pointer width).rows ++
    ["Output:   " ++ if output.isEmpty then "(empty)" else outputText output]

/-- The report on a step. -/
def stepReport (width : Int) (e : TraceEntry) (s : Session) : List String :=
  let times := if e.times > 1 then "x" ++ toString e.times else ""
  ["", "Step " ++ toString e.step ++ ": Execute '" ++ String.singleton e.command.toChar ++ "'"
    ++ times ++ " at position " ++ toString e.pc] ++
    report width ("AFTER STEP " ++ toString e.step) s

/-- The heading of a run of the debugger. -/
def heading : String := "🐛 BRAINFUCK DEBUGGER"

/-- What is said before an error. -/
def errorMark : String := "❌ "

/-- What came of a run of the debugger. -/
structure Result where
  /-- The printed text. -/
  printed : String
  /-- The output, or why there is none. -/
  output : Except Failure (Array UInt8)
  /-- The session afterwards. -/
  session : Session

/-- The last lines of a run that was not stopped by an error, given the bound on its steps. -/
def conclusion (bound : String) (s : Session) : List String :=
  (if s.available then
    ["", "⚠️ Execution stopped after " ++ bound ++ " steps (possible infinite loop)"]
  else []) ++ ["", "🎯 FINAL RESULT:", "Output: " ++ outputText s.output.visible]

/-- The first lines of a run of the debugger, before any state. -/
def preamble (p : Program) : List String :=
  [heading, "Program: " ++ Command.toText p.code, String.ofList (List.replicate 80 '=')]

/-- The lines before the first step. -/
def introduction (width : Int) (s : Session) : List String :=
  preamble s.program ++ report width "INITIAL" s

/-- Run from the start, up to `maxSteps` steps, printing the state before the first step and
after each one. The bound is printed as it was given. -/
def runBelow (width maxSteps : Int) (bound : String) (s : Session) : Result :=
  match s.error with
  | some e => ⟨Text.lines [heading, errorMark ++ e.message], .ok #[], s⟩
  | none =>
    let start := introduction width s.reset
    let (reports, failure?, s) := s.observeFromStart (stepReport width) maxSteps
    let lines := start ++ reports.flatten
    match failure? with
    | some failure => ⟨Text.lines lines, .error failure, s⟩
    | none => ⟨Text.lines (lines ++ conclusion bound s), .ok s.output.visible, s⟩

/-- Run from the start, up to `maxSteps` steps. -/
def run (width maxSteps : Int) (s : Session) : Result :=
  runBelow width maxSteps (toString maxSteps) s

/-! ### Unchecked arguments -/

/-- The width that a value stands for on a tape of a given length. Of the numbers that are not
whole only those will do that make the whole tape visible. -/
def widthOfValue? (size : Nat) : Value → Option Int
  | .int n => some n
  | .bool b => some (if b then 1 else 0)
  | .float x => if x < Float.ofNat size then none else some size
  | _ => none

/-- The bound on the steps as it is printed. A whole number is printed however long it is. -/
def boundText : Value → String
  | .int n => toString n
  | v => v.literal.toOption.getD ""

/-- Run with arguments that have not been checked. A useless width is noticed when the tape is
to be shown, a useless bound when there is a step to take. -/
def runWith (width bound : Value) (s : Session) : Result :=
  match s.error, widthOfValue? s.tape.size width with
  | some _, _ => run 0 0 s
  | none, none =>
    let s := s.reset
    ⟨Text.lines (preamble s.program ++ stateHead "INITIAL" s), .error .wrongKind, s⟩
  | none, some width =>
    match countBelow? bound with
    | some n => runBelow width n (boundText bound) s
    | none =>
      let fresh := s.reset
      if fresh.available then ⟨Text.lines (introduction width fresh), .error .wrongKind, fresh⟩
      else run width 0 s

end Debugger

end Brainfuck
