import Brainfuck.Arguments
import Brainfuck.CommandLine.Word
import Brainfuck.Decimal.Numeral

/-!
# What a command line asks for

The words of a command line are read from left to right. A switch takes its value from
its own word or, failing that, from the next one, which must be a plain word. The first
plain word that is left over is the name of the program; other words that are left over
are collected and refused in the end, so that a request for help or an error in a later
word comes first. When a switch is repeated, the last one counts.

Letters of flags can be written in one word, and the last letter may be that of a switch
with a value (`-ve CODE`). Such a word is understood as a whole, and its value found, before
any of its flags has an effect.

The separator (`--`) takes effect once. Given as the value of a switch it leaves the
switch with an empty list of values.
-/

namespace Brainfuck

namespace CommandLine

/-- Why a command line is not a request. -/
inductive Stop where
  /-- It asks for help. -/
  | help
  /-- It is refused. -/
  | refused (error : UsageError)

/-- What a command line asks for. -/
structure Request where
  /-- The name of the file with the program. -/
  program : Option String
  /-- The options of the session that are named, the program text and the input among them. -/
  options : Arguments
  /-- The name of a file of settings; an empty one is none. -/
  config : String
  /-- Tell the number of steps. -/
  stats : Bool
  /-- Run the debugger. -/
  debug : Bool
  /-- The number of steps of the debugger, unless the value for it is an empty list. -/
  debugSteps : Option Int
  /-- Run the demonstration. -/
  demo : Bool
  /-- Tell what is going on. -/
  verbose : Bool

namespace Request

/-- The request of an empty command line. -/
def empty : Request := ⟨none, .empty, "", false, false, some 100, false, false⟩

/-! ### Switches -/

/-- A text as a value; the separator stands for an empty list. -/
def valueOf (text : String) : Value :=
  if text = Word.separatorText then .list [] else .text text

/-- A numeral as a value. -/
def integerOf (s : Switch) (text : String) : Except Stop Value :=
  if text = Word.separatorText then .ok (.list [])
  else match Decimal.integer? text with
    | some n => .ok (.int n)
    | none => .error (.refused (.notInteger s text))

/-- The name of a way to treat the end of the input as a value. -/
def modeOf (text : String) : Except Stop Value :=
  let names := EndMode.all.map EndMode.name
  if text = Word.separatorText then .ok (.list [])
  else if text ∈ names then .ok (.text text)
  else .error (.refused (.noSuchChoice .eof text names))

/-- The number that a value is. -/
def number? : Value → Option Int
  | .int n => some n
  | _ => none

/-- Follow a flag. -/
def raise (r : Request) : Switch → Except Stop Request
  | .help => .error .help
  | .optimize => .ok { r with options := { r.options with optimize := some (.bool true) } }
  | .stats => .ok { r with stats := true }
  | .debug => .ok { r with debug := true }
  | .demo => .ok { r with demo := true }
  | .verbose => .ok { r with verbose := true }
  | .eval | .input | .tapeLength | .maxIterations | .eof | .config | .debugSteps => .ok r

/-- Follow a switch with its value. -/
def put (r : Request) (s : Switch) (text : String) : Except Stop Request :=
  match s with
  | .eval => .ok { r with options := { r.options with source := some (valueOf text) } }
  | .input =>
    .ok { r with options := { r.options with input := some (.data (.value (valueOf text))) } }
  | .tapeLength => do
    let length ← integerOf s text
    return { r with options := { r.options with tapeLength := some length } }
  | .maxIterations => do
    let bound ← integerOf s text
    return { r with options := { r.options with maxIterations := some bound } }
  | .eof => do
    let mode ← modeOf text
    return { r with options := { r.options with eof := some mode } }
  | .config => .ok { r with config := if text = Word.separatorText then "" else text }
  | .debugSteps => do
    let steps ← integerOf s text
    return { r with debugSteps := number? steps }
  | .help | .optimize | .stats | .debug | .demo | .verbose => .ok r

/-! ### Words -/

/-- The switches in one word: flags, and the last switch with what is left of the word for its
value. -/
structure Cluster where
  /-- The flags before the last switch. -/
  flags : List Switch
  /-- The last switch. -/
  last : Switch
  /-- Its value, if it is in the word. -/
  value : Option String

/-- The switches in a word that begins with the letter of a switch `s` and goes on. -/
def cluster (s : Switch) : List Char → Except Stop Cluster
  | [] =>
    if s.takesValue then .ok ⟨[], s, some ""⟩ else .error (.refused (.valueIgnored s ""))
  | c :: rest =>
    if s.takesValue then .ok ⟨[], s, some (String.ofList (c :: rest))⟩
    else match Switch.ofLetter? c with
      | none => .error (.refused (.valueIgnored s (String.ofList (c :: rest))))
      | some next =>
        if rest.isEmpty then .ok ⟨[s], next, none⟩
        else do
          let more ← cluster next rest
          return { more with flags := s :: more.flags }

/-- The switches in a word for a switch. -/
def clusterOf (s : Switch) (isShort : Bool) : Option String → Except Stop Cluster
  | none => .ok ⟨[], s, none⟩
  | some text =>
    if isShort then cluster s text.toList
    else if s.takesValue then .ok ⟨[], s, some text⟩
    else .error (.refused (.valueIgnored s text))

/-- Follow the flags of a word and its last switch with a value. -/
def pull (r : Request) (flags : List Switch) (last : Switch) (value : String) :
    Except Stop Request := do
  (← flags.foldlM raise r).put last value

/-- Follow the switches of a word. The last one takes its value from the word or, failing that, from
the next word, if that is a plain one; it is told whether it did the latter. -/
def heed (r : Request) (word : Cluster) (next : Option String) : Except Stop (Request × Bool) :=
  if word.last.takesValue then
    match word.value, next with
    | some value, _ => do return (← r.pull word.flags word.last value, false)
    | none, some value => do return (← r.pull word.flags word.last value, true)
    | none, none => .error (.refused (.valueMissing word.last))
  else do return (← (← word.flags.foldlM raise r).raise word.last, false)

/-- Follow words from the left to the right. The texts of those that are left over come with the
request. -/
def follow (r : Request) : List Word → Except Stop (Request × List String)
  | [] => .ok (r, [])
  | .plain text :: .separator :: rest =>
    if r.program.isNone then follow { r with program := some text } rest
    else leave text (leave Word.separatorText (follow r rest))
  | .plain text :: rest =>
    if r.program.isNone then follow { r with program := some text } rest
    else leave text (follow r rest)
  | .separator :: rest =>
    if r.program.isNone then follow r rest
    else leave Word.separatorText (follow r rest)
  | .unknown text :: rest => leave text (follow r rest)
  | .switch s isShort text :: .plain value :: rest => do
    let (r, used) ← r.heed (← clusterOf s isShort text) (some value)
    if used then follow r rest else follow r (.plain value :: rest)
  | .switch s isShort text :: rest => do
    let (r, _) ← r.heed (← clusterOf s isShort text) none
    follow r rest
where
  /-- Leave a word over. -/
  leave (text : String) (result : Except Stop (Request × List String)) :
      Except Stop (Request × List String) :=
    result.map fun (r, texts) => (r, text :: texts)

/-- The request that a command line makes. -/
def ofTexts (texts : List String) : Except Stop Request := do
  let words ← (Word.ofTexts texts).mapError .refused
  let (r, extra) ← empty.follow words
  if extra.isEmpty then return r else throw (.refused (.unrecognized extra))

end Request

end CommandLine

end Brainfuck
