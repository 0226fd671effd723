import Brainfuck.Arguments
import Brainfuck.Decimal.Numeral
import Brainfuck.Text.LowerCase

/-!
# Settings

Four of the options of a session can also be set from outside the program, by the
environment or by a document. There a number may be written as a text, a truth value as
a word, and letter case and surrounding blanks do not matter.

Reading such settings (`Brainfuck.Settings.ofValue`) gives each option that was set a
value of its own type. Whether that value makes sense, a length being positive say, is
left to whoever uses it. Settings can be laid over one another, like arguments.
-/

namespace Brainfuck

/-- An option that can be set from outside. -/
inductive Setting where
  /-- The length of the tape. -/
  | tapeLength
  /-- Whether to optimize the program. -/
  | optimize
  /-- The bound on the number of steps. -/
  | maxIterations
  /-- What to do at the end of the input. -/
  | eof
deriving DecidableEq

namespace Setting

/-- All such options, in the order in which the environment is looked at. -/
def all : List Setting := [tapeLength, optimize, maxIterations, eof]

/-- The name of an option in a document. -/
def name : Setting → String
  | tapeLength => "tape_length"
  | optimize => "optimize"
  | maxIterations => "max_iterations"
  | eof => "eof"

/-- The name of the environment variable for an option. -/
def environmentName : Setting → String
  | tapeLength => "BF_TAPE_LENGTH"
  | optimize => "BF_OPTIMIZE"
  | maxIterations => "BF_MAX_ITERATIONS"
  | eof => "BF_EOF"

/-- The option of a given name. -/
def ofName? (s : String) : Option Setting := all.find? (·.name == s)

end Setting

/-- The options that were set, each with a value of its type. -/
structure Settings where
  /-- The length of the tape. -/
  tapeLength : Option Int
  /-- Whether to optimize the program. -/
  optimize : Option Bool
  /-- The bound on the number of steps, or that there is none. -/
  maxIterations : Option (Option Int)
  /-- The name of what to do at the end of the input. -/
  eof : Option String
deriving DecidableEq

namespace Settings

/-- Nothing is set. -/
def empty : Settings := ⟨none, none, none, none⟩

/-- The settings of two layers, of which the upper one wins. -/
def onto (upper lower : Settings) : Settings where
  tapeLength := upper.tapeLength <|> lower.tapeLength
  optimize := upper.optimize <|> lower.optimize
  maxIterations := upper.maxIterations <|> lower.maxIterations
  eof := upper.eof <|> lower.eof

/-- The settings as arguments of a session. -/
def arguments (s : Settings) : Arguments :=
  { Arguments.empty with
    tapeLength := s.tapeLength.map .int
    optimize := s.optimize.map .bool
    maxIterations := s.maxIterations.map fun bound => bound.elim .null .int
    eof := s.eof.map .text }

/-! ### Values as settings -/

/-- The words for true. -/
def trueWords : List String := ["1", "true", "yes", "on"]

/-- The words for false, the empty one among them. -/
def falseWords : List String := ["0", "false", "no", "off", ""]

/-- A word without surrounding blanks and in lower case. -/
def plainWord (s : String) : String := String.ofList (Text.lower (Text.trim s.toList))

/-- A truth value, or a word for one. -/
def readBool (name : String) (v : Value) : Except Failure Bool :=
  let refused := Except.error (.about v fun text => .option (.notBoolean name text))
  match v with
  | .bool b => .ok b
  | .text s =>
    if plainWord s ∈ trueWords then .ok true
    else if plainWord s ∈ falseWords then .ok false
    else refused
  | _ => refused

/-- A numeral given as bytes. -/
def integerOfBytes? (bytes : List UInt8) : Option Int :=
  if bytes.all (· < 0x80) then Decimal.integer? (Text.ofBytes bytes) else none

/-- A whole number, a numeral, or a floating-point number without its fraction. -/
def readInt (name : String) (v : Value) : Except Failure Int :=
  let refused := Except.error (.about v fun text => .option (.notInteger name text))
  match v with
  | .int n => .ok n
  | .float x =>
    match Decimal.Reading.ofFloat x with
    | .finite d => .ok d.truncate
    | .zero _ => .ok 0
    | .infinite _ => .error .tooLarge
    | .notANumber => refused
  | .text s => (Decimal.integer? s).elim refused .ok
  | .bytes bytes => (integerOfBytes? bytes).elim refused .ok
  | _ => refused

/-- A word. -/
def readWord (name : String) : Value → Except Failure String
  | .text s => .ok (plainWord s)
  | v => .error (.about v fun text => .option (.notText name text))

/-- Set an option to what a value stands for. Only the bound on the number of steps can be set
to no value. -/
def put (s : Settings) (option : Setting) (v : Value) : Except Failure Settings :=
  match option with
  | .tapeLength => return { s with tapeLength := ← readInt option.name v }
  | .optimize => return { s with optimize := ← readBool option.name v }
  | .maxIterations =>
    match v with
    | .null => return { s with maxIterations := some none }
    | _ => return { s with maxIterations := some (← readInt option.name v) }
  | .eof => return { s with eof := ← readWord option.name v }

/-! ### Documents -/

/-- The name of an option, if a key of a mapping is one. -/
def settingOfKey? : Value → Option Setting
  | .text s => Setting.ofName? s
  | _ => none

/-- A key of a mapping as a text. -/
def textOfKey? : Value → Option String
  | .text s => some s
  | _ => none

/-- The error for keys that name no option. Keys that are no texts cannot even be listed. -/
def unknownKeys (keys : List Value) : Failure :=
  match keys.mapM textOfKey? with
  | some names => .option (.unknown (names.mergeSort fun a b => decide (a ≤ b)))
  | none => .wrongKind

/-- Set options in the order of the entries of a mapping. -/
def putEntries (s : Settings) : List (Value × Value) → Except Failure Settings
  | [] => .ok s
  | (key, v) :: rest =>
    match settingOfKey? key with
    | some option => do putEntries (← s.put option v) rest
    | none => .error (unknownKeys [key])

/-- The settings in a document, which must be a mapping all of whose keys name options. The
keys are looked at before the values. -/
def ofValue : Value → Except Failure Settings
  | .mapping entries =>
    let unknown := (entries.map Prod.fst).filter fun k => (settingOfKey? k).isNone
    if unknown.isEmpty then empty.putEntries entries else .error (unknownKeys unknown)
  | _ => .error (.option .notMapping)

/-! ### The environment -/

/-- The settings in an environment. Other variables do not matter. -/
def ofEnvironment (environment : List (String × Value)) : Except Failure Settings :=
  ofValue (.mapping (Setting.all.filterMap fun option =>
    (environment.lookup option.environmentName).map fun v => (.text option.name, v)))

end Settings

end Brainfuck
