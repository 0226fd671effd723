import Brainfuck.Builder
import Brainfuck.Proofs.Config

/-!
# What a builder makes

A session can be asked for by a builder, by a configuration or directly, and the three ways check
the options at different times and in different orders. It does not matter which one is taken: a
builder makes the configuration and the session of the arguments that were named to it
(`Brainfuck.Builder.agrees_tryAll`).

These arguments are told from the calls (`Brainfuck.Builder.Call.named`): of each option, the
last one that was accepted. A call lays one option over those named before
(`Brainfuck.Builder.arguments_tryCall`), and layers can be put together in any way
(`Brainfuck.Arguments.onto_assoc`), so that a sequence of calls lays what it names over what there
was before. Since calls that name different options do not meet, only the order of those for one
option matters.
-/

namespace Brainfuck

namespace Arguments

theorem onto_assoc (a b c : Arguments) : (a.onto b).onto c = a.onto (b.onto c) := by
  simp only [onto, Option.orElse_eq_orElse, Option.orElse_eq_or, Option.or_assoc,
    List.append_assoc]

theorem empty_onto (a : Arguments) : empty.onto a = a := by
  simp only [onto, empty, Option.orElse_eq_orElse, Option.orElse_eq_or, Option.none_or,
    List.nil_append]

end Arguments

namespace Builder

/-! ### Calls -/

/-- A call of a builder. -/
inductive Call where
  /-- Name the input. -/
  | input (input : Input)
  /-- Name the output. -/
  | output (output : Output)
  /-- Set the length of the tape. -/
  | tapeLength (v : Value)
  /-- Ask for optimization, or not to optimize. -/
  | optimize (v : Value)
  /-- Bound the number of steps. -/
  | maxIterations (v : Value)
  /-- Say what to do at the end of the input. -/
  | eof (v : Value)

/-- What a call is about. -/
inductive Subject where
  /-- The input. -/
  | input
  /-- The output. -/
  | output
  /-- The length of the tape. -/
  | tapeLength
  /-- Whether to optimize. -/
  | optimize
  /-- The bound on the number of steps. -/
  | maxIterations
  /-- What to do at the end of the input. -/
  | eof
deriving DecidableEq

/-- Make a call. -/
def call (b : Builder) : Call → Option Failure × Builder
  | .input i => (none, b.input i)
  | .output o => (none, b.output o)
  | .tapeLength v => b.tapeLength v
  | .optimize v => (none, b.optimize v)
  | .maxIterations v => (none, b.maxIterations v)
  | .eof v => (none, b.eof v)

/-- The builder after a call whose refusal, if it is refused, is caught. -/
def tryCall (b : Builder) (c : Call) : Builder := (b.call c).2

/-- The builder after a sequence of such calls. -/
def tryAll (b : Builder) (calls : List Call) : Builder := calls.foldl tryCall b

namespace Call

/-- What a call is about. -/
def subject : Call → Subject
  | input _ => .input
  | output _ => .output
  | tapeLength _ => .tapeLength
  | optimize _ => .optimize
  | maxIterations _ => .maxIterations
  | eof _ => .eof

/-- The input that a call names. -/
def input? : Call → Option Input
  | input i => some i
  | _ => none

/-- The output that a call names. -/
def output? : Call → Option Output
  | output o => some o
  | _ => none

/-- The length of the tape that a call sets, if it is accepted. -/
def tapeLength? : Call → Option Value
  | tapeLength v => (TapeLength.ofValue v).toOption.map fun _ => v
  | _ => none

/-- Whether a call asks for optimization, as a truth value. -/
def optimize? : Call → Option Value
  | optimize v => some (.bool v.isTruthy)
  | _ => none

/-- The bound on the number of steps that a call names. -/
def maxIterations? : Call → Option Value
  | maxIterations v => some v
  | _ => none

/-- What to do at the end of the input, if a call says so. -/
def eof? : Call → Option Value
  | eof v => some v
  | _ => none

/-- What the last of the calls gives that gives something. -/
def last {α : Type} (f : Call → Option α) (calls : List Call) : Option α :=
  calls.reverse.findSome? f

/-- **The arguments that calls name**: of each option, that of the last call that was accepted. -/
def named (calls : List Call) : Arguments where
  source := none
  tapeLength := last tapeLength? calls
  optimize := last optimize? calls
  maxIterations := last maxIterations? calls
  input := last input? calls
  output := last output? calls
  eof := last eof? calls
  unknown := []

section Named

variable {α : Type} {f : Call → Option α} {c : Call} {calls calls' : List Call}

theorem last_cons (f : Call → Option α) (c : Call) (calls : List Call) :
    last f (c :: calls) = (last f calls).or (f c) := by
  rw [last, List.reverse_cons, List.findSome?_append, List.findSome?_singleton, last]

/-- A later call lays what it names over what was named before. -/
theorem named_cons (c : Call) (calls : List Call) :
    named (c :: calls) = (named calls).onto (named [c]) := by
  simp only [named, Arguments.onto, last_cons, Option.orElse_eq_orElse, Option.orElse_eq_or]
  rfl

/-- **Only the calls about one subject matter** to what the last of them names. -/
theorem last_filter {subject : Subject} (hf : ∀ c : Call, c.subject ≠ subject → f c = none)
    (calls : List Call) : last f (calls.filter (·.subject = subject)) = last f calls := by
  induction calls with
  | nil => rfl
  | cons c calls ih =>
    by_cases hc : c.subject = subject
    · rw [List.filter_cons_of_pos (by simpa using hc), last_cons, last_cons, ih]
    · rw [List.filter_cons_of_neg (by simpa using hc), last_cons, ih, hf c hc, Option.or_none]

/-- Calls that are the same for each subject name the same. -/
theorem named_eq_of_filter (h : ∀ subject : Subject,
    calls'.filter (·.subject = subject) = calls.filter (·.subject = subject)) :
    named calls' = named calls := by
  have hlast : ∀ {α : Type} (f : Call → Option α) (subject : Subject),
      (∀ c : Call, c.subject ≠ subject → f c = none) → last f calls' = last f calls := by
    intro α f subject hf
    rw [← last_filter hf calls', h, last_filter hf]
  simp only [named]
  rw [hlast tapeLength? .tapeLength, hlast optimize? .optimize,
    hlast maxIterations? .maxIterations, hlast input? .input, hlast output? .output,
    hlast eof? .eof]
  all_goals
    intro c hc
    cases c <;> first | rfl | exact absurd rfl hc

end Named

end Call

section Calls

variable {b : Builder} {c : Call} {f : Failure}

/-- A length that is accepted is kept as it is given. -/
theorem eq_int_of_ofValue {v : Value} {length : TapeLength}
    (h : TapeLength.ofValue v = .ok length) : v = .int length.val := by
  rw [TapeLength.ofValue.eq_def] at h
  split at h
  · split at h
    next hpos =>
      cases h
      exact congrArg Value.int (Int.toNat_of_nonneg (Int.le_of_lt hpos)).symm
    · cases h
  · cases h

/-- **A call lays what it names over what was named before.** -/
theorem arguments_tryCall (b : Builder) (c : Call) :
    (b.tryCall c).arguments = (Call.named [c]).onto b.arguments := by
  cases c with
  | tapeLength v =>
    rcases hlength : TapeLength.ofValue v with f | length
    · have hnamed : Call.named [.tapeLength v] = .empty := by
        rw [Call.named]
        simp only [Call.last, List.reverse_singleton, List.findSome?_singleton, Call.tapeLength?,
          hlength]
        rfl
      rw [hnamed, Arguments.empty_onto, tryCall, call, tapeLength, hlength]
    · have hnamed : Call.named [.tapeLength v] =
          { Arguments.empty with tapeLength := some v } := by
        rw [Call.named]
        simp only [Call.last, List.reverse_singleton, List.findSome?_singleton, Call.tapeLength?,
          hlength]
        rfl
      rw [hnamed, eq_int_of_ofValue hlength, tryCall, call, tapeLength, TapeLength.ofValue_val]
      rfl
  | input | output | optimize | maxIterations | eof => rfl

/-- A sequence of calls lays what it names over what there was before. -/
theorem arguments_tryAll (b : Builder) (calls : List Call) :
    (b.tryAll calls).arguments = (Call.named calls).onto b.arguments := by
  induction calls generalizing b with
  | nil => exact (Arguments.empty_onto b.arguments).symm
  | cons c calls ih =>
    have hrest : b.tryAll (c :: calls) = (b.tryCall c).tryAll calls := rfl
    rw [hrest, ih, arguments_tryCall, ← Arguments.onto_assoc, ← Call.named_cons]

/-- **Only a length can be refused**, and then nothing has been changed. -/
theorem exists_of_call_refused (h : (b.call c).1 = some f) :
    (∃ v, c = .tapeLength v ∧ f = .about v .tapeLength) ∧ b.tryCall c = b := by
  cases c with
  | tapeLength v =>
    rw [call, tapeLength] at h
    rw [tryCall, call, tapeLength]
    rcases hlength : TapeLength.ofValue v with g | length <;> rw [hlength] at h <;> cases h
    exact ⟨⟨v, rfl, Config.eq_of_tapeLength_error hlength⟩, rfl⟩
  | input | output | optimize | maxIterations | eof => cases h

theorem tryAll_concat (b : Builder) (calls : List Call) (c : Call) :
    b.tryAll (calls ++ [c]) = (b.tryAll calls).tryCall c := by
  rw [tryAll, List.foldl_append]
  rfl

end Calls

/-! ### The agreement -/

/-- **The agreement** of what a builder makes after calls with what arguments ask for. -/
structure Agrees [Memory] (b : Builder) (calls : List Call) (a : Arguments) : Prop where
  /-- A call that was refused was about the length of the tape, and has changed nothing. -/
  refused : ∀ {before after : List Call} {c : Call} {f : Failure}, calls = before ++ c :: after →
    ((b.tryAll before).call c).1 = some f →
      (∃ v, c = .tapeLength v ∧ f = .about v .tapeLength) ∧
        b.tryAll (before ++ [c]) = b.tryAll before
  /-- Calls about different subjects can be made in any order. -/
  interleaved : ∀ {calls' : List Call}, (∀ subject : Subject,
    calls'.filter (·.subject = subject) = calls.filter (·.subject = subject)) →
      b.tryAll calls' = b.tryAll calls
  /-- The configuration of the builder is that of the arguments, or both are refused alike. -/
  config : (b.tryAll calls).config = Config.ofArguments a
  /-- If there is one, the session of the builder is the one that the arguments ask for. -/
  build : ∀ {c : Config}, (b.tryAll calls).config = .ok c →
    (b.tryAll calls).build = Session.ofArguments a
  /-- With endpoints that can be used there is such a session, unless there can be no tape that
  long. -/
  built : ∀ {c : Config} {source : Source} {sink : Sink}, (b.tryAll calls).config = .ok c →
    a.inputValue.toSource = .ok source → a.outputValue.toSink = .ok sink →
      ((∃ s, (b.tryAll calls).build = .ok s) ↔ ∃ tape, Tape.blank? c.tapeLength = .ok tape)

/-- **A builder agrees with the arguments that its calls name**, laid over those that it began
with. -/
theorem agrees_tryAll [Memory] (code : String) {defaults : Arguments}
    (hsource : defaults.source = none) (calls : List Call) :
    ∃ b, Builder.ofSource (.text code) defaults = .ok b ∧
      b.Agrees calls { (Call.named calls).onto defaults with source := some (.text code) } := by
  refine ⟨⟨{ defaults with source := some (.text (Command.toText (Command.ofText code))) }⟩, ?_, ?_⟩
  · rw [ofSource, hsource]
    rfl
  generalize hb : Builder.mk { defaults with
    source := some (.text (Command.toText (Command.ofText code))) } = b
  -- the builder has dropped the comments already, which makes no difference
  have hconfig : (b.tryAll calls).config =
      Config.ofArguments { (Call.named calls).onto defaults with source := some (.text code) } := by
    rw [config, arguments_tryAll, ← hb]
    exact Config.ofArguments_congr rfl (commandsOfValue_toText _) rfl rfl rfl rfl rfl rfl
  have hbuild : ∀ {c : Config}, (b.tryAll calls).config = .ok c → (b.tryAll calls).build =
      Session.ofArguments
        { (Call.named calls).onto defaults with source := some (.text code) } := by
    intro c hc
    rw [build, hc]
    exact (Config.checked_of_ok (hconfig.symm.trans hc)).build_eq
  refine ⟨?_, ?_, hconfig, hbuild, ?_⟩
  · intro before after c f _ hf
    rw [tryAll_concat]
    exact exists_of_call_refused hf
  · intro calls' h
    have harguments : (b.tryAll calls').arguments = (b.tryAll calls).arguments := by
      rw [arguments_tryAll, arguments_tryAll, Call.named_eq_of_filter h]
    exact congrArg Builder.mk harguments
  · intro c source sink hc hinput houtput
    rw [hbuild hc]
    exact (Config.checked_of_ok (hconfig.symm.trans hc)).exists_session_iff hinput houtput

section Usual

attribute [local instance] Memory.usual

/-- A builder that begins with a bound and is called for a length twice, of which one is refused,
and for the bound. -/
theorem agrees_tryAll_refused :
    { Arguments.empty with maxIterations := some (.int 9) }.source = none ∧
      ∃ b, Builder.ofSource (.text "+ a comment [.-]")
          { Arguments.empty with maxIterations := some (.int 9) } = .ok b ∧
        b.Agrees [.tapeLength (.int 5), .optimize (.int 1), .tapeLength (.int 0),
            .maxIterations (.int (-4))]
          { (Call.named [.tapeLength (.int 5), .optimize (.int 1), .tapeLength (.int 0),
            .maxIterations (.int (-4))]).onto
              { Arguments.empty with maxIterations := some (.int 9) } with
            source := some (.text "+ a comment [.-]") } :=
  ⟨rfl, agrees_tryAll "+ a comment [.-]" rfl
    [.tapeLength (.int 5), .optimize (.int 1), .tapeLength (.int 0), .maxIterations (.int (-4))]⟩

end Usual

/-- The length that was refused is forgotten, and the last bound counts. -/
example : Call.named [.tapeLength (.int 5), .optimize (.int 1), .tapeLength (.int 0),
    .maxIterations (.int (-4))] =
      { Arguments.empty with
        tapeLength := some (.int 5), optimize := some (.bool true),
        maxIterations := some (.int (-4)) } := by
  rfl

end Builder

end Brainfuck
