import Brainfuck.Config
import Brainfuck.Proofs.Session.Arguments

/-!
# What a configuration accepts

A configuration is made exactly if each option that it checks means something
(`Brainfuck.Config.Checked`), and if not, the failure is one that is reported, unless it is about a
value that cannot be written (`Brainfuck.Config.Unwritten`). Its session then is the one
that the arguments ask for, as far as there can be a tape that long: the program text has lost its
comments, which are dropped anyway, and a bound that is not positive has become none.
-/

namespace Brainfuck

/-- The value, or zero if it does not count as true. -/
def Value.orZero (v : Value) : Value := if v.isTruthy then v else .int 0

/-- The arguments with zero for a bound that is none. -/
def Arguments.bounded (a : Arguments) : Arguments :=
  { a with maxIterations := some a.maxIterationsValue.orZero }

/-- The text of commands stands for these. -/
theorem commandsOfValue_toText (commands : List Command) :
    commandsOfValue (.text (Command.toText commands)) = .ok commands := by
  rw [commandsOfValue, Command.ofText_toText]

namespace Config

/-- **Arguments that are accepted**, with the configuration that they make. -/
structure Checked (a : Arguments) (c : Config) : Prop where
  /-- All options that are named exist. -/
  unknown : a.unknown = []
  /-- The program. -/
  source : commandsOfValue a.sourceValue = .ok c.source
  /-- The length of the tape. -/
  tapeLength : TapeLength.ofValue a.tapeLengthValue = .ok c.tapeLength
  /-- The bound on the number of steps. -/
  maxIterations : boundOfValue a.maxIterationsValue = .ok c.maxIterations
  /-- What to do at the end of the input. -/
  eof : EndMode.ofValue a.eofValue = .ok c.eof
  /-- Whether to optimize the program. -/
  optimize : c.optimize = a.optimizeValue
  /-- Where input comes from. -/
  input : c.input = a.inputValue
  /-- Where output goes to. -/
  output : c.output = a.outputValue

/-! ### What is refused -/

/-- **A value is refused that cannot be written**, and this is the failure that is met. -/
inductive Unwritten (a : Arguments) (f : Failure) : Prop
  /-- The length of the tape. -/
  | tapeLength : TapeLength.ofValue a.tapeLengthValue = .error f →
    a.tapeLengthValue.literal = .error f → Unwritten a f
  /-- The bound on the number of steps. -/
  | maxIterations : boundOfValue a.maxIterationsValue = .error f →
    a.maxIterationsValue.literal = .error f → Unwritten a f
  /-- What to do at the end of the input. -/
  | eof : EndMode.ofValue a.eofValue = .error f → a.eofValue.literal = .error f → Unwritten a f

section Refused

variable {v : Value} {f : Failure}

/-- A whole number that is no length is not positive. -/
theorem nonpos_of_tapeLength_error {n : Int} (h : TapeLength.ofValue (.int n) = .error f) :
    n ≤ 0 := by
  rw [TapeLength.ofValue] at h
  split at h
  · cases h
  · omega

theorem eq_of_tapeLength_error (h : TapeLength.ofValue v = .error f) :
    f = .about v .tapeLength := by
  rw [TapeLength.ofValue.eq_def] at h
  split at h
  · split at h <;> cases h
    rfl
  · cases h
    rfl

theorem eq_of_bound_error (h : boundOfValue v = .error f) :
    f = .about v fun text => .option (.notInteger "max_iterations" text) := by
  rw [boundOfValue.eq_def] at h
  split at h <;> cases h
  rfl

theorem eq_of_mode_error (h : EndMode.ofValue v = .error f) :
    f = .about v fun text => .option (.unknownMode (EndMode.all.map EndMode.name) text) := by
  rw [EndMode.ofValue.eq_def] at h
  dsimp only at h
  split at h
  · split at h <;> cases h
    rfl
  · cases h
    rfl

end Refused

section Checked

variable {a : Arguments} {c : Config}

theorem checked_of_ok (h : ofArguments a = .ok c) : Checked a c := by
  obtain ⟨_, hnames, h⟩ := exists_of_bind h
  obtain ⟨commands, hsource, h⟩ := exists_of_bind h
  obtain ⟨length, hlength, h⟩ := exists_of_bind h
  obtain ⟨bound, hbound, h⟩ := exists_of_bind h
  obtain ⟨mode, hmode, h⟩ := exists_of_bind h
  cases h
  exact ⟨Arguments.unknown_of_checkNames hnames, hsource, hlength, hbound, hmode, rfl, rfl, rfl⟩

/-- **Arguments that stand for the same** make the same configuration, and are refused alike. -/
theorem ofArguments_congr {b : Arguments} (hnames : a.checkNames = b.checkNames)
    (hsource : commandsOfValue a.sourceValue = commandsOfValue b.sourceValue)
    (hlength : TapeLength.ofValue a.tapeLengthValue = TapeLength.ofValue b.tapeLengthValue)
    (hoptimize : a.optimizeValue = b.optimizeValue)
    (hbound : boundOfValue a.maxIterationsValue = boundOfValue b.maxIterationsValue)
    (hinput : a.inputValue = b.inputValue) (houtput : a.outputValue = b.outputValue)
    (hmode : EndMode.ofValue a.eofValue = EndMode.ofValue b.eofValue) :
    ofArguments a = ofArguments b := by
  simp only [ofArguments, hnames, hsource, hlength, hoptimize, hbound, hinput, houtput, hmode]

/-- The output is not looked at. -/
theorem ofArguments_output (a : Arguments) (output : Output) :
    ofArguments { a with output := some output } =
      (ofArguments a).map fun c => { c with output } := by
  change _ = (fun c => { c with output }) <$> ofArguments a
  simp only [ofArguments, map_bind]
  rfl

/-- A program text that has lost its comments makes the same configuration, with any output. -/
theorem ofArguments_strip {code : String} (hsource : a.source = some (.text code))
    (output : Output) :
    ofArguments { a with
        source := some (.text (Command.toText (Command.ofText code))), output := some output } =
      (ofArguments a).map fun c => { c with output } := by
  have hcommands : commandsOfValue (.text (Command.toText (Command.ofText code))) =
      commandsOfValue a.sourceValue := by
    rw [commandsOfValue_toText, Arguments.sourceValue, hsource]
    rfl
  rw [← ofArguments_output a output]
  exact ofArguments_congr rfl hcommands rfl rfl rfl rfl rfl rfl

/-- A length that is refused refuses the arguments. -/
theorem ofArguments_of_tapeLength_error {f : Failure} {commands : List Command}
    (hunknown : a.unknown = []) (hsource : commandsOfValue a.sourceValue = .ok commands)
    (h : TapeLength.ofValue a.tapeLengthValue = .error f) : ofArguments a = .error f := by
  simp only [ofArguments, Arguments.checkNames_of_unknown hunknown, hsource, h, bind, Except.bind]

/-- **What is refused is refused with a message**, unless it is an option that does not exist, a
program that is no text, or a value that cannot be written. -/
theorem isReported_or_unwritten {f : Failure} {commands : List Command} (hunknown : a.unknown = [])
    (hsource : commandsOfValue a.sourceValue = .ok commands) (h : ofArguments a = .error f) :
    f.isReported = true ∨ Unwritten a f := by
  simp only [ofArguments, Arguments.checkNames_of_unknown hunknown, hsource, bind,
    Except.bind] at h
  rcases hlength : TapeLength.ofValue a.tapeLengthValue with g | length <;> rw [hlength] at h
  · cases h
    obtain rfl := eq_of_tapeLength_error hlength
    exact (Failure.isReported_about fun _ => rfl).imp_right (.tapeLength hlength)
  rcases hbound : boundOfValue a.maxIterationsValue with g | bound <;> rw [hbound] at h
  · cases h
    obtain rfl := eq_of_bound_error hbound
    exact (Failure.isReported_about fun _ => rfl).imp_right (.maxIterations hbound)
  rcases hmode : EndMode.ofValue a.eofValue with g | mode <;> rw [hmode] at h
  · cases h
    obtain rfl := eq_of_mode_error hmode
    exact (Failure.isReported_about fun _ => rfl).imp_right (.eof hmode)
  · cases h

end Checked

/-! ### The session of a configuration -/

section Session

variable {a : Arguments} {c : Config}

theorem ofValue_orZero (v : Value) : Cap.ofValue v.orZero = Cap.ofValue v := by
  rw [Value.orZero]
  split
  · rfl
  next h =>
    simp only [Cap.ofValue, h]
    rfl

/-- A bound that is not positive is none. -/
theorem ofValue_bound {v : Value} {bound : Option Nat} (h : boundOfValue v = .ok bound) :
    Cap.ofValue (bound.elim .null fun n => .int n) = Cap.ofValue v := by
  rw [boundOfValue.eq_def] at h
  split at h
  · cases h
    rfl
  next n =>
    cases h
    by_cases hn : 0 < n
    · rw [if_pos hn, Option.elim_some, Int.toNat_of_nonneg (Int.le_of_lt hn)]
    · have hnone : Cap.ofValue (.int n) = .ok none := by
        simp only [Cap.ofValue, if_neg hn]
        split <;> rfl
      rw [if_neg hn, hnone]
      rfl
  · cases h

/-- A bound on the number of steps is positive. -/
theorem pos_of_bound {v : Value} {n : Nat} (h : boundOfValue v = .ok (some n)) : 1 ≤ n := by
  rw [boundOfValue.eq_def] at h
  split at h
  · cases h
  next k =>
    rw [Except.ok.injEq] at h
    split at h <;> cases h
    omega
  · cases h

/-- A bound that a configuration takes is one that a session takes. -/
theorem exists_cap_of_bound (bound : Option Nat) :
    ∃ cap, Cap.ofValue (bound.elim .null fun n => .int n) = .ok cap := by
  rcases bound with _ | n
  · exact ⟨none, rfl⟩
  · rw [Option.elim_some, Cap.ofValue]
    split <;> exact ⟨_, rfl⟩

/-- **The session of a configuration** is the one that the arguments ask for. -/
theorem Checked.build_eq [Memory] (h : Checked a c) : c.build = Session.ofArguments a := by
  refine Arguments.ofArguments_congr ?_ ?_ ?_ ?_ ?_ ?_ ?_ h.optimize
  · exact (Arguments.checkNames_of_unknown rfl).trans
      (Arguments.checkNames_of_unknown h.unknown).symm
  · exact (EndMode.ofValue_name c.eof).trans h.eof.symm
  · exact (TapeLength.ofValue_val c.tapeLength).trans h.tapeLength.symm
  · exact ofValue_bound h.maxIterations
  · exact congrArg Input.toSource h.input
  · exact congrArg Output.toSink h.output
  · exact (commandsOfValue_toText c.source).trans h.source.symm

/-- **There is a session of a configuration** with endpoints that can be used, unless there can be
no tape that long. -/
theorem Checked.exists_session_iff [Memory] (h : Checked a c) {source : Source} {sink : Sink}
    (hsource : a.inputValue.toSource = .ok source) (hsink : a.outputValue.toSink = .ok sink) :
    (∃ s, Session.ofArguments a = .ok s) ↔ ∃ tape, Tape.blank? c.tapeLength = .ok tape := by
  constructor
  · rintro ⟨s, hs⟩
    rcases htape : Tape.blank? c.tapeLength with f | tape
    · rw [Arguments.ofArguments_of_blank?_error h.unknown h.eof h.tapeLength htape] at hs
      cases hs
    · exact ⟨tape, rfl⟩
  · rintro ⟨tape, htape⟩
    obtain ⟨cap, hcap⟩ := exists_cap_of_bound c.maxIterations
    rw [ofValue_bound h.maxIterations] at hcap
    rw [Tape.eq_blank_of_blank? htape] at htape
    have hmeans : a.Means c.tapeLength cap c.eof source sink :=
      ⟨h.unknown, h.eof, h.tapeLength, htape, hcap, hsource, hsink⟩
    rw [hmeans.ofArguments, Session.loadValue, h.source]
    exact ⟨_, rfl⟩

/-- The bound on the number of steps as a session has it. -/
def cap (c : Config) : Option Cap := c.maxIterations.map fun (n : Nat) => ⟨.int n, some n⟩

/-- **The session that a configuration describes**, with a bound and endpoints. -/
def sessionWith (c : Config) (cap : Option Cap) (input : Source) (output : Sink) : Session :=
  (Session.idle (.blank c.tapeLength) cap input output c.eof).load c.source c.optimize

theorem input_sessionWith (c : Config) (cap : Option Cap) (input : Source) (output : Sink) :
    (c.sessionWith cap input output).input = input := by
  rw [sessionWith, Session.load]
  split <;> rfl

theorem Checked.cap_eq (h : Checked a c) :
    Cap.ofValue (c.maxIterations.elim .null fun n => .int n) = .ok c.cap := by
  rcases hbound : c.maxIterations with _ | n
  · rw [cap, hbound]
    rfl
  · have hpos := h.maxIterations
    rw [hbound] at hpos
    rw [cap, hbound, Option.elim_some, Cap.ofValue_natCast (pos_of_bound hpos)]
    rfl

/-- **The session of a configuration is the one that it describes.** -/
theorem Checked.exists_sessionWith [Memory] (h : Checked a c) {sink : Sink} {s : Session}
    (hs : Config.build { c with output := .sink sink } = .ok s) :
    ∃ input, c.input.toSource = .ok input ∧ s = c.sessionWith c.cap input sink := by
  obtain ⟨length, cap, mode, input, output, hmeans, hload⟩ := Arguments.exists_means hs
  obtain ⟨commands, hcommands, hload⟩ := Session.exists_of_loadValue hload
  have hlength := (TapeLength.ofValue_val c.tapeLength).symm.trans hmeans.tapeLength
  have hmode := (EndMode.ofValue_name c.eof).symm.trans hmeans.eof
  have hcap := h.cap_eq.symm.trans hmeans.cap
  have hsource := (commandsOfValue_toText c.source).symm.trans hcommands
  cases hlength
  cases hmode
  cases hcap
  cases hsource
  cases hmeans.output
  cases hload
  exact ⟨input, hmeans.input, rfl⟩

/-- The output may be exchanged. -/
theorem Checked.withOutput (h : Checked a c) (output : Output) :
    Checked { a with output := some output } { c with output } :=
  ⟨h.unknown, h.source, h.tapeLength, h.maxIterations, h.eof, h.optimize, h.input, rfl⟩

/-- A bound that does not count as true is none, with any sink. -/
theorem Checked.build [Memory] (h : Checked a c) (sink : Sink) :
    Config.build { c with output := .sink sink } =
      Session.ofArguments { a.bounded with output := some (.sink sink) } :=
  (h.withOutput (.sink sink)).build_eq.trans
    (Arguments.ofArguments_congr rfl rfl rfl (ofValue_orZero _).symm rfl rfl rfl rfl)

/-- **A configuration whose session cannot be made** is not reported. -/
theorem Checked.isReported [Memory] (h : Checked a c) {sink : Sink} {f : Failure}
    (hs : Session.ofArguments { a.bounded with output := some (.sink sink) } = .error f) :
    f.isReported = false := by
  obtain ⟨cap, hcap⟩ := exists_cap_of_bound c.maxIterations
  rw [← h.build sink] at hs
  exact Arguments.isReported_of_ofArguments (a := Config.arguments { c with output := .sink sink })
    rfl (EndMode.ofValue_name c.eof) (TapeLength.ofValue_val c.tapeLength) hcap rfl
    (commandsOfValue_toText c.source) hs

end Session

end Config

end Brainfuck
