import Brainfuck.Proofs.CommandLine.Agreement
import Brainfuck.Proofs.CommandLine.Precedence
import Brainfuck.Proofs.Session.Coded

/-!
# How the program ends

The program ends with status 0 or 1, or it is stopped by a failure that no message is made of.
Which failure a request meets, if it meets one, can be followed through the stages
(`Brainfuck.CommandLine.Request.failure?`): the program is read, the settings are collected and
checked, the session is made, and the program is executed or debugged. Wherever a failure arises, it
is told if it can be told (`Brainfuck.CommandLine.Request.Told`).

What is left are flaws of what the program is given (`Brainfuck.CommandLine.Request.Flaw`): of its
files, of the input, of the length of the tape, and of the number of steps. No other failure escapes
(`Brainfuck.CommandLine.Request.contained_run`), whatever the reader of documents fails with and
however much memory there is. The execution of a program adds none: the session reads from the
standard input or from memory, where every byte has a code.
-/

namespace Brainfuck

/-! ### Failures -/

/-- **What is wrong with a text file** that no message can be made of. -/
inductive FileEntry.Flaw (name : String) (entry : FileEntry) : Failure → Prop
  /-- Its name has a null character. -/
  | name : '\x00' ∈ name.toList → Flaw name entry .badValue
  /-- Its bytes are not the code of a text. -/
  | bytes {bytes : List UInt8} : entry = .ok bytes → String.fromUTF8? ⟨bytes.toArray⟩ = none →
    Flaw name entry .undecodable

/-- **A file that cannot be read** is not there for a reason that can be told, or is flawed. -/
theorem FileEntry.exists_of_read?_error {name : String} {entry : FileEntry} {f : Failure}
    (h : entry.read? name = .error f) : (∃ e, f = .file e name) ∨ Flaw name entry f := by
  rcases exists_of_bind_error h with hopen | ⟨bytes, hbytes, hdecode⟩
  · rw [open?] at hopen
    split at hopen
    next hnull =>
      cases hopen
      exact Or.inr (.name hnull)
    · rcases entry with e | bytes <;> cases hopen
      exact Or.inl ⟨e, rfl⟩
  · rw [open?] at hbytes
    split at hbytes
    · cases hbytes
    · rcases entry with e | bytes' <;> cases hbytes
      split at hdecode
      · cases hdecode
      next hnone =>
        cases hdecode
        exact Or.inr (.bytes rfl hnone)

/-! ### Input -/

theorem Source.coded_stream (bytes : List UInt8) : (Source.stream bytes).Coded :=
  coded_of_map bytes rfl

/-- A source in memory gives the bytes that it was made of. -/
theorem Source.coded_of_bind {x : Except Failure (List UInt8)} {s : Source}
    (h : (do return Source.buffer (.ofList (← x))) = .ok s) : s.Coded := by
  obtain ⟨bytes, -, h⟩ := exists_of_bind h
  cases h
  exact coded_of_map bytes rfl

/-- What is named as input gives bytes only, unless it is a source that does not. -/
theorem Input.coded_of_toSource {i : Input} {s : Source} (h : i.toSource = .ok s)
    (hi : ∀ t, i = .source t → t.Coded) : s.Coded := by
  rw [toSource.eq_def] at h
  split at h
  · cases h
    exact hi _ rfl
  · cases h
    exact Source.coded_of_map [] rfl
  next d _ =>
    split at h
    · exact Source.coded_of_bind h
    · exact Source.coded_of_bind h
    · exact Source.coded_of_bind h
    · cases h

namespace CommandLine

/-- Whether the program was stopped by a failure. -/
def Exit.isStopped : Exit → Bool
  | stopped _ => true
  | status _ | outOfFuel => false

namespace Request

/-! ### Stages -/

/-- The program that a request names, or why it cannot be read. -/
def source? (r : Request) (around : Surroundings) : Except Failure Value :=
  match r.options.source with
  | some source => .ok source
  | none =>
    let name := r.program.getD ""
    ((around.file name).read? name).map .text

/-- The configuration that a request asks for, or why there is none. -/
def config? (r : Request) (around : Surroundings) : Except Failure Config := do
  let source ← r.source? around
  let b ← r.builder around source
  b.config

/-- The session that a request asks for, or why there is none. -/
def session? [Memory] (r : Request) (around : Surroundings) : Except Failure Session := do
  r.sessionFor (← r.config? around)

/-- The failure that the execution of a session meets, if any. -/
def sessionFailure? (fuel : Nat) (r : Request) (s : Session) : Option Failure :=
  match s.error with
  | some e => some (.compile e)
  | none =>
    if r.debug then
      match r.debugSteps with
      | some steps => (s.observeFromStart (fun e _ => e) steps).2.1
      | none => if s.available then some .wrongKind else none
    else
      match (s.run fuel true).1 with
      | .failed f => some f
      | .finished | .outOfFuel => none

/-- **The failure that a request meets**, if any. -/
def failure? [Memory] (fuel : Nat) (r : Request) (around : Surroundings) : Option Failure :=
  if r.demo then none
  else match r.session? around with
    | .error f => some f
    | .ok s => r.sessionFailure? fuel s

/-- **A failure is told**: the program ends with status 1, and the last line on the standard error
gives the reason. Only the debugger prints on the standard output why there is no program; the
standard error then has what the log says about it, which is nothing if the program is empty. -/
inductive Told (r : Request) : Failure → Outcome → Prop
  /-- A failure with its message. -/
  | standard {f : Failure} {message log : String} {output : Array UInt8} :
    f.message? = some message →
    Told r f ⟨.status 1, output, log ++ Text.line (Debugger.errorMark ++ message)⟩
  /-- A program that cannot be read. -/
  | program {e : FileError} {name : String} : r.options.source = none → r.program = some name →
    Told r (.file e name) ⟨.status 1, #[],
      Text.line (Debugger.errorMark ++ "Cannot read " ++ name ++ ": " ++ e.message)⟩
  /-- A program that does not compile, in the debugger. -/
  | debugger {e : CompileError} : r.debug = true →
    Told r (.compile e) ⟨.status 1,
      Outcome.code (Text.lines [Debugger.heading, Debugger.errorMark ++ e.message]),
      if e = .empty then "" else Text.line ("WARNING bfsession.core.compiler: " ++ e.message)⟩

/-- A failure that is told has status 1. -/
theorem Told.exit {r : Request} {f : Failure} {o : Outcome} (h : r.Told f o) :
    o.exit = .status 1 := by
  cases h <;> rfl

/-- **What is wrong with what a program is given** that no message is made of. -/
inductive Flaw [Memory] (r : Request) (around : Surroundings) : Failure → Prop
  /-- The file with the program. -/
  | program {name : String} {f : Failure} : r.options.source = none → r.program = some name →
    FileEntry.Flaw name (around.file name) f → Flaw r around f
  /-- The file with the settings. -/
  | config {f : Failure} : r.config ≠ "" →
    FileEntry.Flaw r.config (around.file r.config) f → Flaw r around f
  /-- The file with the settings holds no document. -/
  | document {text : String} {f : Failure} : r.config ≠ "" →
    (around.file r.config).read? r.config = .ok text → around.reader text = .error f →
    f.isReported = false → Flaw r around f
  /-- The document has a key that is no text, or a value that is infinite or cannot be written. -/
  | settings {text : String} {entries : List (Value × Value)} {f : Failure} : r.config ≠ "" →
    (around.file r.config).read? r.config = .ok text →
    around.reader text = .ok (.mapping entries) → Settings.Flaw entries f → Flaw r around f
  /-- The length of the tape is not positive and has too many digits to be written. -/
  | length {settings : Settings} {n : Int} : r.settings around = .ok settings →
    Endless (r.options.onto settings.arguments) n → Flaw r around .badValue
  /-- The input has a character beyond the codes of one byte. -/
  | wide {text : String} {c : Char} : r.options.input = some (.data (.value (.text text))) →
    c ∈ text.toList → 0xFF < c.toNat → Flaw r around .unencodable
  /-- The input is the separator. -/
  | separator : r.options.input = some (.data (.value (.list []))) →
    Flaw r around (.unusableInput "list")
  /-- There can be no tape that long. -/
  | tape {c : Config} {f : Failure} : r.config? around = .ok c →
    Tape.blank? c.tapeLength = .error f → Flaw r around f
  /-- The number of steps of the debugger is the separator. -/
  | steps : r.debug = true → r.debugSteps = none → Flaw r around .wrongKind

/-- **What becomes of a failure**: it is told, or it is a flaw and stops the program. -/
inductive Handled [Memory] (r : Request) (around : Surroundings) (f : Failure) (o : Outcome) : Prop
  /-- It is told. -/
  | told : f.isReported = true → Told r f o → Handled r around f o
  /-- It stops the program. -/
  | stopped : f.isReported = false → Flaw r around f → o.exit = .stopped f → Handled r around f o

/-- **The end without a failure**: with status 0, or not at all, because the run of the session has
not come to an end. -/
inductive Succeeded [Memory] (fuel : Nat) (r : Request) (around : Surroundings) : Exit → Prop
  /-- With status 0. -/
  | zero : Succeeded fuel r around (.status 0)
  /-- Not at all. -/
  | outOfFuel {s : Session} : r.debug = false → r.session? around = .ok s →
    (s.run fuel true).1 = .outOfFuel → Succeeded fuel r around .outOfFuel

section Stages

variable {r : Request} {around : Surroundings} {source : Value} {f : Failure} {words : List String}

/-- A request names a program if it has a text or a name of a file. -/
def HasProgram (r : Request) : Prop :=
  r.options.source ≠ none ∨ ∃ name, r.program = some name ∧ name ≠ ""

theorem names_of_source? (hprogram : r.HasProgram) (h : r.source? around = .ok source) :
    r.Names around source := by
  rw [source?] at h
  split at h
  next s hs =>
    cases h
    exact .named hs
  next hs =>
    obtain ⟨name, hname, hne⟩ := hprogram.resolve_left (absurd hs)
    rw [hname] at h
    dsimp only [Option.getD_some] at h
    rcases hread : (around.file name).read? name with f | text <;> rw [hread] at h <;> cases h
    exact .inFile hs hname hne hread

/-- Ending by a failure handles it. -/
theorem handled_ofFailure [Memory] (h : f.isReported = true ∨ r.Flaw around f)
    (output : Array UInt8) (messages : String) :
    r.Handled around f (.ofFailure f output messages) := by
  rcases hreported : f.isReported with _ | _
  · have hflaw := h.resolve_left (by rw [hreported]; exact Bool.false_ne_true)
    rw [ofFailure_of_unreported hreported]
    exact .stopped hreported hflaw rfl
  · obtain ⟨message, hmessage⟩ := Failure.exists_message hreported
    rw [ofFailure_of_reported hreported hmessage]
    exact .told hreported (.standard hmessage)

/-- **A program that cannot be read** is told about, or is flawed. -/
theorem handled_of_source?_error [Memory] (hdemo : r.demo = false) (hprogram : r.HasProgram)
    (h : r.source? around = .error f) (fuel : Nat) : r.Handled around f (r.run fuel around) := by
  rw [source?] at h
  split at h
  · cases h
  next hs =>
    obtain ⟨name, hname, hne⟩ := hprogram.resolve_left (absurd hs)
    rw [hname] at h
    dsimp only [Option.getD_some] at h
    rcases hread : (around.file name).read? name with g | text <;> rw [hread] at h <;> cases h
    rw [run, hdemo, hs, hname]
    rcases FileEntry.exists_of_read?_error hread with ⟨e, rfl⟩ | hflaw
    · simp only [hread, Bool.false_eq_true, if_false]
      exact .told rfl (.program hs hname)
    · have hflaw' : r.Flaw around f := .program hs hname hflaw
      cases hflaw with
      | name | bytes =>
        simp only [hread, Bool.false_eq_true, if_false]
        exact .stopped rfl hflaw' rfl

/-- Settings that cannot be read are told about, or are flawed. -/
theorem flaw_of_settings_error [Memory] (h : r.settings around = .error f) :
    f.isReported = true ∨ r.Flaw around f := by
  rw [settings_eq] at h
  rcases exists_of_bind_error h with hlower | ⟨lower, -, h⟩
  -- variables are texts, and all that is wrong with a text can be told
  · obtain ⟨option, text, e, -, -, rfl⟩ := exists_of_variables_error hlower
    exact Or.inl rfl
  rcases exists_of_bind_error h with hupper | ⟨upper, -, h⟩
  · rw [fileSettings] at hupper
    split at hupper
    · cases hupper
    next hname =>
    -- the file, the document that it holds, and the mapping that the document is
    rcases exists_of_bind_error hupper with hread | ⟨text, hread, hdocument⟩
    · rcases FileEntry.exists_of_read?_error hread with ⟨e, rfl⟩ | hflaw
      · exact Or.inl rfl
      · exact Or.inr (.config hname hflaw)
    rcases exists_of_bind_error hdocument with hyaml | ⟨v, hyaml, hvalue⟩
    · rcases hreported : f.isReported with _ | _
      · exact Or.inr (.document hname hread hyaml hreported)
      · exact Or.inl rfl
    · split at hvalue
      · cases hvalue
      · rcases Settings.exists_of_ofValue_error hvalue with ⟨e, rfl⟩ | ⟨entries, rfl, hflaw⟩
        · exact Or.inl rfl
        · exact Or.inr (.settings hname hread hyaml hflaw)
  · cases h

theorem config?_of_source? (hsource : r.source? around = .ok source) :
    r.config? around = (do (← r.builder around source).config) := by
  rw [config?, hsource]
  rfl

/-- **A configuration that is refused** is told about, or its settings are flawed. -/
theorem flaw_of_config?_error [Memory] (hwords : r.OfWords) (hunknown : r.options.unknown = [])
    (hsource : r.source? around = .ok source) (hnames : r.Names around source)
    (h : r.config? around = .error f) : f.isReported = true ∨ r.Flaw around f := by
  rw [config?_of_source? hsource] at h
  obtain ⟨commands, hcommands⟩ := hnames.exists_commands hwords
  rcases hsettings : r.settings around with g | settings
  · rw [builder, hsettings] at h
    cases h
    exact flaw_of_settings_error hsettings
  · rw [builder_of_settings hsettings hcommands] at h
    have hnames : r.options.unknown ++ settings.arguments.unknown = [] := by
      rw [hunknown]
      rfl
    rcases Config.isReported_or_unwritten hnames (by exact commandsOfValue_toText commands) h with
      hreported | hunwritten
    · exact Or.inl hreported
    · obtain ⟨rfl, n, hendless⟩ := exists_endless hwords hunwritten rfl rfl rfl
      exact Or.inr (.length hsettings ⟨hendless.length, hendless.nonpos, hendless.long⟩)

/-- The input of the configuration is the one that is named, or the standard one. -/
theorem input_of_config? (hsource : r.source? around = .ok source) {c : Config}
    (h : r.config? around = .ok c) :
    c.input = r.options.input.getD (.source (.stream around.input)) := by
  rw [config?_of_source? hsource] at h
  obtain ⟨b, hb, hconfig⟩ := exists_of_bind h
  obtain ⟨settings, -, hb⟩ := exists_of_bind hb
  obtain ⟨b', -, hb⟩ := exists_of_bind hb
  cases hb
  exact (Config.checked_of_ok hconfig).input

/-- The endpoints of the session for a configuration are of use if its input is. -/
theorem cause_of_build [Memory] {c : Config} {sink : Sink}
    (h : Config.build { c with output := .sink sink } = .error f) :
    Tape.blank? c.tapeLength = .error f ∨ c.input.toSource = .error f := by
  obtain ⟨cap, hcap⟩ := Config.exists_cap_of_bound c.maxIterations
  exact Arguments.cause_of_ofArguments (a := Config.arguments { c with output := .sink sink }) rfl
    (EndMode.ofValue_name c.eof) (TapeLength.ofValue_val c.tapeLength) hcap rfl
    (commandsOfValue_toText c.source) h

/-- An input from a command line that is of no use is flawed. -/
theorem flaw_of_toSource_error [Memory] (hwords : r.OfWords)
    (h : (r.options.input.getD (.source (.stream around.input))).toSource = .error f) :
    r.Flaw around f := by
  rcases hinput : r.options.input with _ | i <;> rw [hinput] at h
  · cases h
  obtain ⟨text, rfl⟩ := hwords.input i hinput
  rw [valueOf] at hinput h
  split at h
  · cases h
    rw [if_pos ‹_›] at hinput
    exact .separator hinput
  · rw [if_neg ‹_›] at hinput
    rcases htext : Text.bytesOf? text with _ | bytes
    · obtain ⟨c, hc, hwide⟩ := Text.bytesOf?_eq_none_iff.mp htext
      simp only [Option.getD_some, Input.toSource, Data.toBytes, htext, bind, Except.bind] at h
      cases h
      exact .wide hinput hc hwide
    · simp only [Option.getD_some, Input.toSource, Data.toBytes, htext, bind, Except.bind] at h
      cases h

/-- **A session that cannot be made** has flawed settings. -/
theorem flaw_of_sessionFor_error [Memory] (hwords : r.OfWords)
    (hsource : r.source? around = .ok source) {c : Config} (hc : r.config? around = .ok c)
    (h : r.sessionFor c = .error f) : r.Flaw around f := by
  have hcause : Tape.blank? c.tapeLength = .error f ∨ c.input.toSource = .error f := by
    rw [sessionFor] at h
    split at h
    · rcases hbuild : Config.build { c with output := .sink (.buffer #[]) } with g | s <;>
        rw [hbuild] at h <;> cases h
      exact cause_of_build hbuild
    · exact cause_of_build h
  rcases hcause with htape | hinput
  · exact .tape hc htape
  · rw [input_of_config? hsource hc] at hinput
    exact flaw_of_toSource_error hwords hinput

end Stages

/-! ### Executions -/

section Executions

variable {r : Request} {around : Surroundings} {fuel : Nat} {s : Session} {f : Failure}

/-- A session that has just been made has nothing to tell about its run. -/
theorem messages_of_error {c : Config} {cap : Option Cap} {input : Source} {output : Sink}
    {e : CompileError} (herr : (c.sessionWith cap input output).error = some e) (verbose : Bool) :
    logText verbose (compileLog (c.sessionWith cap input output) ++
        runLog (c.sessionWith cap input output)) =
      if e = .empty then "" else Text.line ("WARNING bfsession.core.compiler: " ++ e.message) := by
  have hrun : runLog (c.sessionWith cap input output) = [] := by
    rw [Config.sessionWith, Session.load]
    split <;> rfl
  rw [hrun, List.append_nil, compileLog, herr]
  cases e with
  | empty => rfl
  | unbalanced position => cases verbose <;> rfl

/-- **A run handles the failure that it meets.** -/
theorem handled_runSession [Memory] (hdebug : r.debug = false) (hcoded : s.input.Coded)
    (h : r.sessionFailure? fuel s = some f) : r.Handled around f (r.runSession fuel s) := by
  rcases hrun : s.run fuel true with ⟨ending, t⟩
  rw [sessionFailure?] at h
  split at h
  next e herr =>
    cases h
    rw [Session.run_of_error herr] at hrun
    cases hrun
    rw [runSession, Session.run_of_error herr]
    exact handled_ofFailure (Or.inl rfl) _ _
  next herr =>
    rw [if_neg (by rw [hdebug]; exact Bool.false_ne_true), hrun] at h
    cases ending with
    | finished | outOfFuel => cases h
    | failed g =>
      cases h
      obtain ⟨pc, rfl⟩ := Session.exists_of_run_failed hcoded herr (congrArg Prod.fst hrun)
      rw [runSession, hrun]
      exact handled_ofFailure (Or.inl rfl) _ _

/-- A run that meets no failure ends in an orderly way, if it ends. -/
theorem exit_runSession (hdebug : r.debug = false) (h : r.sessionFailure? fuel s = none) :
    (r.runSession fuel s).exit = .status 0 ∨
      (s.run fuel true).1 = .outOfFuel ∧ (r.runSession fuel s).exit = .outOfFuel := by
  rcases hrun : s.run fuel true with ⟨ending, t⟩
  rw [sessionFailure?] at h
  split at h
  · cases h
  · rw [if_neg (by rw [hdebug]; exact Bool.false_ne_true), hrun] at h
    rw [runSession, hrun]
    cases ending with
    | finished => exact Or.inl rfl
    | outOfFuel => exact Or.inr ⟨rfl, rfl⟩
    | failed g => cases h

/-- What a run of the debugger comes to: the failure that its trace meets, or output. -/
theorem exists_output_debugger (herr : s.error = none) (width steps : Int) :
    ∃ bytes, (Debugger.run width steps s).output =
      ((s.observeFromStart (fun e _ => e) steps).2.1).elim (.ok bytes) .error := by
  have hsame := Session.observe_snd (fun e _ => e) (Debugger.stepReport width) steps.toNat s.reset
  simp only [Debugger.run, Debugger.runBelow, Session.observeFromStart, herr, hsame]
  rcases (s.reset.observe (Debugger.stepReport width) steps.toNat).2.1 with _ | f
  · exact ⟨_, rfl⟩
  · exact ⟨#[], rfl⟩

/-- What is done by the debugger, if it has a number of steps to take or none is to be taken. -/
theorem debugSession_eq (h : r.debugSteps.isSome = true ∨ s.available = false) :
    r.debugSession s =
      let result := Debugger.run debugWidth (r.debugSteps.getD 0) s
      let output := Outcome.code result.printed
      let messages := logText r.verbose (compileLog s ++ runLog result.session)
      match result.output with
      | .error f => .ofFailure f output messages
      | .ok _ => ⟨.status (if s.error.isSome then 1 else 0), output, messages⟩ := by
  rw [debugSession]
  split
  next hsteps havailable =>
    rcases h with hsome | hunavailable
    · rw [hsteps] at hsome
      cases hsome
    · cases havailable.symm.trans hunavailable
  · rfl

/-- With a program, the debugger ends by the failure that its trace meets. -/
theorem exists_debugSession (herr : s.error = none)
    (h : r.debugSteps.isSome = true ∨ s.available = false) :
    ∃ output messages, r.debugSession s =
      ((s.observeFromStart (fun e _ => e) (r.debugSteps.getD 0)).2.1).elim
        ⟨.status 0, output, messages⟩ fun f => .ofFailure f output messages := by
  obtain ⟨bytes, hbytes⟩ := exists_output_debugger herr debugWidth (r.debugSteps.getD 0)
  let result := Debugger.run debugWidth (r.debugSteps.getD 0) s
  refine ⟨Outcome.code result.printed,
    logText r.verbose (compileLog s ++ runLog result.session), ?_⟩
  rw [debugSession_eq h]
  dsimp only
  rw [hbytes, herr]
  rcases (s.observeFromStart (fun e _ => e) (r.debugSteps.getD 0)).2.1 with _ | f <;> rfl

/-- Without a program, the debugger prints why. -/
theorem handled_debugSession_of_error [Memory] {c : Config} {cap : Option Cap} {input : Source}
    {output : Sink} {e : CompileError} (hs : s = c.sessionWith cap input output)
    (hdebug : r.debug = true) (herr : s.error = some e) :
    r.Handled around (.compile e) (r.debugSession s) := by
  have havailable : s.available = false := by
    rw [Session.available, herr]
    rfl
  have hrun : Debugger.run debugWidth (r.debugSteps.getD 0) s =
      ⟨Text.lines [Debugger.heading, Debugger.errorMark ++ e.message], .ok #[], s⟩ := by
    rw [Debugger.run, Debugger.runBelow, herr]
  rw [debugSession_eq (Or.inr havailable), hrun, herr]
  subst hs
  dsimp only
  rw [messages_of_error herr]
  exact .told rfl (.debugger hdebug)

/-- The failure that the debugger meets: there is no number of steps although there is a step to
take, or the trace fails. -/
theorem sessionFailure?_of_debug (hdebug : r.debug = true) (herr : s.error = none) (fuel : Nat) :
    r.debugSteps = none ∧ s.available = true ∧ r.sessionFailure? fuel s = some .wrongKind ∨
      (r.debugSteps.isSome = true ∨ s.available = false) ∧
        r.sessionFailure? fuel s =
          (s.observeFromStart (fun e _ => e) (r.debugSteps.getD 0)).2.1 := by
  rw [sessionFailure?, herr]
  dsimp only
  rw [if_pos hdebug]
  rcases r.debugSteps with _ | steps
  · rcases s.available with _ | _
    -- no step is to be taken, and none is taken
    · refine Or.inr ⟨Or.inr rfl, ?_⟩
      simp only [Session.observeFromStart, herr]
      rfl
    · exact Or.inl ⟨rfl, rfl, rfl⟩
  · exact Or.inr ⟨Or.inl rfl, rfl⟩

/-- **The debugger handles the failure that it meets.** -/
theorem handled_debugSession [Memory] {c : Config} {cap : Option Cap} {input : Source}
    {output : Sink} (hs : s = c.sessionWith cap input output) (hdebug : r.debug = true)
    (hcoded : s.input.Coded) (h : r.sessionFailure? fuel s = some f) :
    r.Handled around f (r.debugSession s) := by
  rcases herr : s.error with _ | e
  · rcases sessionFailure?_of_debug hdebug herr fuel with
      ⟨hsteps, havailable, hfailure⟩ | ⟨hsteps, hfailure⟩
    · cases hfailure.symm.trans h
      rw [debugSession, hsteps, havailable]
      exact .stopped rfl (.steps hdebug hsteps) rfl
    · obtain ⟨output, messages, hdone⟩ := exists_debugSession herr hsteps
      have htrace := hfailure.symm.trans h
      rw [hdone, htrace]
      simp only [Session.observeFromStart, herr] at htrace
      obtain ⟨pc, rfl⟩ := Session.exists_of_observe_failed (s := s.reset) hcoded herr htrace
      exact handled_ofFailure (Or.inl rfl) _ _
  · have hfailure : r.sessionFailure? fuel s = some (.compile e) := by
      rw [sessionFailure?, herr]
    cases hfailure.symm.trans h
    exact handled_debugSession_of_error hs hdebug herr

/-- The debugger ends in an orderly way if it meets no failure. -/
theorem exit_debugSession (hdebug : r.debug = true) (h : r.sessionFailure? fuel s = none) :
    (r.debugSession s).exit = .status 0 := by
  rcases herr : s.error with _ | e
  · rcases sessionFailure?_of_debug hdebug herr fuel with
      ⟨-, -, hfailure⟩ | ⟨hsteps, hfailure⟩
    · cases hfailure.symm.trans h
    · obtain ⟨output, messages, hdone⟩ := exists_debugSession herr hsteps
      rw [hdone, hfailure.symm.trans h]
      rfl
  · rw [sessionFailure?, herr] at h
    cases h

/-- **What is done with a session handles the failure that it meets.** -/
theorem handled_finish [Memory] {c : Config} {cap : Option Cap} {input : Source} {output : Sink}
    (hs : s = c.sessionWith cap input output) (hcoded : s.input.Coded)
    (h : r.sessionFailure? fuel s = some f) : r.Handled around f (r.finish fuel (.ok s)) := by
  rcases hdebug : r.debug with _ | _
  · simp only [finish, hdebug, Bool.false_eq_true, if_false]
    exact handled_runSession hdebug hcoded h
  · simp only [finish, hdebug, if_true]
    exact handled_debugSession hs hdebug hcoded h

theorem succeeded_finish [Memory] (hsession : r.session? around = .ok s)
    (h : r.sessionFailure? fuel s = none) :
    r.Succeeded fuel around (r.finish fuel (.ok s)).exit := by
  rcases hdebug : r.debug with _ | _
  · simp only [finish, hdebug, Bool.false_eq_true, if_false]
    rcases exit_runSession hdebug h with hexit | ⟨hfuel, hexit⟩ <;> rw [hexit]
    · exact .zero
    · exact .outOfFuel hdebug hsession hfuel
  · simp only [finish, hdebug, if_true]
    rw [exit_debugSession hdebug h]
    exact .zero

end Executions

/-! ### The whole program -/

/-- **The failures of what a program is given are contained**, flaws apart. -/
structure Contained [Memory] (fuel : Nat) (words : List String) (around : Surroundings)
    (r : Request) : Prop where
  /-- Without a failure, the program ends with status 0, if it ends. -/
  succeeded : r.failure? fuel around = none →
    r.Succeeded fuel around (CommandLine.run fuel around words).exit
  /-- A failure is told, or it is a flaw. -/
  failed : ∀ f, r.failure? fuel around = some f →
    r.Handled around f (CommandLine.run fuel around words)
  /-- If there is no flaw, the program ends with status 0 or 1, if it ends. -/
  returned : (∀ f, ¬r.Flaw around f) → (CommandLine.run fuel around words).exit ≠ .outOfFuel →
    (CommandLine.run fuel around words).exit = .status 0 ∨
      (CommandLine.run fuel around words).exit = .status 1

section Contained

variable [Memory] {r : Request} {around : Surroundings} {words : List String}

/-- What is done, once the program is read. -/
theorem run_of_source? {source : Value} (hdemo : r.demo = false) (hprogram : r.HasProgram)
    (hsource : r.source? around = .ok source) (fuel : Nat) :
    r.run fuel around = r.finish fuel (r.session? around) := by
  rw [run_of_names hdemo (names_of_source? hprogram hsource), session?,
    config?_of_source? hsource]
  rcases hb : r.builder around source with f | b
  · rw [runSource, hb]
    rfl
  · exact runSource_of_builder hb fuel

/-- The session that is asked for is the one that its configuration describes, and has bytes to
read. -/
theorem exists_session? {source : Value} {s : Session} (hwords : r.OfWords)
    (hsource : r.source? around = .ok source) (hs : r.session? around = .ok s) :
    ∃ (c : Config) (cap : Option Cap) (input : Source) (output : Sink),
      s = c.sessionWith cap input output ∧ s.input.Coded := by
  obtain ⟨c, hc, hs⟩ := exists_of_bind hs
  have hinput := input_of_config? hsource hc
  rw [config?_of_source? hsource] at hc
  obtain ⟨b, -, hconfig⟩ := exists_of_bind hc
  obtain ⟨input, htoSource, rfl⟩ := exists_sessionFor hconfig hs
  refine ⟨c, _, input, _, rfl, ?_⟩
  rw [Config.input_sessionWith]
  -- a command line names no source, so that the only one is the standard input
  refine Input.coded_of_toSource htoSource fun t ht => ?_
  rw [hinput] at ht
  rcases hnamed : r.options.input with _ | i <;> rw [hnamed] at ht
  · cases ht
    exact Source.coded_stream around.input
  · obtain ⟨text, rfl⟩ := hwords.input i hnamed
    cases ht

theorem contained_of_none {fuel : Nat} (hfailure : r.failure? fuel around = none)
    (h : r.Succeeded fuel around (CommandLine.run fuel around words).exit) :
    r.Contained fuel words around := by
  refine ⟨fun _ => h, fun f hf => ?_, fun _ hends => ?_⟩
  · cases hfailure.symm.trans hf
  · generalize (CommandLine.run fuel around words).exit = exit at h hends ⊢
    cases h with
    | zero => exact Or.inl rfl
    | outOfFuel => exact absurd rfl hends

theorem contained_of_some {fuel : Nat} {f : Failure} (hfailure : r.failure? fuel around = some f)
    (h : r.Handled around f (CommandLine.run fuel around words)) :
    r.Contained fuel words around := by
  refine ⟨fun hnone => ?_, fun g hg => ?_, fun hflaw _ => ?_⟩
  · cases hfailure.symm.trans hnone
  · cases hfailure.symm.trans hg
    exact h
  · cases h with
    | told _ htold => exact Or.inr htold.exit
    | stopped _ hf => exact absurd hf (hflaw f)

/-- **No failure escapes the program**, flaws apart: for the words of every command line that names
a program, and in all surroundings. -/
theorem contained_run (h : ofTexts words = .ok r) (hprogram : r.HasProgram)
    (around : Surroundings) (fuel : Nat) : r.Contained fuel words around := by
  have hrun : CommandLine.run fuel around words = r.run fuel around := by
    rw [CommandLine.run, h]
  have hwords := ofWords_of_ofTexts h
  rcases hdemo : r.demo with _ | _
  · rcases hsource : r.source? around with f | source
    -- the program cannot be read
    · have hfailure : r.failure? fuel around = some f := by
        simp only [failure?, session?, config?, hdemo, hsource]
        rfl
      refine contained_of_some hfailure ?_
      rw [hrun]
      exact handled_of_source?_error hdemo hprogram hsource fuel
    have hfinish := hrun.trans (run_of_source? hdemo hprogram hsource fuel)
    rcases hsession : r.session? around with f | s
    -- there is no session
    · have hfailure : r.failure? fuel around = some f := by
        rw [failure?, hdemo, hsession]
        rfl
      have hflaw : f.isReported = true ∨ r.Flaw around f := by
        rcases exists_of_bind_error hsession with hconfig | ⟨c, hc, hs⟩
        · exact flaw_of_config?_error hwords (unknown_of_ofTexts h) hsource
            (names_of_source? hprogram hsource) hconfig
        · exact Or.inr (flaw_of_sessionFor_error hwords hsource hc hs)
      refine contained_of_some hfailure ?_
      rw [hfinish, hsession]
      exact handled_ofFailure hflaw _ _
    -- there is a session
    · have hfailure : r.failure? fuel around = r.sessionFailure? fuel s := by
        rw [failure?, hdemo, hsession]
        rfl
      obtain ⟨c, cap, input, output, hs, hcoded⟩ := exists_session? hwords hsource hsession
      rw [hsession] at hfinish
      rcases hdone : r.sessionFailure? fuel s with _ | f
      · refine contained_of_none (hfailure.trans hdone) ?_
        rw [hfinish]
        exact succeeded_finish hsession hdone
      · refine contained_of_some (hfailure.trans hdone) ?_
        rw [hfinish]
        exact handled_finish hs hcoded hdone
  -- the demonstration
  · refine contained_of_none (by rw [failure?, hdemo]; rfl) ?_
    rw [hrun, run, hdemo]
    exact .zero

end Contained

section Usual

attribute [local instance] Memory.usual

/-- A program that reads more than it is given, with nothing else wrong. -/
theorem contained_run_endOfInput :
    ∃ r, ofTexts ["-e", ",,", "--input=a", "--eof=error"] = .ok r ∧ r.HasProgram ∧
      (∀ f, ¬r.Flaw ⟨fun _ => .error .missing, Yaml.valueOfText, [], []⟩ f) ∧
      r.Contained 9 ["-e", ",,", "--input=a", "--eof=error"]
        ⟨fun _ => .error .missing, Yaml.valueOfText, [], []⟩ := by
  have hwords : ofTexts ["-e", ",,", "--input=a", "--eof=error"] =
      .ok { empty with options := { Arguments.empty with
        source := some (.text ",,"), input := some (.data (.value (.text "a"))),
        eof := some (.text "error") } } := by
    rfl
  refine ⟨_, hwords, Or.inl nofun, fun f hflaw => ?_,
    contained_run hwords (Or.inl nofun) ⟨fun _ => .error .missing, Yaml.valueOfText, [], []⟩ 9⟩
  cases hflaw with
  | program h => cases h
  | config h | document h | settings h => exact h rfl
  | length hsettings hendless =>
    cases hsettings
    cases hendless.length
    exact absurd hendless.nonpos (by decide)
  | wide h hc hwide =>
    cases h
    obtain rfl := List.mem_singleton.mp hc
    exact absurd hwide (by decide)
  | separator h => cases h
  | tape hc hblank =>
    cases hc
    have hroom : Memory.refusal? .standard = none := by decide
    cases (Tape.blank?_of_room hroom).symm.trans hblank
  | steps hdebug => cases hdebug

end Usual

/-! ### What escapes -/

/-- **A failure escapes**: a request that names a program is stopped. -/
def Escapes [Memory] (fuel : Nat) (words : List String) (around : Surroundings) : Prop :=
  ∃ r f, ofTexts words = .ok r ∧ r.HasProgram ∧
    (CommandLine.run fuel around words).exit = .stopped f

theorem escapes_of_isStopped [Memory] {r : Request} {fuel : Nat} {words : List String}
    {around : Surroundings} (h : ofTexts words = .ok r) (hprogram : r.HasProgram)
    (hstopped : (CommandLine.run fuel around words).exit.isStopped = true) :
    Escapes fuel words around := by
  rcases hexit : (CommandLine.run fuel around words).exit with code | f | _ <;>
    rw [hexit] at hstopped
  · cases hstopped
  · exact ⟨r, f, h, hprogram, hexit⟩
  · cases hstopped

section Usual

attribute [local instance] Memory.usual

/-- **Flaws do stop the program**: an input with a character beyond the codes of one byte, and files
of settings that hold no document, a key that is no text, an infinite number, and a length that
cannot be written. And nothing is told on the standard error about an empty program in the
debugger. -/
theorem escapes_flawed :
    Escapes 9 ["-e", ",", "--input=Ā"] (.holding "") ∧
      Escapes 9 ["-e", "+", "--config=c"] (.holding "a: [") ∧
      Escapes 9 ["-e", "+", "--config=c"] (.holding "1: 2") ∧
      Escapes 9 ["-e", "+", "--config=c"] (.holding "tape_length: .inf") ∧
      Escapes 9 ["-e", "+", "--config=c"] .endless ∧
      (CommandLine.run 9 (.holding "") ["-e", "", "--optimize", "--debug"]).exit = .status 1 ∧
      (CommandLine.run 9 (.holding "") ["-e", "", "--optimize", "--debug"]).messages = "" := by
  have hinput : ofTexts ["-e", ",", "--input=Ā"] = .ok { empty with options :=
      { Arguments.empty with
        source := some (.text ","), input := some (.data (.value (.text "Ā"))) } } := by
    rfl
  have hconfig : ofTexts ["-e", "+", "--config=c"] = .ok { empty with
      options := { Arguments.empty with source := some (.text "+") }, config := "c" } := by
    rfl
  refine ⟨?_, ?_, ?_, ?_, ?_, ?_, ?_⟩
  · exact escapes_of_isStopped hinput (Or.inl nofun) (by decide +kernel)
  · exact escapes_of_isStopped hconfig (Or.inl nofun) (by decide +kernel)
  · exact escapes_of_isStopped hconfig (Or.inl nofun) (by decide +kernel)
  · exact escapes_of_isStopped hconfig (Or.inl nofun) (by decide +kernel)
  · refine escapes_of_isStopped hconfig (Or.inl nofun) ?_
    rw [run_endless hconfig rfl rfl rfl rfl rfl 9]
    rfl
  · rfl
  · rfl

end Usual

end Request

end CommandLine

end Brainfuck
