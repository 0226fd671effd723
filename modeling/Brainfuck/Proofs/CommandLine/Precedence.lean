import Brainfuck.Proofs.CommandLine.Request
import Brainfuck.Proofs.Settings

/-!
# Where the options of a session come from

Four options of a session can be set in four places. The value in effect
(`Brainfuck.CommandLine.Request.value`) is that of the command line, or else that of the file of
settings, or else that of the environment, or else the standard one. What the program does is what
is done with the configuration that these values make, whichever way they have come and whatever
reader the file is read with (`Brainfuck.CommandLine.Request.layered_run`).

A place that gives no value is not the same as one that gives the value that there is none: the
latter takes away the bound that a lower layer sets. And a variable that cannot be read is no value
either. It ends the program, although a higher layer may give the option a value that would have
been used in its stead.
-/

namespace Brainfuck

namespace CommandLine

/-- The environment with its texts as values. -/
def Surroundings.variables (around : Surroundings) : List (String × Value) :=
  around.environment.map fun (name, text) => (name, .text text)

theorem Surroundings.lookup_variables (around : Surroundings) (name : String) :
    around.variables.lookup name = (around.environment.lookup name).map .text :=
  lookup_mapSnd around.environment Value.text name

namespace Request

/-! ### What a request finds -/

/-- **The settings** in the file that a request names: none if it names no file or the document has
no value. -/
inductive Document (r : Request) (around : Surroundings) : List (Value × Value) → Prop
  /-- No file is named. -/
  | unnamed : r.config = "" → Document r around []
  /-- The document has no value. -/
  | blank {text : String} : r.config ≠ "" → (around.file r.config).read? r.config = .ok text →
    around.reader text = .ok .null → Document r around []
  /-- The document is a mapping. -/
  | mapping {text : String} {entries : List (Value × Value)} : r.config ≠ "" →
    (around.file r.config).read? r.config = .ok text →
    around.reader text = .ok (.mapping entries) → Document r around entries

/-- **The value in effect for an option**: that of the command line if there is one, or else that of
the file, or else that of the environment, or else the standard one. -/
def value (r : Request) (around : Surroundings) (entries : List (Value × Value))
    (option : Setting) : Value :=
  (r.options.setting? option <|>
    (given? entries option).bind option.read? <|>
    (around.environment.lookup option.environmentName).bind fun text =>
      option.read? (.text text)).getD option.standard

/-- **The options in effect.** -/
def chosen (r : Request) (around : Surroundings) (entries : List (Value × Value))
    (source : Value) : Arguments where
  source := some source
  tapeLength := some (r.value around entries .tapeLength)
  optimize := some (r.value around entries .optimize)
  maxIterations := some (r.value around entries .maxIterations)
  input := some (r.options.input.getD (.source (.stream around.input)))
  output := none
  eof := some (r.value around entries .eof)
  unknown := []

/-! ### What is done with a configuration -/

/-- **The session for a configuration.** That for the debugger collects its output and has no bound
on its steps, and is the same in all other respects. -/
def sessionFor [Memory] (r : Request) (c : Config) : Except Failure Session :=
  if r.debug then
    (Config.build { c with output := .sink (.buffer #[]) }).map fun s => { s with cap := none }
  else Config.build { c with output := .sink (.stream #[]) }

/-- What is done with a session, or with the reason why there is none. -/
def finish (fuel : Nat) (r : Request) : Except Failure Session → Outcome
  | .error f => .ofFailure f #[] ""
  | .ok s => if r.debug then r.debugSession s else r.runSession fuel s

section Builder

variable {r : Request} {around : Surroundings} {source : Value} {settings upper lower : Settings}
  {entries : List (Value × Value)} {words : List String}

/-! ### The layers -/

/-- The settings of the file that a request names. -/
def fileSettings (r : Request) (around : Surroundings) : Except Failure Settings :=
  if r.config = "" then .ok .empty
  else Settings.ofFile around.reader r.config (around.file r.config)

theorem settings_eq (r : Request) (around : Surroundings) :
    r.settings around = (do
      let lower ← Settings.ofEnvironment around.variables
      let upper ← r.fileSettings around
      return upper.onto lower) := by
  rw [settings, fileSettings]
  refine bind_congr fun lower => ?_
  split <;> rfl

theorem Document.fileSettings (h : r.Document around entries) :
    r.fileSettings around = Settings.ofValue (.mapping entries) := by
  rw [Request.fileSettings]
  cases h with
  | unnamed hname =>
    rw [if_pos hname]
    rfl
  | blank hname hread hvalue =>
    rw [if_neg hname, Settings.ofFile, hread]
    change Settings.ofDocument _ _ = _
    rw [Settings.ofDocument, hvalue]
    rfl
  | mapping hname hread hvalue =>
    rw [if_neg hname, Settings.ofFile, hread]
    change Settings.ofDocument _ _ = _
    rw [Settings.ofDocument, hvalue]
    rfl

theorem settings_of_document (h : r.Document around entries)
    (hupper : Settings.ofValue (.mapping entries) = .ok upper)
    (hlower : Settings.ofEnvironment around.variables = .ok lower) :
    r.settings around = .ok (upper.onto lower) := by
  rw [settings_eq, hlower, h.fileSettings, hupper]
  rfl

/-- **The value of an option under the settings** is the value in effect. -/
theorem setting_onto (hupper : Settings.ofValue (.mapping entries) = .ok upper)
    (hlower : Settings.ofEnvironment around.variables = .ok lower) (option : Setting) :
    (r.options.onto (upper.onto lower).arguments).setting option =
      r.value around entries option := by
  rw [Arguments.setting, Arguments.setting?_onto, Settings.setting?_layers,
    Settings.setting?_ofValue hupper, Settings.setting?_ofEnvironment hlower,
    Surroundings.lookup_variables, Option.bind_map]
  rfl

/-! ### The session -/

/-- **It makes the same configuration as the options in effect.** -/
theorem exists_builder_of_chosen (hsettings : r.settings around = .ok settings)
    (hunknown : r.options.unknown = []) (houtput : r.options.output = none)
    {commands : List Command} (hsource : commandsOfValue source = .ok commands)
    (hvalue : ∀ option, (r.options.onto settings.arguments).setting option =
      r.value around entries option) :
    ∃ b, r.builder around source = .ok b ∧
      b.config = Config.ofArguments (r.chosen around entries source) := by
  have hnames : r.options.unknown ++ settings.arguments.unknown = [] := by
    rw [hunknown]
    rfl
  refine ⟨_, builder_of_settings hsettings hsource, ?_⟩
  refine Config.ofArguments_congr ?_ ?_ (congrArg TapeLength.ofValue (hvalue .tapeLength))
    (hvalue .optimize) (congrArg Config.boundOfValue (hvalue .maxIterations)) rfl ?_
    (congrArg EndMode.ofValue (hvalue .eof))
  · exact (Arguments.checkNames_of_unknown hnames).trans (Arguments.checkNames_of_unknown rfl).symm
  · exact (commandsOfValue_toText commands).trans hsource.symm
  · exact congrArg (fun o => (o <|> settings.arguments.output).getD Output.none) houtput

end Builder

section Finish

variable [Memory] {r : Request} {around : Surroundings} {source : Value} {b : Builder}

/-- The session for the debugger is that of the configuration without its bound. -/
theorem debuggedSession_eq (hdebug : r.debug = true) (b : Builder) :
    debuggedSession b = (do r.sessionFor (← b.config)) := by
  refine bind_congr fun c => ?_
  obtain ⟨cap, hcap⟩ := Config.exists_cap_of_bound c.maxIterations
  rw [sessionFor, if_pos hdebug]
  exact Session.ofArguments_uncapped
    (a := Config.arguments { c with output := .sink (.buffer #[]) }) hcap

/-- The session without the debugger is that of the configuration. -/
theorem build_eq (hdebug : r.debug = false) (b : Builder) :
    (b.output (.sink (.stream #[]))).build = (do r.sessionFor (← b.config)) := by
  have hconfig : (b.output (.sink (.stream #[]))).config =
      b.config.map fun c => { c with output := .sink (.stream #[]) } :=
    Config.ofArguments_output b.arguments (.sink (.stream #[]))
  rw [Builder.build, hconfig]
  rcases b.config with f | c
  · rfl
  · simp only [sessionFor, hdebug, bind, Except.bind, Except.map, Bool.false_eq_true, if_false]

/-- **All that is done with a builder** is done with its configuration. -/
theorem runSource_of_builder (hb : r.builder around source = .ok b) (fuel : Nat) :
    r.runSource fuel around source = r.finish fuel (do r.sessionFor (← b.config)) := by
  rcases hdebug : r.debug with _ | _
  · rw [runSource, hb, ← build_eq hdebug b]
    simp only [hdebug, Bool.false_eq_true, if_false]
    rcases (b.output (.sink (.stream #[]))).build with f | s
    · rfl
    · simp only [finish, hdebug, Bool.false_eq_true, if_false]
  · rw [runSource, hb, ← debuggedSession_eq hdebug b]
    simp only [hdebug, if_true]
    rcases debuggedSession b with f | s
    · rfl
    · simp only [finish, hdebug, if_true]

end Finish

/-! ### The precedence -/

/-- **A bound that is overridden**: by a number that is not positive on the command line, or by no
value in the file. -/
inductive Unbounded (r : Request) (entries : List (Value × Value)) : Prop
  /-- A number that is not positive. -/
  | named {n : Int} : r.options.maxIterations = some (.int n) → n ≤ 0 → Unbounded r entries
  /-- No value. -/
  | null : r.options.maxIterations = none → given? entries .maxIterations = some .null →
    Unbounded r entries

/-- **The precedence** of the places that options come from, for a request with a program. -/
structure Layered [Memory] (fuel : Nat) (words : List String) (around : Surroundings) (r : Request)
    (source : Value) : Prop where
  /-- If the document and all variables can be read, what is done is what is done with the
  configuration that the options in effect make. -/
  configured : ∀ entries, r.Document around entries →
    (∃ settings, Settings.ofValue (.mapping entries) = .ok settings) →
    (∀ (option : Setting) text, around.environment.lookup option.environmentName = some text →
      ∃ v, option.read (.text text) = .ok v) →
    CommandLine.run fuel around words =
      r.finish fuel (do r.sessionFor (← Config.ofArguments (r.chosen around entries source)))
  /-- The session has what the configuration says. For the debugger it has no bound. -/
  made : ∀ entries c s, Config.ofArguments (r.chosen around entries source) = .ok c →
    r.sessionFor c = .ok s → ∃ input, c.input.toSource = .ok input ∧
      s = c.sessionWith (if r.debug then none else c.cap) input
        (if r.debug then .buffer #[] else .stream #[])
  /-- A bound that is overridden is none. -/
  unbounded : ∀ entries c, Config.ofArguments (r.chosen around entries source) = .ok c →
    r.Unbounded entries → c.maxIterations = none
  /-- A variable that cannot be read ends the program with status 1 and the reason, or with that of
  another such variable. -/
  refused : ∀ (option : Setting) text f,
    around.environment.lookup option.environmentName = some text →
    option.read (.text text) = .error f →
    ∃ (option' : Setting) (text' : String) (e : OptionError),
      around.environment.lookup option'.environmentName = some text' ∧
      option'.read (.text text') = .error (.option e) ∧
      CommandLine.run fuel around words =
        ⟨.status 1, #[], Text.line (Debugger.errorMark ++ e.message)⟩
  /-- No other variable matters. -/
  others : ∀ around' : Surroundings, around'.file = around.file →
    around'.reader = around.reader → around'.input = around.input →
    (∀ option : Setting, around'.environment.lookup option.environmentName =
      around.environment.lookup option.environmentName) →
    CommandLine.run fuel around' words = CommandLine.run fuel around words

section Layered

variable {r : Request} {around : Surroundings} {source : Value} {words : List String}
  {entries : List (Value × Value)} {f : Failure} {c : Config}

/-- What cannot be read in a variable is reported. -/
theorem exists_of_variables_error (h : Settings.ofEnvironment around.variables = .error f) :
    ∃ (option : Setting) (text : String) (e : OptionError),
      around.environment.lookup option.environmentName = some text ∧
      option.read (.text text) = .error (.option e) ∧ f = .option e := by
  obtain ⟨option, v, hv, hread⟩ := Settings.exists_of_ofEnvironment_error h
  rw [Surroundings.lookup_variables] at hv
  obtain ⟨text, htext, rfl⟩ := Option.map_eq_some_iff.mp hv
  obtain rfl := Setting.eq_of_read_text_error hread
  exact ⟨option, text, option.refusal (Text.quoted text), htext, hread, rfl⟩

theorem runSource_of_settings_error [Memory] (h : r.settings around = .error f) (fuel : Nat) :
    r.runSource fuel around source = .ofFailure f #[] "" := by
  rw [runSource, builder, h]
  rfl

/-- A bound that is overridden is none. -/
theorem maxIterations_of_unbounded
    (hc : Config.ofArguments (r.chosen around entries source) = .ok c)
    (h : r.Unbounded entries) : c.maxIterations = none := by
  have hbound : Config.boundOfValue (r.value around entries .maxIterations) = .ok c.maxIterations :=
    (Config.checked_of_ok hc).maxIterations
  cases h with
  | @named n hn hle =>
    have hvalue : r.value around entries .maxIterations = .int n := by
      simp only [value, Arguments.setting?, hn]
      rfl
    rw [hvalue, Config.boundOfValue, if_neg (by omega), Except.ok.injEq] at hbound
    exact hbound.symm
  | null hnone hnull =>
    have hvalue : r.value around entries .maxIterations = .null := by
      simp only [value, Arguments.setting?, hnone, hnull]
      rfl
    rw [hvalue, Config.boundOfValue, Except.ok.injEq] at hbound
    exact hbound.symm

/-- What is done depends on the four variables only. -/
theorem run_congr [Memory] {around' : Surroundings} (hfile : around'.file = around.file)
    (hreader : around'.reader = around.reader) (hinput : around'.input = around.input)
    (henvironment : ∀ option : Setting, around'.environment.lookup option.environmentName =
      around.environment.lookup option.environmentName) (fuel : Nat) (r : Request) :
    r.run fuel around' = r.run fuel around := by
  have hlower : Settings.ofEnvironment around'.variables =
      Settings.ofEnvironment around.variables := by
    refine Settings.ofEnvironment_congr fun option => ?_
    rw [Surroundings.lookup_variables, Surroundings.lookup_variables, henvironment]
  have hsettings : r.settings around' = r.settings around := by
    rw [settings_eq, settings_eq, hlower, fileSettings, fileSettings, hfile, hreader]
  have hsource : ∀ source, r.runSource fuel around' source = r.runSource fuel around source := by
    intro source
    rw [runSource, runSource, builder, builder, hsettings, hinput]
  rw [run, run, hfile]
  simp only [hsource]

/-- **The session has what the configuration says**, and for the debugger no bound. -/
theorem exists_sessionFor [Memory] {a : Arguments} {s : Session} (hc : Config.ofArguments a = .ok c)
    (hs : r.sessionFor c = .ok s) : ∃ input, c.input.toSource = .ok input ∧
      s = c.sessionWith (if r.debug then none else c.cap) input
        (if r.debug then .buffer #[] else .stream #[]) := by
  have hchecked := Config.checked_of_ok hc
  rw [sessionFor] at hs
  split at hs
  next hdebug =>
    rcases hbuild : Config.build { c with output := .sink (.buffer #[]) } with f | u <;>
      rw [hbuild] at hs <;> cases hs
    obtain ⟨input, hinput, rfl⟩ := hchecked.exists_sessionWith hbuild
    refine ⟨input, hinput, ?_⟩
    rw [if_pos hdebug, if_pos hdebug]
    exact (Session.load_cap (.idle (.blank c.tapeLength) c.cap input (.buffer #[]) c.eof) c.source
      c.optimize none).symm
  next hdebug =>
    obtain ⟨input, hinput, rfl⟩ := hchecked.exists_sessionWith hs
    exact ⟨input, hinput, by rw [if_neg hdebug, if_neg hdebug]⟩

/-- **The options of a session have one precedence**: for the words of every command line that does
not ask for the demonstration and names a program that can be read, and in all surroundings. -/
theorem layered_run [Memory] (h : ofTexts words = .ok r) (hdemo : r.demo = false)
    (hsource : r.Names around source) (fuel : Nat) : r.Layered fuel words around source := by
  have hrun : ∀ around, CommandLine.run fuel around words = r.run fuel around := by
    intro around
    rw [CommandLine.run, h]
  have hwords := ofWords_of_ofTexts h
  refine ⟨?_, ?_, ?_, ?_, ?_⟩
  · rintro entries hdocument ⟨upper, hupper⟩ hvariables
    -- all variables can be read, so that the environment is not refused
    obtain ⟨lower, hlower⟩ : ∃ lower, Settings.ofEnvironment around.variables = .ok lower := by
      rcases hlower : Settings.ofEnvironment around.variables with f | lower
      · obtain ⟨option, text, e, htext, hread, -⟩ := exists_of_variables_error hlower
        obtain ⟨v, hv⟩ := hvariables option text htext
        cases hv.symm.trans hread
      · exact ⟨lower, rfl⟩
    obtain ⟨commands, hcommands⟩ := hsource.exists_commands hwords
    obtain ⟨b, hb, hconfig⟩ := exists_builder_of_chosen
      (settings_of_document hdocument hupper hlower) (unknown_of_ofTexts h) hwords.output hcommands
      (setting_onto hupper hlower)
    rw [hrun, run_of_names hdemo hsource, runSource_of_builder hb, hconfig]
  · exact fun entries c s hc hs => exists_sessionFor hc hs
  · exact fun entries c hc hnone => maxIterations_of_unbounded hc hnone
  · intro option text f htext hread
    have hv : around.variables.lookup option.environmentName = some (.text text) := by
      rw [Surroundings.lookup_variables, htext, Option.map_some]
    obtain ⟨g, hlower⟩ := Settings.exists_ofEnvironment_error hv hread
    obtain ⟨option', text', e, htext', hread', rfl⟩ := exists_of_variables_error hlower
    have hsettings : r.settings around = .error (.option e) := by
      rw [settings_eq, hlower]
      rfl
    refine ⟨option', text', e, htext', hread', ?_⟩
    rw [hrun, run_of_names hdemo hsource, runSource_of_settings_error hsettings]
    rfl
  · intro around' hfile hreader hinput henvironment
    rw [hrun, hrun, run_congr hfile hreader hinput henvironment]

section Usual

attribute [local instance] Memory.usual

/-- The command line takes the bound away that a variable sets, and another variable says what to do
at the end of the input. -/
theorem layered_run_unbounded :
    ∃ r, ofTexts ["-e", "+[,.]", "--max-iterations=-1"] = .ok r ∧ r.demo = false ∧
      Names r ⟨fun _ => .error .missing, Yaml.valueOfText,
        [("BF_MAX_ITERATIONS", " 2 "), ("BF_EOF", "Zero"), ("HOME", "x")], [65]⟩ (.text "+[,.]") ∧
      r.Layered 9 ["-e", "+[,.]", "--max-iterations=-1"]
        ⟨fun _ => .error .missing, Yaml.valueOfText,
          [("BF_MAX_ITERATIONS", " 2 "), ("BF_EOF", "Zero"), ("HOME", "x")], [65]⟩
        (.text "+[,.]") := by
  have hwords : ofTexts ["-e", "+[,.]", "--max-iterations=-1"] =
      .ok { empty with options := { Arguments.empty with
        source := some (.text "+[,.]"), maxIterations := some (.int (-1)) } } := by
    rfl
  refine ⟨_, hwords, rfl, .named rfl, ?_⟩
  exact layered_run hwords rfl (.named rfl) 9

/-- No value in the file takes away the bound that a variable sets. -/
example : (CommandLine.run 9 ⟨fun _ => .ok "max_iterations:".toUTF8.data.toList,
      Yaml.valueOfText, [("BF_MAX_ITERATIONS", "2")], []⟩
      ["-e", "+++++", "--config=c", "--stats"]).messages =
    "Iterations: 5\n" := by
  decide +kernel

end Usual

end Layered

end Request

end CommandLine

end Brainfuck
