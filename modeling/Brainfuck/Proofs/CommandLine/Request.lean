import Brainfuck.CommandLine
import Brainfuck.Proofs.Config
import Brainfuck.Yaml

/-!
# What a command line can ask for

A request is made of the empty one by switches and by the name of a program. So whatever holds of
the empty request and of all that a switch makes of a request of which it holds
(`Brainfuck.CommandLine.Request.Kept`) holds of the request of every command line; that no option is
named that does not exist is one such thing.

The options of the session that a request asks for are its own, laid over the settings that it is
found under (`Brainfuck.CommandLine.Request.effective`).
-/

namespace Brainfuck

/-- A builder for a program text without its comments makes the session that is asked for with the
comments, if a configuration accepts the options. -/
theorem Builder.build_of_strip [Memory] {a : Arguments} {code : String}
    (hsource : a.source = some (.text code)) (sink : Sink) :
    (Builder.output ⟨{ a with source := some (.text (Command.toText (Command.ofText code))) }⟩
        (.sink sink)).build = (do
      let _ ← Config.ofArguments a
      Session.ofArguments { a.bounded with output := some (.sink sink) }) := by
  have hconfig := Config.ofArguments_strip hsource (.sink sink)
  rw [build, config, output, hconfig]
  rcases hc : Config.ofArguments a with f | c
  · rfl
  · exact (Config.checked_of_ok hc).build sink

/-- A file that holds the code of a text can be read. -/
theorem FileEntry.read?_toUTF8 {name : String} (hname : '\x00' ∉ name.toList) (text : String) :
    FileEntry.read? name (.ok text.toUTF8.data.toList) = .ok text := by
  have hopen : FileEntry.open? name (.ok text.toUTF8.data.toList) = .ok text.toUTF8.data.toList :=
    if_neg hname
  have hvalid : (⟨text.toUTF8.data.toList.toArray⟩ : ByteArray).IsValidUTF8 := text.isValidUTF8
  have htext : String.fromUTF8? ⟨text.toUTF8.data.toList.toArray⟩ = some text := by
    rw [String.fromUTF8?, dif_pos hvalid]
    rfl
  simp only [read?, hopen, bind, Except.bind, htext]
  rfl

namespace CommandLine

/-- Surroundings in which every file holds the same text, which is read as a document is. -/
def Surroundings.holding (text : String) : Surroundings :=
  ⟨fun _ => .ok text.toUTF8.data.toList, Yaml.valueOfText, [], []⟩

/-- Surroundings in which every file asks for a length that is not positive. It has 3600 digits to
the base of sixteen, and the reader gives its value. -/
def Surroundings.endless : Surroundings where
  file _ := .ok ("tape_length: -0x" ++ String.ofList (List.replicate 3600 'f')).toUTF8.data.toList
  reader _ := .ok (.mapping [(.text "tape_length", .int (1 - Int.pow 16 3600))])
  environment := []
  input := []

namespace Request

/-! ### What all words keep -/

/-- **What stays true of a request** whatever a word adds to it. -/
structure Kept (P : Request → Prop) : Prop where
  /-- The name of a program. -/
  program : ∀ {r : Request} (name : String), P r → P { r with program := some name }
  /-- A flag. -/
  raise : ∀ {r r' : Request} {s : Switch}, r.raise s = .ok r' → P r → P r'
  /-- A switch with its value. -/
  put : ∀ {r r' : Request} {s : Switch} {text : String}, r.put s text = .ok r' → P r → P r'

section Kept

variable {P : Request → Prop} {r r' : Request}

theorem Kept.raiseAll (hP : Kept P) {flags : List Switch}
    (h : flags.foldlM Request.raise r = .ok r') (hr : P r) : P r' := by
  induction flags generalizing r with
  | nil =>
    cases h
    exact hr
  | cons s flags ih =>
    rw [List.foldlM_cons] at h
    obtain ⟨q, hq, h⟩ := exists_of_bind h
    exact ih h (hP.raise hq hr)

theorem Kept.pull (hP : Kept P) {flags : List Switch} {last : Switch} {value : String}
    (h : r.pull flags last value = .ok r') (hr : P r) : P r' := by
  obtain ⟨q, hq, h⟩ := exists_of_bind h
  exact hP.put h (hP.raiseAll hq hr)

/-- The switches of a word keep it. -/
theorem Kept.heed (hP : Kept P) {word : Cluster} {next : Option String} {used : Bool}
    (h : r.heed word next = .ok (r', used)) (hr : P r) : P r' := by
  rw [Request.heed.eq_def] at h
  split at h
  · split at h
    · obtain ⟨q, hq, h⟩ := exists_of_bind h
      cases h
      exact hP.pull hq hr
    · obtain ⟨q, hq, h⟩ := exists_of_bind h
      cases h
      exact hP.pull hq hr
    · cases h
  · obtain ⟨q, hq, h⟩ := exists_of_bind h
    obtain ⟨q', hq', h⟩ := exists_of_bind h
    cases h
    exact hP.raise hq' (hP.raiseAll hq hr)

theorem exists_of_leave {text : String} {result : Except Stop (Request × List String)}
    {extra : List String} (h : follow.leave text result = .ok (r', extra)) :
    ∃ texts, result = .ok (r', texts) := by
  rcases result with e | ⟨q, texts⟩
  · cases h
  · cases h
    exact ⟨texts, rfl⟩

/-- **All words keep it.** -/
theorem Kept.follow (hP : Kept P) {words : List Word} {extra : List String}
    (h : r.follow words = .ok (r', extra)) (hr : P r) : P r' := by
  fun_induction Request.follow r words generalizing extra
  case case1 =>
    cases h
    exact hr
  -- a plain word names the program if there is none yet, and takes a separator behind it along
  case case2 ih => exact ih h (hP.program _ hr)
  case case3 ih =>
    obtain ⟨texts, h⟩ := exists_of_leave h
    obtain ⟨texts, h⟩ := exists_of_leave h
    exact ih h hr
  case case4 ih => exact ih h (hP.program _ hr)
  case case5 ih =>
    obtain ⟨texts, h⟩ := exists_of_leave h
    exact ih h hr
  -- a separator by itself, and a switch that nobody knows
  case case6 ih => exact ih h hr
  case case7 ih =>
    obtain ⟨texts, h⟩ := exists_of_leave h
    exact ih h hr
  case case8 ih =>
    obtain ⟨texts, h⟩ := exists_of_leave h
    exact ih h hr
  -- a switch: the plain word behind it is its value or the next word to follow
  case case9 ih ih' =>
    obtain ⟨word, -, h⟩ := exists_of_bind h
    obtain ⟨⟨q, used⟩, hq, h⟩ := exists_of_bind h
    dsimp only at h
    split at h
    · exact ih q h (hP.heed hq hr)
    · exact ih' q h (hP.heed hq hr)
  case case10 ih =>
    obtain ⟨word, -, h⟩ := exists_of_bind h
    obtain ⟨⟨q, used⟩, hq, h⟩ := exists_of_bind h
    exact ih q h (hP.heed hq hr)

/-- **What holds of the empty request and is kept holds of every request.** -/
theorem Kept.ofTexts (hP : Kept P) {texts : List String} (h : Request.ofTexts texts = .ok r)
    (hempty : P empty) : P r := by
  obtain ⟨words, -, h⟩ := exists_of_bind h
  obtain ⟨⟨q, extra⟩, hq, h⟩ := exists_of_bind h
  dsimp only at h
  split at h
  · cases h
    exact hP.follow hq hempty
  · cases h

end Kept

/-! ### Options that do not exist -/

section Unknown

variable {r r' : Request}

theorem unknown_raise {s : Switch} (h : r.raise s = .ok r') :
    r'.options.unknown = r.options.unknown := by
  cases s <;> cases h <;> rfl

theorem unknown_put {s : Switch} {text : String} (h : r.put s text = .ok r') :
    r'.options.unknown = r.options.unknown := by
  cases s with
  | tapeLength | maxIterations | debugSteps | eof =>
    obtain ⟨v, -, h⟩ := exists_of_bind h
    cases h
    rfl
  | eval | input | config | help | optimize | stats | debug | demo | verbose =>
    cases h
    rfl

/-- **No command line names an option that does not exist.** -/
theorem unknown_of_ofTexts {texts : List String} (h : ofTexts texts = .ok r) :
    r.options.unknown = [] := by
  have hkept : Kept fun r => r.options.unknown = [] :=
    ⟨fun _ h => h, fun h => (unknown_raise h).trans, fun h => (unknown_put h).trans⟩
  exact hkept.ofTexts h rfl

end Unknown

/-! ### Texts from a command line -/

section Texts

variable {r r' : Request}

/-- A whole number or an empty list: the value of a numeral or of the separator. -/
inductive Numeric : Value → Prop
  /-- A whole number. -/
  | int (n : Int) : Numeric (.int n)
  /-- An empty list. -/
  | nil : Numeric (.list [])

/-- **Options that come from words**: texts and numbers, or the separator in their place, and there
is no output. -/
structure OfWords (r : Request) : Prop where
  /-- The program. -/
  source : ∀ v, r.options.source = some v → ∃ text, v = valueOf text
  /-- The input. -/
  input : ∀ i, r.options.input = some i → ∃ text, i = .data (.value (valueOf text))
  /-- The output. -/
  output : r.options.output = none
  /-- The length of the tape. -/
  tapeLength : ∀ v, r.options.tapeLength = some v → Numeric v
  /-- The bound on the number of steps. -/
  maxIterations : ∀ v, r.options.maxIterations = some v → Numeric v
  /-- What to do at the end of the input. -/
  eof : ∀ v, r.options.eof = some v → ∃ text, v = valueOf text

theorem numeric_of_integerOf {s : Switch} {text : String} {v : Value}
    (h : integerOf s text = .ok v) : Numeric v := by
  rw [integerOf] at h
  split at h
  · cases h
    exact .nil
  · split at h <;> cases h
    exact .int _

theorem exists_of_modeOf {text : String} {v : Value} (h : modeOf text = .ok v) :
    ∃ text, v = valueOf text := by
  simp only [modeOf] at h
  split at h
  next hseparator =>
    cases h
    exact ⟨text, (if_pos hseparator).symm⟩
  next hseparator =>
    split at h <;> cases h
    exact ⟨text, (if_neg hseparator).symm⟩

theorem kept_ofWords : Kept OfWords where
  program _ h := { h with }
  raise {r r' s} h hr := by
    cases s <;> cases h <;> exact { hr with }
  put {r r' s text} h hr := by
    cases s with
    | eval =>
      cases h
      refine { hr with source := ?_ }
      rintro v ⟨⟩
      exact ⟨text, rfl⟩
    | input =>
      cases h
      refine { hr with input := ?_ }
      rintro i ⟨⟩
      exact ⟨text, rfl⟩
    | tapeLength =>
      obtain ⟨v, hv, h⟩ := exists_of_bind h
      cases h
      refine { hr with tapeLength := ?_ }
      rintro _ ⟨⟩
      exact numeric_of_integerOf hv
    | maxIterations =>
      obtain ⟨v, hv, h⟩ := exists_of_bind h
      cases h
      refine { hr with maxIterations := ?_ }
      rintro _ ⟨⟩
      exact numeric_of_integerOf hv
    | eof =>
      obtain ⟨v, hv, h⟩ := exists_of_bind h
      cases h
      refine { hr with eof := ?_ }
      rintro _ ⟨⟩
      exact exists_of_modeOf hv
    | debugSteps =>
      obtain ⟨v, -, h⟩ := exists_of_bind h
      cases h
      exact { hr with }
    | config | help | optimize | stats | debug | demo | verbose =>
      cases h
      exact { hr with }

theorem ofWords_of_ofTexts {texts : List String} (h : ofTexts texts = .ok r) : r.OfWords :=
  kept_ofWords.ofTexts h ⟨nofun, nofun, rfl, nofun, nofun, nofun⟩

/-- A word stands for commands, the separator for none. -/
theorem exists_commandsOfValue (text : String) :
    ∃ commands, commandsOfValue (valueOf text) = .ok commands := by
  rw [valueOf]
  split
  · exact ⟨[], rfl⟩
  · exact ⟨_, rfl⟩

end Texts

/-! ### The session that is asked for -/

/-- **The options of the session that a request asks for**, with its program text and the settings
that it is found under. Input that is not named is the standard one. -/
def effective (r : Request) (around : Surroundings) (settings : Settings) (code : String) :
    Arguments :=
  { r.options.onto settings.arguments with
    source := some (.text code)
    input := some (r.options.input.getD (.source (.stream around.input))) }

/-- **The program** that a request names, on the command line or in a file. -/
inductive Names (r : Request) (around : Surroundings) : Value → Prop
  /-- It is on the command line. -/
  | named {source : Value} : r.options.source = some source → Names r around source
  /-- It is in a file. -/
  | inFile {name code : String} : r.options.source = none → r.program = some name → name ≠ "" →
    (around.file name).read? name = .ok code → Names r around (.text code)

/-- **The program text** that a request names, or that is in the file it names. -/
inductive ProgramText (r : Request) (around : Surroundings) (code : String) : Prop
  /-- It is in the command line. -/
  | named : r.options.source = some (.text code) → ProgramText r around code
  /-- It is in a file. -/
  | inFile {name : String} : r.options.source = none → r.program = some name → name ≠ "" →
    (around.file name).read? name = .ok code → ProgramText r around code

section Effective

variable {r : Request} {around : Surroundings} {settings : Settings} {code : String}
  {source : Value}

theorem run_of_names [Memory] (hdemo : r.demo = false) (h : r.Names around source) (fuel : Nat) :
    r.run fuel around = r.runSource fuel around source := by
  cases h with
  | named h => simp only [run, hdemo, h, Bool.false_eq_true, if_false]
  | inFile h hname hne hread =>
    rw [run, hdemo, h, hname]
    simp [hread]

/-- A program that is named can be stripped of its comments. -/
theorem Names.exists_commands (h : r.Names around source) (hwords : r.OfWords) :
    ∃ commands, commandsOfValue source = .ok commands := by
  cases h with
  | named h =>
    obtain ⟨text, rfl⟩ := hwords.source source h
    exact exists_commandsOfValue text
  | inFile => exact ⟨_, rfl⟩

theorem ProgramText.names (h : ProgramText r around code) : Names r around (.text code) := by
  cases h with
  | named h => exact .named h
  | inFile h hname hne hread => exact .inFile h hname hne hread

theorem run_of_programText [Memory] (hdemo : r.demo = false) (h : ProgramText r around code)
    (fuel : Nat) : r.run fuel around = r.runSource fuel around (.text code) :=
  run_of_names hdemo h.names fuel

/-- **The builder** of a request under settings. -/
theorem builder_of_settings (hsettings : r.settings around = .ok settings)
    {commands : List Command} (hsource : commandsOfValue source = .ok commands) :
    r.builder around source = .ok ⟨{ r.options.onto settings.arguments with
      source := some (.text (Command.toText commands)),
      input := some (r.options.input.getD (.source (.stream around.input))) }⟩ := by
  rw [builder, hsettings]
  simp only [Builder.ofSource, hsource, bind, Except.bind]
  rfl

theorem unknown_effective (h : r.options.unknown = []) :
    (r.effective around settings code).unknown = [] :=
  congrArg (· ++ settings.arguments.unknown) h

/-! ### Options that cannot be written -/

/-- **A length that is not positive** and has too many digits. -/
structure Endless (a : Arguments) (n : Int) : Prop where
  /-- It is the length of the tape. -/
  length : a.tapeLengthValue = .int n
  /-- It is not positive. -/
  nonpos : n ≤ 0
  /-- It has too many digits. -/
  long : Decimal.numeralLimit ≤ n.natAbs

theorem literal_valueOf (text : String) : ∃ literal, (valueOf text).literal = .ok literal := by
  rw [valueOf]
  split <;> exact ⟨_, rfl⟩

theorem numeric_tapeLength (hwords : r.OfWords) (settings : Settings) :
    Numeric (r.options.onto settings.arguments).tapeLengthValue := by
  rw [Arguments.tapeLengthValue, Arguments.onto]
  rcases hlength : r.options.tapeLength with _ | v
  · rcases hsettings : settings.tapeLength with _ | n
    · simp only [Settings.arguments, hsettings]
      exact .int _
    · simp only [Settings.arguments, hsettings]
      exact .int n
  · exact hwords.tapeLength v hlength

theorem exists_literal_eof (hwords : r.OfWords) (settings : Settings) :
    ∃ literal, (r.options.onto settings.arguments).eofValue.literal = .ok literal := by
  rw [Arguments.eofValue, Arguments.onto]
  rcases heof : r.options.eof with _ | v
  · rcases hsettings : settings.eof with _ | s
    · simp only [Settings.arguments, hsettings]
      exact ⟨_, rfl⟩
    · simp only [Settings.arguments, hsettings]
      exact ⟨_, rfl⟩
  · obtain ⟨text, rfl⟩ := hwords.eof v heof
    exact literal_valueOf text

/-- A bound is a number or none, or the separator in its place. -/
theorem bound_or_nil (hwords : r.OfWords) (settings : Settings) :
    (∃ bound, Config.boundOfValue (r.options.onto settings.arguments).maxIterationsValue =
      .ok bound) ∨ (r.options.onto settings.arguments).maxIterationsValue = .list [] := by
  rw [Arguments.maxIterationsValue, Arguments.onto]
  rcases hbound : r.options.maxIterations with _ | v
  · refine Or.inl ?_
    rcases hsettings : settings.maxIterations with _ | _ | n <;>
      simp only [Settings.arguments, hsettings] <;> exact ⟨_, rfl⟩
  · cases hwords.maxIterations v hbound with
    | int n => exact Or.inl ⟨_, rfl⟩
    | nil => exact Or.inr rfl

/-- **Of the options of a session only a length can be one that cannot be written.** -/
theorem exists_endless (hwords : r.OfWords) {a : Arguments} {f : Failure}
    (h : Config.Unwritten a f)
    (hlength : a.tapeLengthValue = (r.options.onto settings.arguments).tapeLengthValue)
    (hbound : a.maxIterationsValue = (r.options.onto settings.arguments).maxIterationsValue)
    (heof : a.eofValue = (r.options.onto settings.arguments).eofValue) :
    f = .badValue ∧ ∃ n, Endless a n := by
  cases h with
  | tapeLength hrefused hliteral =>
    have hnumeric := numeric_tapeLength hwords settings
    rw [← hlength] at hnumeric
    generalize hv : a.tapeLengthValue = v at hnumeric hrefused hliteral
    cases hnumeric with
    | int n =>
      obtain ⟨rfl, hlong⟩ := Value.literal_int_eq_error_iff.mp hliteral
      exact ⟨rfl, n, hv, Config.nonpos_of_tapeLength_error hrefused, hlong⟩
    | nil => cases hliteral
  | maxIterations hrefused hliteral =>
    rw [hbound] at hrefused hliteral
    rcases bound_or_nil hwords settings with ⟨bound, hok⟩ | hnil
    · cases hrefused.symm.trans hok
    · rw [hnil] at hliteral
      cases hliteral
  | eof _ hliteral =>
    obtain ⟨literal, hok⟩ := exists_literal_eof hwords settings
    rw [heof, hok] at hliteral
    cases hliteral

/-- **The builder of the session** makes the one that the options ask for, if a configuration
accepts them. -/
theorem exists_builder [Memory] (h : r.settings around = .ok settings) (code : String) :
    ∃ b, r.builder around (.text code) = .ok b ∧ ∀ sink,
      (b.output (.sink sink)).build = (do
        let _ ← Config.ofArguments (r.effective around settings code)
        Session.ofArguments { (r.effective around settings code).bounded with
          output := some (.sink sink) }) := by
  have hcommands : commandsOfValue (.text code) = .ok (Command.ofText code) := rfl
  refine ⟨⟨{ r.effective around settings code with
    source := some (.text (Command.toText (Command.ofText code))) }⟩, ?_, fun sink => ?_⟩
  · exact builder_of_settings h hcommands
  · exact Builder.build_of_strip rfl sink

theorem runSource_of_error [Memory] {b : Builder} {source : Value} {f : Failure}
    (hdebug : r.debug = false) (hb : r.builder around source = .ok b)
    (h : (b.output (.sink (.stream #[]))).build = .error f) (fuel : Nat) :
    r.runSource fuel around source = .ofFailure f #[] "" := by
  simp only [runSource, hb, hdebug, h, Bool.false_eq_true, if_false]

theorem runSource_of_ok [Memory] {b : Builder} {source : Value} {s : Session}
    (hdebug : r.debug = false) (hb : r.builder around source = .ok b)
    (h : (b.output (.sink (.stream #[]))).build = .ok s) (fuel : Nat) :
    r.runSource fuel around source = r.runSession fuel s := by
  simp only [runSource, hb, hdebug, h, Bool.false_eq_true, if_false]

end Effective

end Request

end CommandLine

end Brainfuck
