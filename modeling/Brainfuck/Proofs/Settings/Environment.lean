import Brainfuck.Proofs.Builder
import Brainfuck.Proofs.Settings.Refusal
import Brainfuck.Proofs.Spelling

/-!
# Settings through an environment

Settings can be handed on as texts, in the variables of an environment
(`Brainfuck.Settings.Rendered`). A number may be written in any way that numerals allow, and a word
may be spelled in capitals or small letters, with blanks around it. What is read from the
environment are the same settings (`Brainfuck.Settings.restored_of_rendered`), unless a numeral is
too long.

Settings that have been read, from wherever, are of the types of their options, so that little can
still be wrong with them (`Brainfuck.Settings.Senseless`): a length that is not positive, and a word
that names no mode. A builder that begins with them finds these and nothing else
(`Brainfuck.Settings.sound_of_ofValue`), though it cannot tell of a length with too many digits.
-/

namespace Brainfuck

/-! ### Texts for settings -/

namespace Setting

/-- **A text for a value of an option.** -/
inductive Renders : Setting → Value → String → Prop
  /-- A length is written as a numeral. -/
  | tapeLength {n : Int} {text : String} : Decimal.Writes n text → Renders tapeLength (.int n) text
  /-- So is a bound. -/
  | maxIterations {n : Int} {text : String} : Decimal.Writes n text →
    Renders maxIterations (.int n) text
  /-- For a truth value there are several words. -/
  | optimize {b : Bool} {word text : String} :
    word ∈ (if b then Settings.trueWords else Settings.falseWords) → Text.Spells word text →
    Renders optimize (.bool b) text
  /-- A mode is given by its name. -/
  | eof {mode : EndMode} {text : String} : Text.Spells mode.name text →
    Renders eof (.text mode.name) text

/-- **A numeral with too many digits.** -/
structure Overlong (option : Setting) (text : String) : Prop where
  /-- The option is a whole number. -/
  integer : option = .tapeLength ∨ option = .maxIterations
  /-- The digits are too many. -/
  long : Decimal.digitLimit < Decimal.digitCount text

section Renders

variable {option : Setting} {v w : Value} {n : Int} {text : String}

theorem isWord_of_mem {word : String} (h : word ∈ Settings.trueWords ++ Settings.falseWords) :
    Text.IsWord word := by
  have hwords : ∀ word ∈ Settings.trueWords ++ Settings.falseWords, Text.IsWord word := by decide
  exact hwords word h

theorem isWord_name (mode : EndMode) : Text.IsWord mode.name := by
  cases mode <;> decide

/-- **A text gives the number that it writes**, if it is not too long, and no other. -/
theorem gives_iff_of_writes {m : Int} (h : Decimal.Writes n text) :
    (Value.text text).Gives m ↔ Decimal.digitCount text ≤ Decimal.digitLimit ∧ m = n := by
  have hread := h.integer?_eq
  constructor
  · intro hm
    cases hm with
    | text hm =>
      rw [hread] at hm
      split at hm
      next hshort => exact ⟨hshort, (Option.some.inj hm).symm⟩
      · cases hm
    | rounded hm => cases hm
  · rintro ⟨hshort, rfl⟩
    rw [if_pos hshort] at hread
    exact .text hread

/-- **A text is read as the value that it is for**, unless it is too long. -/
theorem Renders.reads (h : option.Renders v text) (hshort : ¬option.Overlong text) :
    option.Reads (.text text) v := by
  have hle : option = .tapeLength ∨ option = .maxIterations →
      Decimal.digitCount text ≤ Decimal.digitLimit := fun hoption =>
    Nat.le_of_not_lt fun hlong => hshort ⟨hoption, hlong⟩
  cases h with
  | tapeLength hn => exact .tapeLength ((gives_iff_of_writes hn).mpr ⟨hle (Or.inl rfl), rfl⟩)
  | maxIterations hn =>
    exact .maxIterations ((gives_iff_of_writes hn).mpr ⟨hle (Or.inr rfl), rfl⟩)
  | @optimize b word _ hmem hspells =>
    have hword : Settings.plainWord text = word := by
      refine Settings.plainWord_of_spells (isWord_of_mem (List.mem_append.mpr ?_)) hspells
      cases b with
      | true => exact Or.inl hmem
      | false => exact Or.inr hmem
    rw [← hword] at hmem
    cases b with
    | true => exact .optimize (.yes hmem)
    | false => exact .optimize (.no hmem)
  | @eof mode _ hspells =>
    rw [← Settings.plainWord_of_spells (isWord_name mode) hspells]
    exact .eof text

/-- **A numeral that is too long is not read.** -/
theorem Renders.not_reads (h : option.Renders v text) (hlong : option.Overlong text) :
    ¬option.Reads (.text text) w := by
  intro hw
  cases h with
  | tapeLength hn =>
    cases hw with
    | tapeLength hm =>
      exact absurd ((gives_iff_of_writes hn).mp hm).1 (Nat.not_le_of_lt hlong.long)
  | maxIterations hn =>
    cases hw with
    | maxIterations hm =>
      exact absurd ((gives_iff_of_writes hn).mp hm).1 (Nat.not_le_of_lt hlong.long)
  | optimize => exact hlong.integer.elim nofun nofun
  | eof => exact hlong.integer.elim nofun nofun

end Renders

end Setting

/-! ### From settings to an environment and back -/

namespace Settings

/-- Settings are known from the values of the options. -/
theorem eq_of_setting? {s t : Settings}
    (h : ∀ option, s.arguments.setting? option = t.arguments.setting? option) : s = t := by
  have hbound : Function.Injective fun bound : Option Int => bound.elim Value.null .int := by
    rintro (_ | m) (_ | n) heq
    · rfl
    · cases heq
    · cases heq
    · exact congrArg some (Value.int.inj heq)
  obtain ⟨length, optimize, bound, mode⟩ := s
  obtain ⟨length', optimize', bound', mode'⟩ := t
  have hlength : length = length' :=
    Option.map_injective (fun _ _ => Value.int.inj) (h .tapeLength)
  have hoptimize : optimize = optimize' :=
    Option.map_injective (fun _ _ => Value.bool.inj) (h .optimize)
  have hmax : bound = bound' := Option.map_injective hbound (h .maxIterations)
  have hmode : mode = mode' := Option.map_injective (fun _ _ => Value.text.inj) (h .eof)
  rw [hlength, hoptimize, hmax, hmode]

/-- **An environment that renders settings**: it has a text for each option that is set, and none
for the others. What else there is does not matter. -/
def Rendered (native : Settings) (environment : List (String × String)) : Prop :=
  ∀ option : Setting, Option.Rel option.Renders (native.arguments.setting? option)
    (environment.lookup option.environmentName)

/-- **Settings that are restored** from an environment. -/
structure Restored (native : Settings) (environment : List (String × String)) : Prop where
  /-- If no numeral is too long, they are what is read. -/
  restored : (∀ (option : Setting) (text : String),
    environment.lookup option.environmentName = some text → ¬option.Overlong text) →
      ofVariables environment = .ok native
  /-- A numeral that is too long is refused, and it or another one is shown. -/
  refused : ∀ (option : Setting) (text : String),
    environment.lookup option.environmentName = some text → option.Overlong text →
      ∃ (option' : Setting) (text' : String),
        environment.lookup option'.environmentName = some text' ∧ option'.Overlong text' ∧
          ofVariables environment = .error (.option (option'.refusal (Text.quoted text')))

section Rendered

variable {native s : Settings} {environment : List (String × String)} {option : Setting}
  {text : String} {f : Failure}

/-- The value that a text in the environment is for. -/
theorem Rendered.exists_renders (h : Rendered native environment)
    (htext : environment.lookup option.environmentName = some text) :
    ∃ v, native.arguments.setting? option = some v ∧ option.Renders v text := by
  have hrel := h option
  rw [htext] at hrel
  rcases hv : native.arguments.setting? option with _ | v <;> rw [hv] at hrel
  · cases hrel
  · cases hrel with
    | some hrenders => exact ⟨v, rfl, hrenders⟩

/-- An option without a text has no value. -/
theorem Rendered.eq_none (h : Rendered native environment)
    (hnone : environment.lookup option.environmentName = none) :
    native.arguments.setting? option = none := by
  have hrel := h option
  rw [hnone] at hrel
  rcases hv : native.arguments.setting? option with _ | v
  · rfl
  · rw [hv] at hrel
    cases hrel

/-- **What is read is what was rendered.** -/
theorem Rendered.eq_of_ok (h : Rendered native environment)
    (hs : ofVariables environment = .ok s) : s = native := by
  refine eq_of_setting? fun option => ?_
  rcases hlookup : environment.lookup option.environmentName with _ | text
  · rw [setting?_eq_none_of_ofVariables hs hlookup, h.eq_none hlookup]
  · obtain ⟨w, hw, hset⟩ := reads_of_ofVariables hs hlookup
    obtain ⟨v, hv, hrenders⟩ := h.exists_renders hlookup
    have hshort : ¬option.Overlong text := fun hlong => hrenders.not_reads hlong hw
    rw [hset, hv, hw.unique (hrenders.reads hshort)]

/-- **What is refused is a numeral that is too long.** -/
theorem Rendered.exists_overlong (h : Rendered native environment)
    (hf : ofVariables environment = .error f) :
    ∃ (option : Setting) (text : String),
      environment.lookup option.environmentName = some text ∧ option.Overlong text ∧
        f = .option (option.refusal (Text.quoted text)) := by
  obtain ⟨option, text, htext, hunread, hf⟩ := exists_of_ofVariables_error hf
  obtain ⟨v, -, hrenders⟩ := h.exists_renders htext
  exact ⟨option, text, htext, Classical.not_not.mp fun hshort => hunread v (hrenders.reads hshort),
    hf⟩

/-- **Settings come back from an environment.** -/
theorem restored_of_rendered (h : Rendered native environment) : Restored native environment where
  restored hshort := by
    rcases hresult : ofVariables environment with f | s
    · obtain ⟨option, text, htext, hlong, -⟩ := h.exists_overlong hresult
      exact absurd hlong (hshort option text htext)
    · rw [h.eq_of_ok hresult]
  refused option text htext hlong := by
    rcases hresult : ofVariables environment with f | s
    · obtain ⟨option', text', htext', hlong', rfl⟩ := h.exists_overlong hresult
      exact ⟨option', text', htext', hlong', rfl⟩
    · obtain ⟨w, hw, -⟩ := reads_of_ofVariables hresult htext
      obtain ⟨v, -, hrenders⟩ := h.exists_renders htext
      exact absurd hw (hrenders.not_reads hlong)

end Rendered

end Settings

/-! ### What has been read -/

/-- **A value of the type of an option.** -/
inductive Setting.Typed : Setting → Value → Prop
  /-- A length is a whole number. -/
  | tapeLength (n : Int) : Typed tapeLength (.int n)
  /-- Whether to optimize is a truth value. -/
  | optimize (b : Bool) : Typed optimize (.bool b)
  /-- A bound is a whole number. -/
  | maxIterations (n : Int) : Typed maxIterations (.int n)
  /-- There may be no bound. -/
  | unbounded : Typed maxIterations .null
  /-- What to do at the end of the input is a text. -/
  | eof (word : String) : Typed eof (.text word)

namespace Settings

/-- **What can be wrong with settings** that have been read, and how a configuration refuses
them. -/
inductive Senseless (s : Settings) : Failure → Prop
  /-- A length that is not positive. It is shown. -/
  | tapeLength {n : Int} : s.tapeLength = some n → n ≤ 0 → n.natAbs < Decimal.numeralLimit →
    Senseless s (.tapeLength (toString n))
  /-- A length that is not positive and has too many digits to be shown. -/
  | endless {n : Int} : s.tapeLength = some n → n ≤ 0 → Decimal.numeralLimit ≤ n.natAbs →
    Senseless s .badValue
  /-- A word that names no mode, beside a length that is fine. -/
  | eof {word : String} : (∀ n, s.tapeLength = some n → 0 < n) → s.eof = some word →
    (∀ mode : EndMode, mode.name ≠ word) →
    Senseless s (.option (.unknownMode (EndMode.all.map EndMode.name) (Text.quoted word)))

/-- **The settings of a mapping.** -/
structure Sound (entries : List (Value × Value)) (s : Settings) : Prop where
  /-- The options that are set are the keys of the mapping. -/
  keys : ∀ key, key ∈ entries.map Prod.fst ↔
    ∃ option : Setting, key = .text option.name ∧ (s.arguments.setting? option).isSome = true
  /-- Their values are of their types. -/
  typed : ∀ option v, s.arguments.setting? option = some v → option.Typed v
  /-- A builder can begin with them, and the configuration is refused if they make no sense. -/
  built : ∀ code : String, ∃ b, Builder.ofSource (.text code) s.arguments = .ok b ∧
    ∀ f, b.config = .error f ↔ s.Senseless f

section Sound

variable {entries : List (Value × Value)} {s : Settings} {a : Arguments} {f : Failure}

theorem typed_setting? (s : Settings) {option : Setting} {v : Value}
    (h : s.arguments.setting? option = some v) : option.Typed v := by
  cases option with
  | tapeLength =>
    obtain ⟨n, -, rfl⟩ := Option.map_eq_some_iff.mp h
    exact .tapeLength n
  | optimize =>
    obtain ⟨b, -, rfl⟩ := Option.map_eq_some_iff.mp h
    exact .optimize b
  | maxIterations =>
    obtain ⟨_ | n, -, rfl⟩ := Option.map_eq_some_iff.mp h
    · exact .unbounded
    · exact .maxIterations n
  | eof =>
    obtain ⟨word, -, rfl⟩ := Option.map_eq_some_iff.mp h
    exact .eof word

/-- An option is given a value exactly if its name is a key. -/
theorem isSome_given?_iff {option : Setting} :
    (given? entries option).isSome = true ↔ .text option.name ∈ entries.map Prod.fst := by
  induction entries with
  | nil => simp [given?]
  | cons e entries ih =>
    rw [given?, Option.orElse_eq_orElse, Option.orElse_eq_or, Option.isSome_or, Bool.or_eq_true,
      ih, List.map_cons, List.mem_cons, or_comm]
    refine or_congr ?_ Iff.rfl
    by_cases hkey : settingOfKey? e.1 = some option
    · rw [if_pos hkey]
      exact ⟨fun _ => (settingOfKey?_eq_some_iff.mp hkey).symm, fun _ => rfl⟩
    · have hname : Value.text option.name ≠ e.1 := fun heq =>
        hkey (settingOfKey?_eq_some_iff.mpr heq.symm)
      rw [if_neg hkey]
      exact iff_of_false Bool.false_ne_true hname

/-- **The options that are set are the keys.** -/
theorem mem_keys_iff (h : ofValue (.mapping entries) = .ok s) {key : Value} :
    key ∈ entries.map Prod.fst ↔
      ∃ option : Setting, key = .text option.name ∧
        (s.arguments.setting? option).isSome = true := by
  constructor
  · intro hkey
    obtain ⟨e, he, rfl⟩ := List.mem_map.mp hkey
    obtain ⟨option, w, hoption, -⟩ := exists_of_mem (putEntries_of_ofValue h) he
    rw [settingOfKey?_eq_some_iff] at hoption
    rw [hoption] at hkey
    obtain ⟨v, hv⟩ := Option.isSome_iff_exists.mp (isSome_given?_iff.mpr hkey)
    obtain ⟨w, -, hset⟩ := exists_of_given? (putEntries_of_ofValue h) hv
    exact ⟨option, hoption, Option.isSome_iff_exists.mpr ⟨w, hset⟩⟩
  · rintro ⟨option, rfl, hset⟩
    rw [setting?_ofValue h] at hset
    rw [← isSome_given?_iff]
    exact Option.isSome_of_isSome_bind hset

/-! ### A builder that begins with settings -/

theorem ofValue_int_eq_error_iff {n : Int} :
    TapeLength.ofValue (.int n) = .error f ↔ n ≤ 0 ∧ f = .about (.int n) .tapeLength := by
  rw [TapeLength.ofValue]
  by_cases hn : 0 < n
  · have hle : ¬n ≤ 0 := Int.not_le.mpr hn
    simp only [hn, hle, dif_pos, reduceCtorEq, false_and]
  · have hle : n ≤ 0 := Int.not_lt.mp hn
    simp only [hn, hle, dif_neg, not_false_eq_true, Except.error.injEq, true_and, eq_comm]

theorem ofValue_text_eq_error_iff {word : String} :
    EndMode.ofValue (.text word) = .error f ↔ (∀ mode : EndMode, mode.name ≠ word) ∧
      f = .option (.unknownMode (EndMode.all.map EndMode.name) (Text.quoted word)) := by
  rcases hmode : EndMode.ofName? word with _ | mode
  · have hnone : ∀ mode : EndMode, mode.name ≠ word := by
      rintro mode rfl
      cases mode <;> cases hmode
    simp only [EndMode.ofValue, hmode, Failure.about_text, Except.error.injEq, eq_comm (a := f),
      and_iff_right hnone]
  · have hname : mode.name = word := by
      rw [EndMode.ofName?] at hmode
      have hfound := List.find?_some hmode
      exact eq_of_beq hfound
    have hsome : ¬∀ mode : EndMode, mode.name ≠ word := fun h => h mode hname
    simp only [EndMode.ofValue, hmode, hsome, reduceCtorEq, false_and]

/-- If the program and the bound are accepted, the length and the mode may still be refused. -/
theorem ofArguments_eq_error_iff {commands : List Command} {bound : Option Nat}
    (hunknown : a.unknown = []) (hsource : commandsOfValue a.sourceValue = .ok commands)
    (hbound : Config.boundOfValue a.maxIterationsValue = .ok bound) :
    Config.ofArguments a = .error f ↔
      TapeLength.ofValue a.tapeLengthValue = .error f ∨
        (∃ length, TapeLength.ofValue a.tapeLengthValue = .ok length) ∧
          EndMode.ofValue a.eofValue = .error f := by
  rcases hlength : TapeLength.ofValue a.tapeLengthValue with g | length <;>
    rcases hmode : EndMode.ofValue a.eofValue with g' | mode <;>
    simp [Config.ofArguments, Arguments.checkNames_of_unknown hunknown, hsource, hbound, hlength,
      hmode, bind, Except.bind, pure, Except.pure]

/-- The bound of settings is accepted. -/
theorem exists_boundOfValue (s : Settings) :
    ∃ bound, Config.boundOfValue s.arguments.maxIterationsValue = .ok bound := by
  rw [Arguments.maxIterationsValue, arguments]
  rcases s.maxIterations with _ | _ | n <;> exact ⟨_, rfl⟩

/-- **The length of settings is refused** if it is not positive. -/
theorem tapeLengthValue_eq_error_iff (s : Settings) :
    TapeLength.ofValue s.arguments.tapeLengthValue = .error f ↔
      ∃ n, s.tapeLength = some n ∧ n ≤ 0 ∧ f = .about (.int n) .tapeLength := by
  rw [Arguments.tapeLengthValue, arguments]
  rcases s.tapeLength with _ | n
  · exact ⟨nofun, fun ⟨_, h, _⟩ => nomatch h⟩
  · rw [Option.map_some, Option.getD_some, ofValue_int_eq_error_iff]
    exact ⟨fun h => ⟨n, rfl, h⟩, fun ⟨_, heq, h⟩ => Option.some.inj heq ▸ h⟩

/-- **The mode of settings is refused** if there is none of its name. -/
theorem eofValue_eq_error_iff (s : Settings) :
    EndMode.ofValue s.arguments.eofValue = .error f ↔
      ∃ word, s.eof = some word ∧ (∀ mode : EndMode, mode.name ≠ word) ∧
        f = .option (.unknownMode (EndMode.all.map EndMode.name) (Text.quoted word)) := by
  rw [Arguments.eofValue, arguments]
  rcases s.eof with _ | word
  · exact ⟨nofun, fun ⟨_, h, _⟩ => nomatch h⟩
  · rw [Option.map_some, Option.getD_some, ofValue_text_eq_error_iff]
    exact ⟨fun h => ⟨word, rfl, h⟩, fun ⟨_, heq, h⟩ => Option.some.inj heq ▸ h⟩

/-- **Settings are refused if they make no sense**, and for no other reason. -/
theorem ofArguments_eq_error_iff_senseless (s : Settings) (commands : List Command) :
    Config.ofArguments
        { s.arguments with source := some (.text (Command.toText commands)) } = .error f ↔
      s.Senseless f := by
  obtain ⟨bound, hbound⟩ := exists_boundOfValue s
  refine (ofArguments_eq_error_iff (a := { s.arguments with
    source := some (.text (Command.toText commands)) }) rfl (commandsOfValue_toText commands)
    hbound).trans ?_
  change TapeLength.ofValue s.arguments.tapeLengthValue = .error f ∨
    (∃ length, TapeLength.ofValue s.arguments.tapeLengthValue = .ok length) ∧
      EndMode.ofValue s.arguments.eofValue = .error f ↔ _
  rw [tapeLengthValue_eq_error_iff, eofValue_eq_error_iff]
  constructor
  · rintro (⟨n, hn, hle, rfl⟩ | ⟨⟨length, hlength⟩, word, hword, hmode, rfl⟩)
    · by_cases hlong : n.natAbs < Decimal.numeralLimit
      · rw [Failure.about_int_of_lt hlong]
        exact .tapeLength hn hle hlong
      · rw [Failure.about_int_of_le (Nat.le_of_not_lt hlong)]
        exact .endless hn hle (Nat.le_of_not_lt hlong)
    · refine .eof (fun n hn => Int.not_le.mp fun hle => ?_) hword hmode
      have herror := (tapeLengthValue_eq_error_iff s).mpr ⟨n, hn, hle, rfl⟩
      cases hlength.symm.trans herror
  · rintro (⟨hn, hle, hshort⟩ | ⟨hn, hle, hlong⟩ | ⟨hpos, hword, hmode⟩)
    · exact Or.inl ⟨_, hn, hle, (Failure.about_int_of_lt hshort).symm⟩
    · exact Or.inl ⟨_, hn, hle, (Failure.about_int_of_le hlong).symm⟩
    · refine Or.inr ⟨?_, _, hword, hmode, rfl⟩
      rcases hlength : TapeLength.ofValue s.arguments.tapeLengthValue with g | length
      · obtain ⟨n, hn, hle, -⟩ := (tapeLengthValue_eq_error_iff s).mp hlength
        exact absurd (hpos n hn) (Int.not_lt.mpr hle)
      · exact ⟨length, rfl⟩

/-- **What is read from a mapping is sound.** -/
theorem sound_of_ofValue (h : ofValue (.mapping entries) = .ok s) : Sound entries s where
  keys _ := mem_keys_iff h
  typed _ _ := typed_setting? s
  built code := ⟨⟨{ s.arguments with
    source := some (.text (Command.toText (Command.ofText code))) }⟩, rfl,
    fun _ => ofArguments_eq_error_iff_senseless s _⟩

end Sound

/-- **Settings through an environment, and what is known of settings** however they were read. -/
theorem transmitted (native s : Settings) (environment : List (String × String))
    (entries : List (Value × Value)) :
    (Rendered native environment → Restored native environment) ∧
      (ofValue (.mapping entries) = .ok s → Sound entries s) :=
  ⟨restored_of_rendered, sound_of_ofValue⟩

/-- A number with a sign, zeros and blanks, and two words, beside another variable; and a mapping
that gives a length with a fraction and no bound. -/
theorem transmitted_spelled :
    Rendered ⟨some 42, some true, none, some "zero"⟩
        [("HOME", "/"), ("BF_TAPE_LENGTH", " +0042\n"), ("BF_OPTIMIZE", "\tYeS "),
          ("BF_EOF", "ZERO")] ∧
      ofVariables [("HOME", "/"), ("BF_TAPE_LENGTH", " +0042\n"), ("BF_OPTIMIZE", "\tYeS "),
        ("BF_EOF", "ZERO")] = .ok ⟨some 42, some true, none, some "zero"⟩ ∧
      ofValue (.mapping [(.text "tape_length", .float (-2.5)),
        (.text "max_iterations", .null)]) = .ok ⟨some (-2), none, some none, none⟩ ∧
      Sound [(.text "tape_length", .float (-2.5)), (.text "max_iterations", .null)]
        ⟨some (-2), none, some none, none⟩ := by
  have hrendered : Rendered ⟨some 42, some true, none, some "zero"⟩
      [("HOME", "/"), ("BF_TAPE_LENGTH", " +0042\n"), ("BF_OPTIMIZE", "\tYeS "),
        ("BF_EOF", "ZERO")] := by
    intro option
    cases option with
    | tapeLength =>
      have hdigits : Decimal.IsDigits ['0', '0', '4', '2'] :=
        ⟨List.cons_ne_nil _ _, List.all_eq_true.mp rfl⟩
      exact .some (.tapeLength ⟨_, .plus hdigits, [' '], ['\n'], List.all_eq_true.mp rfl,
        List.all_eq_true.mp rfl, by decide⟩)
    | optimize =>
      exact .some (@Setting.Renders.optimize true "yes" _ (by decide)
        ⟨['Y', 'e', 'S'], by decide, ['\t'], [' '], List.all_eq_true.mp rfl,
          List.all_eq_true.mp rfl, by decide⟩)
    | maxIterations => exact .none
    | eof =>
      exact .some (@Setting.Renders.eof .zero _
        ⟨['Z', 'E', 'R', 'O'], by decide, [], [], List.forall_mem_nil _, List.forall_mem_nil _,
          by decide⟩)
  have hread : ofValue (.mapping [(.text "tape_length", .float (-2.5)),
      (.text "max_iterations", .null)]) = .ok ⟨some (-2), none, some none, none⟩ := rfl
  obtain ⟨hrestored, hsound⟩ := transmitted ⟨some 42, some true, none, some "zero"⟩
    ⟨some (-2), none, some none, none⟩
    [("HOME", "/"), ("BF_TAPE_LENGTH", " +0042\n"), ("BF_OPTIMIZE", "\tYeS "), ("BF_EOF", "ZERO")]
    [(.text "tape_length", .float (-2.5)), (.text "max_iterations", .null)]
  refine ⟨hrendered, (hrestored hrendered).restored fun option text htext hlong => ?_, hread,
    hsound hread⟩
  rcases hlong.integer with rfl | rfl
  · obtain rfl : " +0042\n" = text := Option.some.inj htext
    exact absurd hlong.long (by decide)
  · cases htext

/-- Seven after 4300 zeros. -/
def remoteSeven : String := String.ofList (List.replicate 4300 '0' ++ ['7'])

theorem toList_remoteSeven : remoteSeven.toList = List.replicate 4300 '0' ++ ['7'] :=
  String.toList_ofList

theorem isDigits_remoteSeven : Decimal.IsDigits (List.replicate 4300 '0' ++ ['7']) := by
  refine ⟨List.append_ne_nil_of_right_ne_nil _ (List.cons_ne_nil _ _), fun c hc => ?_⟩
  rcases List.mem_append.mp hc with hc | hc
  · rw [List.eq_of_mem_replicate hc]
    decide
  · rw [List.mem_singleton.mp hc]
    decide

theorem writes_remoteSeven : Decimal.Writes 7 remoteSeven := by
  have hvalue : Nat.ofDigitChars 10 (List.replicate 4300 '0' ++ ['7']) 0 = 7 :=
    Decimal.ofDigitChars_replicate_zero_append 4300 ['7']
  have hnumeral := Decimal.Numeral.plain isDigits_remoteSeven
  rw [hvalue] at hnumeral
  refine ⟨_, hnumeral, [], [], List.forall_mem_nil _, List.forall_mem_nil _, ?_⟩
  rw [toList_remoteSeven, List.nil_append, List.append_nil]

/-- **A numeral that is too long**, whose leading zeros are as good as other digits, and a length
that can be read and is refused, but not shown. -/
theorem not_restored_remoteSeven :
    Rendered ⟨some 7, none, none, none⟩ [("BF_TAPE_LENGTH", remoteSeven)] ∧
      ofVariables [("BF_TAPE_LENGTH", remoteSeven)] =
        .error (.option (.notInteger "tape_length" (Text.quoted remoteSeven))) ∧
      ofValue (.mapping [(.text "tape_length", .int (1 - Int.pow 16 3600))]) =
        .ok ⟨some (1 - Int.pow 16 3600), none, none, none⟩ ∧
      ∃ b, Builder.ofSource (.text "+") (arguments ⟨some (1 - Int.pow 16 3600), none, none, none⟩) =
        .ok b ∧ b.config = .error .badValue := by
  have hrendered : Rendered ⟨some 7, none, none, none⟩ [("BF_TAPE_LENGTH", remoteSeven)] := by
    intro option
    cases option with
    | tapeLength => exact .some (.tapeLength writes_remoteSeven)
    | optimize | maxIterations | eof => exact .none
  have hlong : Setting.tapeLength.Overlong remoteSeven := by
    refine ⟨Or.inl rfl, ?_⟩
    rw [Decimal.digitCount, toList_remoteSeven, isDigits_remoteSeven.countP_eq,
      List.length_append, List.length_replicate]
    decide
  obtain ⟨option, text, htext, -, herror⟩ :=
    (restored_of_rendered hrendered).refused .tapeLength remoteSeven rfl hlong
  cases option with
  | tapeLength =>
    obtain rfl : remoteSeven = text := Option.some.inj htext
    have hread : ofValue (.mapping [(.text "tape_length", .int (1 - Int.pow 16 3600))]) =
        .ok ⟨some (1 - Int.pow 16 3600), none, none, none⟩ := rfl
    obtain ⟨b, hb, hconfig⟩ := (sound_of_ofValue hread).built "+"
    refine ⟨hrendered, herror, hread, b, hb, (hconfig .badValue).mpr ?_⟩
    exact .endless rfl (by decide +kernel) (by decide +kernel)
  | optimize | maxIterations | eof => cases htext

end Settings

end Brainfuck
