import Brainfuck.Proofs.CommandLine.Request
import Brainfuck.Proofs.Runner
import Brainfuck.Proofs.Session.Exchange

/-!
# The command line and the runner

A program can be run from the command line or in memory, and the two ways are written
separately: the one goes by a builder and a configuration and passes its output on to a
file, the other makes a session directly and collects the output. Still they agree
(`Brainfuck.CommandLine.Request.Agrees`): what the command line shows is the report of the runner
for the options in effect, unless a configuration refuses these.

The two sessions differ in their sink only, and what is written to the one is what is collected in
the other (`Brainfuck.Sink.Streamed`), whatever the program does and however its run ends.
-/

namespace Brainfuck

/-! ### A file in place of a buffer -/

/-- A buffer and a file that have taken the same bytes. -/
inductive Sink.Streamed : Sink → Sink → Prop
  /-- These bytes. -/
  | of_bytes (bytes : Array UInt8) : Streamed (.buffer bytes) (.stream bytes)

theorem Sink.Streamed.collected {a b : Sink} (h : Streamed a b) :
    b.collected? = some a.visible := by
  rcases h with ⟨bytes⟩
  rfl

namespace Session

section Streamed

variable {s u : Session}

theorem interchangeable_streamed : Interchangeable Eq Sink.Streamed where
  read := by
    rintro a _ rfl -
    exact ⟨rfl, rfl⟩
  write := by
    rintro _ _ ⟨bytes⟩ new
    exact .of_bytes (bytes ++ new)

theorem faithful_eq : Faithful Eq := by
  rintro a _ rfl
  exact ⟨rfl, rfl⟩

/-- What is to be seen of two such sessions is the same. -/
theorem Exchanged.of_streamed (h : Exchanged Eq Sink.Streamed s u) :
    u.output.collected? = some s.output.visible ∧ u.iterations = s.iterations ∧
      u.capped = s.capped := by
  rcases h with ⟨-, hO⟩
  exact ⟨hO.collected, rfl, rfl⟩

/-- **A run that writes to a file** does what one with a buffer does. -/
theorem run_streamed {bytes : Array UInt8} (h : s.output = .buffer bytes) (fuel : Nat) :
    Alongside (Exchanged Eq Sink.Streamed) (s.run fuel true)
      (run fuel true { s with output := .stream bytes }) := by
  have hstreamed : Sink.Streamed s.output (.stream bytes) := by
    rw [h]
    exact .of_bytes bytes
  rcases Option.eq_none_or_eq_some s.error with herr | ⟨e, herr⟩
  · have hreset : Exchanged Eq Sink.Streamed s.reset (reset { s with output := .stream bytes }) :=
      .of_endpoints (s := s.reset) rfl hstreamed
    rw [run_true_of_error herr, run_true_of_error (s := { s with output := .stream bytes }) herr]
    exact (lockstep_exchanged Eq Sink.Streamed).continueRun
      (fun h => step_exchanged interchangeable_streamed h (Or.inr faithful_eq)) hreset fuel
  · have hsame : Exchanged Eq Sink.Streamed s { s with output := .stream bytes } :=
      .of_endpoints (s := s) rfl hstreamed
    rw [run_of_error herr, run_of_error (s := { s with output := .stream bytes }) herr]
    exact ⟨rfl, hsame⟩

end Streamed

end Session

namespace CommandLine

namespace Request

/-! ### What is shown -/

/-- What is told about the session of the command line that arguments ask for, and about its
run. -/
def sessionLog [Memory] (fuel : Nat) (a : Arguments) : List LogLine :=
  match Session.ofArguments { a with output := some (.sink (.stream #[])) } with
  | .ok s => compileLog (s.run fuel true).2 ++ runLog (s.run fuel true).2
  | .error _ => []

/-- The last line for a report: its error, or the number of steps if that is wanted. -/
def note (r : Request) (report : Report) : String :=
  match report.error with
  | some f => f.message?.elim "" fun message => Text.line (Debugger.errorMark ++ message)
  | none =>
    if r.stats then
      Text.line ("Iterations: " ++ toString report.iterations ++
        if report.cutOff then " (iteration cap reached)" else "")
    else ""

/-- **What the program shows of a report**, after what was told on the way. -/
def shown (r : Request) (log : List LogLine) (report : Report) : Outcome where
  exit := .status (if report.ok then 0 else 1)
  output := report.output
  messages := logText r.verbose log ++ r.note report

/-- **How the program ends** when the runner has come to a result: it shows a report, does not end
without one, and is stopped by a failure that is not reported. -/
inductive Ends (r : Request) (log : List LogLine) :
    Except Failure (Option Report) → Outcome → Prop
  /-- There is a report. -/
  | report (report : Report) : Ends r log (.ok (some report)) (r.shown log report)
  /-- The run has not come to an end. -/
  | outOfFuel {o : Outcome} : o.exit = .outOfFuel → Ends r log (.ok none) o
  /-- There is a failure that is not reported. -/
  | stopped {f : Failure} {o : Outcome} : o.exit = .stopped f → Ends r log (.error f) o

/-- **How the program ends** when a configuration refuses the options. Nothing is written to the
standard output. -/
inductive Refuses (a : Arguments) : Failure → Outcome → Prop
  /-- The reason is told. -/
  | told {f : Failure} {message : String} : f.message? = some message →
    Refuses a f ⟨.status 1, #[], Text.line (Debugger.errorMark ++ message)⟩
  /-- The reason cannot be written, because of the length that it would show, and the program is
  stopped. -/
  | stopped {n : Int} : Endless a n → Refuses a .badValue ⟨.stopped .badValue, #[], ""⟩

/-- **The agreement** of what the program does with the options that are in effect and of what the
runner does with them. -/
structure Agrees [Memory] (fuel : Nat) (r : Request) (a : Arguments) (o : Outcome) : Prop where
  /-- If a configuration refuses them, nothing is written, and the reason is told if it can be. -/
  refused : ∀ f, Config.ofArguments a = .error f → Refuses a f o
  /-- If it accepts them, the report of the runner is shown. -/
  accepted : ∀ c, Config.ofArguments a = .ok c →
    r.Ends (sessionLog fuel a.bounded) (Runner.run fuel a.bounded) o

section Ends

variable {r : Request} {a : Arguments} {s : Session} {f : Failure}

theorem ofFailure_of_unreported (h : f.isReported = false) (output : Array UInt8)
    (messages : String) : Outcome.ofFailure f output messages = ⟨.stopped f, output, messages⟩ := by
  rw [Outcome.ofFailure, h]

theorem ofFailure_of_reported {message : String} (h : f.isReported = true)
    (hmessage : f.message? = some message) (output : Array UInt8) (messages : String) :
    Outcome.ofFailure f output messages =
      ⟨.status 1, output, messages ++ Text.line (Debugger.errorMark ++ message)⟩ := by
  rw [Outcome.ofFailure, h, hmessage]

/-- **The session of the command line ends as the runner says.** -/
theorem ends_runSession [Memory]
    (hs : Session.ofArguments { a with output := some (.sink (.buffer #[])) } = .ok s)
    (houtput : s.output = .buffer #[]) (r : Request) (fuel : Nat) :
    Ends r (sessionLog fuel a) (Runner.run fuel a)
      (r.runSession fuel { s with output := .stream #[] }) := by
  have hu : Session.ofArguments { a with output := some (.sink (.stream #[])) } =
      .ok { s with output := .stream #[] } := by
    rw [Session.ofArguments_sink a (.buffer #[]), hs]
    rfl
  have hlog : sessionLog fuel a =
      compileLog (Session.run fuel true { s with output := .stream #[] }).2 ++
        runLog (Session.run fuel true { s with output := .stream #[] }).2 := by
    rw [sessionLog, hu]
  -- from here on, the run that writes to the file is known by the one beside it only
  have halong := Session.run_streamed houtput fuel
  rw [hlog, runSession]
  generalize Session.run fuel true { s with output := .stream #[] } = result at halong ⊢
  rcases Option.eq_none_or_eq_some s.error with herr | ⟨e, herr⟩
  · rcases hrun : s.run fuel true with ⟨ending, t⟩
    obtain ⟨v, rfl, hv⟩ := halong.exists_right hrun
    obtain ⟨hcollected, hiter, hcapped⟩ := hv.of_streamed
    dsimp only
    rw [hcollected, hiter, hcapped, Option.getD_some]
    cases ending with
    | finished =>
      rw [Runner.run_of_finished hs herr hrun]
      exact .report _
    | outOfFuel =>
      rw [Runner.run_of_outOfFuel hs herr hrun]
      exact .outOfFuel rfl
    | failed f =>
      rcases Session.run_failed herr (congrArg Prod.fst hrun) with ⟨pc, rfl⟩ | rfl
      · rw [Runner.run_of_endOfInput hs herr hrun]
        exact .report ⟨t.output.visible, t.iterations, false, some (.endOfInput pc)⟩
      · rw [Runner.run_of_unencodable hs herr hrun]
        exact .stopped rfl
  · obtain ⟨v, rfl, hv⟩ := halong.exists_right (Session.run_of_error herr fuel true)
    rw [Runner.run_of_error hs herr]
    dsimp only
    rw [hv.of_streamed.1, houtput]
    exact .report ⟨#[], 0, false, some (.compile e)⟩

end Ends

/-! ### The agreement -/

section Agrees

variable {r : Request} {around : Surroundings} {settings : Settings} {code : String}
  {words : List String}

/-- **The command line agrees with the runner.** -/
theorem agrees_runSource [Memory] (hwords : r.OfWords) (hunknown : r.options.unknown = [])
    (hdebug : r.debug = false)
    (hsettings : r.settings around = .ok settings) (code : String) (fuel : Nat) :
    r.Agrees fuel (r.effective around settings code) (r.runSource fuel around (.text code)) := by
  obtain ⟨b, hb, hbuild⟩ := exists_builder hsettings code
  have hbuild := hbuild (.stream #[])
  refine ⟨fun f hf => ?_, fun c hc => ?_⟩
  · rw [hf] at hbuild
    have hcommands : commandsOfValue (r.effective around settings code).sourceValue =
        .ok (Command.ofText code) := rfl
    rw [runSource_of_error hdebug hb hbuild]
    rcases Config.isReported_or_unwritten (unknown_effective hunknown) hcommands hf with
      hreported | hunwritten
    · obtain ⟨message, hmessage⟩ := Failure.exists_message hreported
      rw [ofFailure_of_reported hreported hmessage, String.empty_append]
      exact .told hmessage
    · obtain ⟨rfl, n, hendless⟩ := exists_endless hwords hunwritten rfl rfl rfl
      exact .stopped hendless
  · rw [hc] at hbuild
    generalize r.effective around settings code = a at hbuild hc ⊢
    have hsink := Session.ofArguments_sink a.bounded (.buffer #[]) (.stream #[])
    rcases hs : Session.ofArguments { a.bounded with output := some (.sink (.buffer #[])) }
      with f | s
    · rw [hs] at hsink
      have hrun : Runner.run fuel a.bounded = .error f := by
        simp only [Runner.run, Runner.execute, hs, bind, Except.bind]
      have hunreported := (Config.checked_of_ok hc).isReported hs
      rw [runSource_of_error hdebug hb (hbuild.trans hsink), hrun,
        ofFailure_of_unreported hunreported]
      exact .stopped rfl
    · rw [hs] at hsink
      rw [runSource_of_ok hdebug hb (hbuild.trans hsink)]
      exact ends_runSession hs (Session.output_of_ofArguments hs) r fuel

/-- **The command line agrees with the runner**: for the words of every command line that asks for
neither the debugger nor the demonstration, and that names a program text which can be read, with
all settings that can be read, what the program does is what the runner does with the options in
effect. -/
theorem agrees_run [Memory] (h : ofTexts words = .ok r) (hdebug : r.debug = false)
    (hdemo : r.demo = false) (hcode : r.ProgramText around code)
    (hsettings : r.settings around = .ok settings) (fuel : Nat) :
    r.Agrees fuel (r.effective around settings code) (CommandLine.run fuel around words) := by
  have hrun : CommandLine.run fuel around words = r.runSource fuel around (.text code) := by
    rw [CommandLine.run, h]
    exact run_of_programText hdemo hcode fuel
  rw [hrun]
  exact agrees_runSource (ofWords_of_ofTexts h) (unknown_of_ofTexts h) hdebug hsettings code fuel

end Agrees

section Usual

attribute [local instance] Memory.usual

/-- A program that reads more than it is given, on a tape whose length is set by the environment. -/
theorem agrees_run_endOfInput :
    ∃ r, ofTexts ["-e", "+[,.]", "--input=ab", "--eof", "error", "--stats"] = .ok r ∧
      r.debug = false ∧ r.demo = false ∧
      ProgramText r ⟨fun _ => .error .missing, Yaml.valueOfText, [("BF_TAPE_LENGTH", "7")], []⟩
        "+[,.]" ∧
      r.settings ⟨fun _ => .error .missing, Yaml.valueOfText, [("BF_TAPE_LENGTH", "7")], []⟩ =
        .ok ⟨some 7, none, none, none⟩ ∧
      r.Agrees 20
        (r.effective ⟨fun _ => .error .missing, Yaml.valueOfText, [("BF_TAPE_LENGTH", "7")], []⟩
          ⟨some 7, none, none, none⟩ "+[,.]")
        (CommandLine.run 20
          ⟨fun _ => .error .missing, Yaml.valueOfText, [("BF_TAPE_LENGTH", "7")], []⟩
          ["-e", "+[,.]", "--input=ab", "--eof", "error", "--stats"]) := by
  have hwords : ofTexts ["-e", "+[,.]", "--input=ab", "--eof", "error", "--stats"] =
      .ok { empty with
        options := { Arguments.empty with
          source := some (.text "+[,.]"), input := some (.data (.value (.text "ab"))),
          eof := some (.text "error") },
        stats := true } := by
    rfl
  refine ⟨_, hwords, rfl, rfl, .named rfl, rfl, ?_⟩
  exact agrees_run hwords rfl rfl (.named rfl) rfl 20

/-- What was written before the input ended is on the standard output. -/
example : CommandLine.run 20
    ⟨fun _ => .error .missing, Yaml.valueOfText, [("BF_TAPE_LENGTH", "7")], []⟩
    ["-e", "+[,.]", "--input=ab", "--eof", "error", "--stats"] =
      ⟨.status 1, #[97, 98], Text.line "❌ End of input reached at instruction 2"⟩ := by
  rfl

end Usual

/-! ### A length that cannot be told -/

section Endless

variable {r : Request} {words : List String} {code : String}

theorem settings_endless (hconfig : r.config = "c") :
    r.settings .endless = .ok ⟨some (1 - Int.pow 16 3600), none, none, none⟩ := by
  have hname : "c" ≠ "" := by decide
  have hread := FileEntry.read?_toUTF8 (by decide : '\x00' ∉ "c".toList)
    ("tape_length: -0x" ++ String.ofList (List.replicate 3600 'f'))
  simp only [settings, hconfig, Surroundings.endless, hname, if_false, Settings.ofFile, hread]
  rfl

theorem config_endless (hlength : r.options.tapeLength = none) (hunknown : r.options.unknown = []) :
    Config.ofArguments (r.effective .endless ⟨some (1 - Int.pow 16 3600), none, none, none⟩ code) =
      .error .badValue := by
  have hlong : Decimal.numeralLimit ≤ (1 - Int.pow 16 3600).natAbs := by decide +kernel
  have hgiven : (r.effective .endless ⟨some (1 - Int.pow 16 3600), none, none, none⟩
      code).tapeLengthValue = .int (1 - Int.pow 16 3600) := by
    rw [Arguments.tapeLengthValue, effective, Arguments.onto, hlength]
    rfl
  refine Config.ofArguments_of_tapeLength_error (unknown_effective hunknown) rfl ?_
  rw [hgiven, TapeLength.ofValue, dif_neg (by decide +kernel), Failure.about_int_of_le hlong]

/-- The program is stopped, with nothing told. -/
theorem run_endless [Memory] (h : ofTexts words = .ok r) (hdebug : r.debug = false)
    (hdemo : r.demo = false) (hcode : r.options.source = some (.text code))
    (hconfig : r.config = "c") (hlength : r.options.tapeLength = none) (fuel : Nat) :
    CommandLine.run fuel .endless words = ⟨.stopped .badValue, #[], ""⟩ := by
  have hunknown := unknown_of_ofTexts h
  have hagrees := agrees_runSource (ofWords_of_ofTexts h) hunknown hdebug
    (settings_endless hconfig) code fuel
  have hrefused := hagrees.refused .badValue (config_endless hlength hunknown)
  have hrun : CommandLine.run fuel .endless words = r.run fuel .endless := by
    rw [CommandLine.run, h]
  rw [hrun, run_of_programText hdemo (.named hcode) fuel]
  generalize r.runSource fuel .endless (.text code) = o at hrefused ⊢
  cases hrefused with
  | told hmessage => cases hmessage
  | stopped => rfl

end Endless

section Usual

attribute [local instance] Memory.usual

/-- **A refusal that is not told**: the length is not positive, but a message cannot show it. -/
theorem stopped_endless :
    ∃ r, ofTexts ["-e", "+", "--config=c"] = .ok r ∧ r.debug = false ∧ r.demo = false ∧
      r.ProgramText .endless "+" ∧
      r.settings .endless = .ok ⟨some (1 - Int.pow 16 3600), none, none, none⟩ ∧
      Config.ofArguments (r.effective .endless ⟨some (1 - Int.pow 16 3600), none, none, none⟩ "+") =
        .error .badValue ∧
      CommandLine.run 9 .endless ["-e", "+", "--config=c"] = ⟨.stopped .badValue, #[], ""⟩ := by
  have hwords : ofTexts ["-e", "+", "--config=c"] = .ok { empty with
      options := { Arguments.empty with source := some (.text "+") }, config := "c" } := by
    rfl
  exact ⟨_, hwords, rfl, rfl, .named rfl, settings_endless rfl, config_endless rfl rfl,
    run_endless hwords rfl rfl rfl rfl rfl 9⟩

end Usual

end Request

end CommandLine

end Brainfuck
