import Brainfuck.Proofs.Endpoints
import Brainfuck.Proofs.Session.Exchange
import Brainfuck.Proofs.Session.Invariant

/-!
# A run from the start forgets the past

Whatever has been done with a session, a run from the start does what it would do in a session
that has just been made with the same program, and it does so with the input that is left
and behind the output that is there already. In the same way a program that is loaded
finds the session as if it had just been made.

Loading and resetting leave nothing of a session but the length of its tape, its options and
its endpoints. The endpoints are what two such sessions may differ in
(`Brainfuck.Session.Echoes`): a source in memory is looked at only for what is left in it, and a
sink not at all.
-/

namespace Brainfuck

/-- A tape that is reset is a blank one. -/
theorem Tape.reset_eq_blank {t : Tape} {length : TapeLength} (h : t.size = length.val) :
    t.reset = .blank length := by
  rcases length with ⟨val, hpos⟩
  cases h
  rfl

namespace Session

/-! ### The same behind other output -/

/-- The same is left in both sources. -/
def SameLeft (a b : Source) : Prop := ∃ left, a.unread? = some left ∧ b.unread? = some left

/-- The one sink holds `before`, and behind it what the other one holds. -/
def Behind (before : Array UInt8) (a b : Sink) : Prop :=
  ∃ written, a = .buffer written ∧ b = .buffer (before ++ written)

/-- A session, and one that does the same behind the output `before`. -/
def Echoes (before : Array UInt8) : Session → Session → Prop :=
  Exchanged SameLeft (Behind before)

section Echoes

variable {before : Array UInt8}

/-- Sources in which the same is left give the same. -/
theorem faithful_sameLeft : Faithful SameLeft := by
  rintro a b ⟨_ | ⟨byte, rest⟩, hleft, hleft'⟩
  · rw [Source.read_of_unread?_nil hleft, Source.read_of_unread?_nil hleft']
    exact ⟨rfl, [], hleft, hleft'⟩
  · obtain ⟨next, hread, hnext⟩ := Source.read_of_unread?_cons hleft
    obtain ⟨next', hread', hnext'⟩ := Source.read_of_unread?_cons hleft'
    rw [hread, hread']
    exact ⟨rfl, rest, hnext, hnext'⟩

/-- Sources in which the same is left stand in for each other, and so do sinks one of which is ahead
by some output. -/
theorem interchangeable_behind (before : Array UInt8) :
    Interchangeable SameLeft (Behind before) where
  read h _ := faithful_sameLeft h
  write := by
    rintro _ _ ⟨written, rfl, rfl⟩ bytes
    refine ⟨written ++ bytes, rfl, congrArg Sink.buffer ?_⟩
    apply Array.ext'
    simp

/-- **A run of both sessions.** -/
theorem continueRun_echoes {s u : Session} (h : Echoes before s u) (fuel : Nat) :
    Alongside (Echoes before) (continueRun fuel s) (continueRun fuel u) :=
  (lockstep_exchanged SameLeft (Behind before)).continueRun
    (fun hrel => step_exchanged (interchangeable_behind before) hrel
      (Or.inr faithful_sameLeft)) h fuel

end Echoes

/-! ### Starting anew -/

section Anew

variable {length : TapeLength} {s : Session} {commands : List Command} {optimize : Value}

/-- **Loading leaves nothing of the past** but the length of the tape, the options and the
endpoints. -/
theorem load_eq (hsize : s.tape.size = length.val) (commands : List Command) (optimize : Value)
    (input : Source) (output : Sink) :
    s.load commands optimize =
      { (idle (.blank length) s.cap input output s.eof).load commands optimize with
        input := s.input, output := s.output } := by
  rw [load, load]
  split <;> simp only [reset, idle, Tape.reset_eq_blank hsize, Tape.reset_blank]

/-- **Resetting leaves no more**, and the program. -/
theorem echoes_reset {buffer : Buffer} {before : Array UInt8} (hsize : s.tape.size = length.val)
    (herr : s.error = none) (hinput : s.input = .buffer buffer)
    (houtput : s.output = .buffer before) (optimized : Value) :
    Echoes before (made length s.cap (.buffer (.ofList buffer.unread)) (.buffer #[]) s.eof s.program
      optimized) s.reset := by
  have hs : s.reset = rebind
      (made length s.cap (.buffer (.ofList buffer.unread)) (.buffer #[]) s.eof s.program optimized)
      (.buffer buffer) (.buffer (before ++ #[])) s.optimized := by
    simp only [reset, rebind, made, idle, Tape.reset_eq_blank hsize, herr, hinput, houtput,
      Array.append_empty]
  rw [hs]
  exact .of_endpoints ⟨buffer.unread, rfl, rfl⟩ ⟨#[], rfl, rfl⟩

end Anew

/-! ### Nothing of the past leaks -/

/-- **A session that was made with some arguments forgets its past**: loading a program and running
one from the start do what they do in a session that has just been made. -/
structure Forgets [Memory] (a : Arguments) (s : Session) : Prop where
  /-- To load a program text is to make a session with it, up to the endpoints. -/
  load : ∀ source optimize, Failure.resolve (s.loadValue source optimize) =
    (ofArguments { a with source := some source, optimize := some optimize }).map fun n =>
      { n with input := s.input, output := s.output }
  /-- To run the program of a text is to run it in a session that was made with the text and with
  the input that is left. The output is written behind what has been written before. -/
  run : ∀ source optimize commands buffer before, s.error = none →
    commandsOfValue source = .ok commands →
    Program.compile commands optimize.isTruthy = .ok s.program →
    s.input = .buffer buffer → s.output = .buffer before →
    ∃ n, ofArguments
        { a with
          source := some source, optimize := some optimize,
          input := some (.data (.bytes false buffer.unread)),
          output := some (.sink (.buffer #[])) } = .ok n ∧
      ∀ fuel, Alongside (Echoes before) (n.run fuel true) (s.run fuel true)

section Forgets

variable [Memory] {a : Arguments} {length : TapeLength} {input : Source} {output : Sink}
  {s : Session}

/-- A session forgets its past if it still has the options that it was made with. -/
theorem forgets_of_means (hmeans : a.Means length s.cap s.eof input output)
    (hsize : s.tape.size = length.val) : Forgets a s where
  load := by
    intro source optimize
    have hmade := Arguments.Means.ofArguments
      (a := { a with source := some source, optimize := some optimize }) ⟨hmeans.unknown,
        hmeans.eof, hmeans.tapeLength, hmeans.tape, hmeans.cap, hmeans.input, hmeans.output⟩
    rw [hmade, loadValue, loadValue, Arguments.sourceValue, Option.getD_some]
    rcases commandsOfValue source with f | commands
    · rfl
    · exact congrArg Except.ok (load_eq hsize commands optimize input output)
  run := by
    intro source optimize commands buffer before herr hcommands hcompile hinput houtput
    have hmade := Arguments.Means.ofArguments
      (a := { a with
        source := some source, optimize := some optimize,
        input := some (.data (.bytes false buffer.unread)),
        output := some (.sink (.buffer #[])) }) ⟨hmeans.unknown, hmeans.eof, hmeans.tapeLength,
          hmeans.tape, hmeans.cap, rfl, rfl⟩
    rw [loadValue, Arguments.sourceValue, Option.getD_some, hcommands] at hmade
    have hload := load_idle hcompile length s.cap (.buffer (.ofList buffer.unread))
      (.buffer #[]) s.eof
    refine ⟨_, hmade.trans (congrArg Except.ok hload), fun fuel => ?_⟩
    rw [run_true_of_error rfl, run_true_of_error herr, reset_made]
    exact continueRun_echoes (echoes_reset hsize herr hinput houtput optimize) fuel

end Forgets

/-- **Nothing of the past leaks into a run.** After every history, failures included, a session
loads and runs programs from the start as one that has just been made. -/
theorem forgets_history [Memory] {a : Arguments} {s : Session} (h : ofArguments a = .ok s)
    (history : List Operation) : Forgets a (s.applyAll history) := by
  obtain ⟨length, cap, mode, input, output, hmeans, hs, rfl, rfl⟩ :=
    exists_means_applyAll h history
  exact forgets_of_means hmeans hs.size

section Usual

attribute [local instance] Memory.usual

/-- A folded read that was interrupted, was fed and went on, when there is output already. -/
theorem forgets_history_interrupted :
    ∃ s t,
      ofArguments
          { source := some (.text ",,."), tapeLength := some (.int 2),
            optimize := some (.bool true), maxIterations := none,
            input := some (.source (.buffer (.ofList [7]))), output := some (.sink (.buffer #[])),
            eof := some (.text EndMode.error.name), unknown := [] } = .ok s ∧
      t = s.applyAll [.run 9 true, .poke 1 300, .feed (.bytes false [8, 9]), .run 9 false] ∧
      Forgets
        { source := some (.text ",,."), tapeLength := some (.int 2),
          optimize := some (.bool true), maxIterations := none,
          input := some (.source (.buffer (.ofList [7]))), output := some (.sink (.buffer #[])),
          eof := some (.text EndMode.error.name), unknown := [] } t ∧
      t.error = none ∧ commandsOfValue (.text ",,.") = .ok (Command.ofText ",,.") ∧
      Program.compile (Command.ofText ",,.") (Value.bool true).isTruthy = .ok t.program ∧
      t.input.unread? = some [9] ∧ t.output = .buffer #[8] := by
  have h := ofArguments_fresh ",,." true ⟨2, Nat.two_pos⟩ rfl .error [7] (.buffer #[])
  exact ⟨_, _, h, rfl, forgets_history h _, rfl, rfl, rfl, rfl, rfl⟩

end Usual

end Session

end Brainfuck
