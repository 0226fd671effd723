import Brainfuck.Proofs.Session.Journal

/-!
# Input and output are conserved

Every operation goes by its journal, except that it may replace an endpoint or empty the sink
(`Brainfuck.Session.posted`). So the books of a session are balanced after every history
(`Brainfuck.Session.Balanced`): what has been read and written since the execution was forgotten is
counted, each source has given, in order, what it held and was fed, less what it still holds, and
each sink holds what was written to it.
-/

namespace Brainfuck

/-! ### Operations -/

/-- An operation that binds the session to no other source. -/
def Operation.KeepsSource : Operation → Prop
  | .setInput input => failureOf? input.toSource ≠ none
  | _ => True

/-- An operation that binds the session to no other sink and does not empty the sink. -/
def Operation.KeepsSink : Operation → Prop
  | .setOutput output => failureOf? output.toSink ≠ none
  | .clearOutput => False
  | _ => True

namespace Session

/-- What an operation does by its journal, but for the endpoints that it exchanges. -/
structure Posted (s : Session) (op : Operation) : Prop where
  /-- The counters. -/
  counts : Counts s (s.events op) (s.apply op)
  /-- The source. -/
  source : op.KeepsSource → Conserves s (s.events op) (s.apply op)
  /-- The sink. -/
  sink : op.KeepsSink → (s.apply op).output = s.output.write (written (s.events op))

section Operation

variable {s : Session} {op : Operation}

theorem Accounts.posted (h : Accounts s (s.events op) (s.apply op)) : Posted s op :=
  ⟨h.counts, fun _ => h.source, fun _ => h.sink⟩

/-- What is refused before anything is executed goes by its journal, which is empty. -/
theorem posted_of_refused {f : Failure} (hop : ¬op.Executes) (h : s.failure? op = some f)
    (hevents : s.events op = []) : Posted s op := by
  refine Accounts.posted ?_
  rw [hevents, apply_of_refused hop h]
  exact .refl s

/-- A trace from the start goes by its journal. -/
theorem accounts_observeFromStart {β : Type} (herr : s.error = none)
    (note : TraceEntry → Session → β) (limit : Int) :
    Accounts s (s.tracedTransfers limit.toNat) (s.observeFromStart note limit).2.2 := by
  simp only [observeFromStart, herr]
  exact (accounts_reset s).trans (accounts_observe note limit.toNat s.reset)

theorem posted_run (s : Session) (fuel : Nat) (fromStart : Bool) :
    Posted s (.run fuel fromStart) := by
  refine Accounts.posted ?_
  rw [events, apply, run]
  rcases herr : s.error with _ | e
  · cases fromStart with
    | true => exact (accounts_reset s).trans (accounts_continueRun fuel s.reset)
    | false => exact accounts_continueRun fuel s
  · exact .refl s

theorem posted_load (s : Session) (source optimize : Value) : Posted s (.load source optimize) := by
  rcases hsource : commandsOfValue source with f | commands
  · refine posted_of_refused (f := f) id ?_ ?_
    · rw [failure?, loadValue, hsource]
    · rw [events, hsource]
      rfl
  · refine Accounts.posted ?_
    rw [events, apply, loadValue, hsource]
    have hload : Accounts s [.reset] (s.load commands optimize) := by
      rw [load]
      split <;> exact accounts_of_reset rfl rfl rfl rfl
    exact hload

theorem posted_feed (s : Session) (data : Data) : Posted s (.feed data) := by
  rcases hinput : s.input with _ | b | rest | rest
  case buffer =>
    rcases hbytes : data.toBytes with f | bytes
    · refine posted_of_refused (f := f) id ?_ ?_
      · rw [failure?, feed, hinput, Source.feed_buffer_error hbytes]
      · rw [events, hinput, hbytes]
    · refine Accounts.posted ?_
      rw [events, apply, feed, hinput, Source.feed_buffer hbytes, hbytes]
      refine ⟨counts_of_event (by simp) rfl rfl, fun held hheld => ?_, output_of_eq rfl rfl⟩
      rw [hinput] at hheld
      cases hheld
      refine ⟨(b.feed bytes).unread, rfl, ?_⟩
      rw [Buffer.unread_feed, taken_singleton, fed_singleton]
      rfl
  all_goals
    refine posted_of_refused (f := .noSuchOperation) id ?_ ?_
    · rw [failure?, feed, hinput]
      rfl
    · rw [events, hinput]

/-- A trace that is started at all takes the steps of a run from the start. -/
theorem traceBelow_session {take : Option Nat} (htake : take ≠ some 0) (bound : Value)
    (s : Session) :
    (s.traceBelow bound take).2.2 =
      (s.observeFromStart (fun e _ => e) (traceSteps bound take : Int)).2.2 := by
  rw [traceBelow, traceSteps]
  rcases countBelow? bound with _ | n
  · have hzero : take.elim 0 (min 0) = 0 := by
      rcases take with _ | n
      · rfl
      · exact Nat.zero_min n
    simp only [if_neg htake, Option.getD_none, hzero]
    rfl
  · rcases take with _ | _ | k
    · rfl
    · exact absurd rfl htake
    · have hmin : min (n : Int) ((k + 1 : Nat) : Int) = ((min n (k + 1) : Nat) : Int) := by omega
      simp only [trace, hmin, Option.getD_some, Option.elim_some]

theorem posted_trace (s : Session) (bound : Value) (take : Option Nat) :
    Posted s (.trace bound take) := by
  refine Accounts.posted ?_
  rw [events]
  by_cases htake : take = some 0
  · have hstay : s.apply (.trace bound take) = s := by
      rw [apply, htake, traceBelow]
      rcases countBelow? bound with _ | n <;> rfl
    rw [if_pos (Or.inr htake), hstay]
    exact .refl s
  rcases herr : s.error with _ | e
  · rw [if_neg (by simp [htake]), apply, traceBelow_session htake]
    exact accounts_observeFromStart herr _ (traceSteps bound take)
  · have hwants : (Operation.trace bound take).WantsProgram := htake
    have hstay : s.apply (.trace bound take) = s := (failure?_of_error herr hwants).2
    rw [if_pos (Or.inl Option.isSome_some), hstay]
    exact .refl s

/-- A run of the debugger takes the steps of a run from the start. -/
theorem runBelow_session (width maxSteps : Int) (bound : String) (s : Session) :
    (Debugger.runBelow width maxSteps bound s).session =
      (s.observeFromStart (Debugger.stepReport width) maxSteps).2.2 := by
  rw [Debugger.runBelow]
  rcases herr : s.error with _ | e
  · rcases s.observeFromStart (Debugger.stepReport width) maxSteps with ⟨reports, _ | f, t⟩ <;> rfl
  · simp only [observeFromStart, herr]

theorem runWith_session (herr : s.error = none) {width : Value} {w : Int}
    (hwidth : Debugger.widthOfValue? s.tape.size width = some w) (bound : Value) :
    (Debugger.runWith width bound s).session =
      (s.observeFromStart (Debugger.stepReport w) (traceSteps bound none : Int)).2.2 := by
  rw [Debugger.runWith, herr, hwidth, traceSteps]
  rcases countBelow? bound with _ | n
  · by_cases havail : s.reset.available = true
    · simp only [havail, observeFromStart, herr]
      rfl
    · simp only [if_neg havail, Debugger.run, runBelow_session]
      rfl
  · exact runBelow_session w n (Debugger.boundText bound) s

theorem posted_debug (s : Session) (width bound : Value) : Posted s (.debug width bound) := by
  refine Accounts.posted ?_
  rw [events, apply]
  rcases herr : s.error with _ | e
  · rcases hwidth : Debugger.widthOfValue? s.tape.size width with _ | w
    · rw [Debugger.runWith, herr, hwidth]
      exact accounts_reset s
    · rw [runWith_session herr hwidth]
      exact accounts_observeFromStart herr _ (traceSteps bound none)
  · simp only [Debugger.runWith, herr, Debugger.run, runBelow_session, observeFromStart]
    exact .refl s

/-- An operation that takes and writes nothing leaves the counters and what it does not
exchange. -/
theorem posted_of_frame (hevents : s.events op = []) (hreads : (s.apply op).reads = s.reads)
    (hwrites : (s.apply op).writes = s.writes)
    (hinput : op.KeepsSource → (s.apply op).input = s.input)
    (houtput : op.KeepsSink → (s.apply op).output = s.output) : Posted s op := by
  refine ⟨?_, fun hkeeps => ?_, fun hkeeps => ?_⟩ <;> rw [hevents]
  · exact counts_of_eq hreads hwrites
  · exact conserves_of_eq (hinput hkeeps) rfl rfl
  · exact output_of_eq (houtput hkeeps) rfl

/-- To exchange the source, or to try, changes nothing else. -/
theorem posted_setInput (s : Session) (input : Input) : Posted s (.setInput input) := by
  rcases hinput : input.toSource with f | source
  · refine posted_of_frame rfl ?_ ?_ (fun _ => ?_) (fun _ => ?_) <;>
      rw [apply, setInput, hinput]
  · refine posted_of_frame rfl ?_ ?_ (fun hkeeps => ?_) (fun _ => ?_)
    · rw [apply, setInput, hinput]
    · rw [apply, setInput, hinput]
    · exact absurd (congrArg failureOf? hinput) hkeeps
    · rw [apply, setInput, hinput]

/-- To exchange the sink, or to try, changes nothing else. -/
theorem posted_setOutput (s : Session) (output : Output) : Posted s (.setOutput output) := by
  rcases houtput : output.toSink with f | sink
  · refine posted_of_frame rfl ?_ ?_ (fun _ => ?_) (fun _ => ?_) <;>
      rw [apply, setOutput, houtput]
  · refine posted_of_frame rfl ?_ ?_ (fun _ => ?_) (fun hkeeps => ?_)
    · rw [apply, setOutput, houtput]
    · rw [apply, setOutput, houtput]
    · rw [apply, setOutput, houtput]
    · exact absurd (congrArg failureOf? houtput) hkeeps

/-- **Every operation goes by its journal.** -/
theorem posted (s : Session) (op : Operation) : Posted s op := by
  cases op with
  | step => exact (accounts_step s).posted
  | run fuel fromStart => exact posted_run s fuel fromStart
  | load source optimize => exact posted_load s source optimize
  | reset => exact (accounts_reset s).posted
  | feed data => exact posted_feed s data
  | trace bound take => exact posted_trace s bound take
  | debug width bound => exact posted_debug s width bound
  | poke p value => exact posted_of_frame rfl rfl rfl (fun _ => rfl) (fun _ => rfl)
  | setInput input => exact posted_setInput s input
  | setOutput output => exact posted_setOutput s output
  | clearOutput =>
    exact posted_of_frame rfl rfl rfl (fun _ => rfl) (fun hkeeps => absurd hkeeps id)

end Operation

/-! ### Histories -/

section History

variable {s : Session} {history : List Operation}

/-- The counters go by the journal of a history. -/
theorem counts_applyAll (s : Session) (history : List Operation) :
    Counts s (s.journal history) (s.applyAll history) := by
  induction history generalizing s with
  | nil => exact counts_of_eq rfl rfl
  | cons op rest ih => exact (posted s op).counts.trans (ih (s.apply op))

/-- A source that is not exchanged goes by the journal of a history. -/
theorem conserves_applyAll (h : ∀ op ∈ history, op.KeepsSource) :
    Conserves s (s.journal history) (s.applyAll history) := by
  induction history generalizing s with
  | nil => exact conserves_of_eq rfl rfl rfl
  | cons op rest ih =>
    obtain ⟨hop, hrest⟩ := List.forall_mem_cons.mp h
    exact ((posted s op).source hop).trans (ih hrest)

/-- A sink that is not exchanged and not emptied goes by the journal of a history. -/
theorem output_applyAll (h : ∀ op ∈ history, op.KeepsSink) :
    (s.applyAll history).output = s.output.write (written (s.journal history)) := by
  induction history generalizing s with
  | nil => exact output_of_eq rfl rfl
  | cons op rest ih =>
    obtain ⟨hop, hrest⟩ := List.forall_mem_cons.mp h
    calc ((s.apply op).applyAll rest).output
        = (s.apply op).output.write (written ((s.apply op).journal rest)) := ih hrest
      _ = (s.output.write (written (s.events op))).write (written ((s.apply op).journal rest)) := by
        rw [(posted s op).sink hop]
      _ = s.output.write (written (s.journal (op :: rest))) := by
        rw [journal, written_append, Sink.write_append]

/-- **The books of a session are balanced** after a history. -/
structure Balanced (s : Session) (history : List Operation) : Prop where
  /-- As many bytes have been read as were taken from sources since the last reset. -/
  reads : (s.applyAll history).reads = (taken (sinceReset (s.journal history))).length
  /-- As many bytes have been written as sinks were given since the last reset. -/
  writes : (s.applyAll history).writes = (written (sinceReset (s.journal history))).length
  /-- What a source in memory has given since any moment and what it still holds are what it held
  at that moment and what it has been fed since, in order, unless it was replaced. -/
  source : ∀ earlier later bytes, history = earlier ++ later → (∀ op ∈ later, op.KeepsSource) →
    (s.applyAll earlier).input.unread? = some bytes →
    ∃ left, (s.applyAll history).input.unread? = some left ∧
      taken ((s.applyAll earlier).journal later) ++ left =
        bytes ++ fed ((s.applyAll earlier).journal later)
  /-- A sink has grown since any moment by what has been written since, in order, unless it was
  replaced or emptied. -/
  sink : ∀ earlier later, history = earlier ++ later → (∀ op ∈ later, op.KeepsSink) →
    (s.applyAll history).output =
      (s.applyAll earlier).output.write (written ((s.applyAll earlier).journal later))
  /-- An instruction that stands for several writes writes the current cell so often in one step. -/
  folded : ∀ times, (s.applyAll history).error = none →
    (s.applyAll history).program.at? (s.applyAll history).pc = some (.perform .write times) →
    (s.applyAll history).events .step =
        [.wrote (List.replicate times (s.applyAll history).cell)] ∧
      ∃ t, (s.applyAll history).step = (.value (s.applyAll history).cell, t) ∧
        t.output = (s.applyAll history).output.write
          (List.replicate times (s.applyAll history).cell)

/-- **Input and output are conserved and correctly counted**, whatever is done with a session. -/
theorem balanced_history [Memory] {a : Arguments} (h : ofArguments a = .ok s)
    (history : List Operation) :
    Balanced s history := by
  obtain ⟨hreads, hwrites⟩ : s.reads = 0 ∧ s.writes = 0 := by
    obtain ⟨length, cap, mode, input, output, -, hload⟩ := a.exists_means h
    obtain ⟨commands, -, rfl⟩ := exists_of_loadValue hload
    rw [load]
    split <;> exact ⟨rfl, rfl⟩
  refine ⟨?_, ?_, ?_, ?_, ?_⟩
  · exact (counts_applyAll s history).reads [] hreads
  · exact (counts_applyAll s history).writes [] hwrites
  · rintro earlier later bytes rfl hkeeps hbytes
    have happly : s.applyAll (earlier ++ later) = (s.applyAll earlier).applyAll later :=
      List.foldl_append
    rw [happly]
    exact conserves_applyAll hkeeps bytes hbytes
  · rintro earlier later rfl hkeeps
    have happly : s.applyAll (earlier ++ later) = (s.applyAll earlier).applyAll later :=
      List.foldl_append
    rw [happly]
    exact output_applyAll hkeeps
  · intro times herr hi
    have hexec : (s.applyAll history).execute (.perform .write times) = (none, _) := rfl
    have hstep := step_of_execute herr hi hexec
    refine ⟨?_, _, hstep, rfl⟩
    rw [events, transfer, herr, hi]
    rfl

section Usual

attribute [local instance] Memory.usual

/-- A folded read that is interrupted and fed, another source, and a run from the start. -/
theorem balanced_history_interrupted :
    ∃ s history,
      ofArguments
          { source := some (.text ",,,.."), tapeLength := some (.int 2),
            optimize := some (.bool true), maxIterations := none,
            input := some (.source (.buffer (.ofList [7, 8]))),
            output := some (.sink (.buffer #[])),
            eof := some (.text EndMode.error.name), unknown := [] } = .ok s ∧
      history = [.run 9 true, .poke 1 300, .feed (.bytes false [9]), .run 9 false, .step,
        .setInput (.data (.bytes false [1, 2])), .reset, .step] ∧
      Balanced s history ∧
      s.journal history = [.reset, .took [7, 8], .fed [9], .took [9], .wrote [9, 9], .reset,
        .took [1, 2]] ∧
      (s.applyAll history).reads = 2 ∧ (s.applyAll history).output = .buffer #[9, 9] := by
  have h := ofArguments_fresh ",,,.." true ⟨2, Nat.two_pos⟩ rfl .error [7, 8] (.buffer #[])
  exact ⟨_, _, h, rfl, balanced_history h _, rfl, rfl, rfl⟩

end Usual

end History

end Session

end Brainfuck
