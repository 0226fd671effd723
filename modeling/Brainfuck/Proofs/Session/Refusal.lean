import Brainfuck.Proofs.Session.Observation

/-!
# What a failure leaves

An operation that fails says why (`Brainfuck.Session.failure?`). What is refused before anything is
executed leaves the session as it was, be it a run that has no program, a program text of the wrong
kind, an endpoint that cannot be used, or a position that is not on the tape. Of the failures
of a step only the end of the input leaves something behind: the bytes that were there have been
taken, the last of them is in the current cell, and the reads that are done are remembered
(`Brainfuck.Session.Drained`).
-/

namespace Brainfuck

/-- Why something failed, if it did. -/
def failureOf? {α : Type} : Except Failure α → Option Failure
  | .ok _ => none
  | .error f => some f

/-- Why a step failed, if it did. -/
def StepResult.failure? : StepResult → Option Failure
  | value _ | finished => none
  | failed f => some f

/-- Why a run failed, if it did. -/
def Ending.failure? : Ending → Option Failure
  | finished | outOfFuel => none
  | failed f => some f

/-- An operation that executes instructions, if there are any. -/
def Operation.Executes : Operation → Prop
  | .step | .run _ _ | .trace _ _ | .debug _ _ => True
  | _ => False

/-- An operation that wants a program and reports that there is none. A trace does so with its first
entry; the debugger prints it and does not fail. -/
def Operation.WantsProgram : Operation → Prop
  | .step | .run _ _ => True
  | .trace _ take => take ≠ some 0
  | _ => False

namespace Session

/-- Why an operation failed, if it did. -/
def failure? (s : Session) : Operation → Option Failure
  | .step => s.step.1.failure?
  | .run fuel fromStart => (s.run fuel fromStart).1.failure?
  | .load source optimize => (s.loadValue source optimize).1
  | .reset => none
  | .poke p value => (s.poke p value).1
  | .setInput input => (s.setInput input).1
  | .setOutput output => (s.setOutput output).1
  | .feed data => (s.feed data).1
  | .clearOutput => s.clearOutput.1
  | .trace bound take => (s.traceBelow bound take).2.1
  | .debug width bound => failureOf? (Debugger.runWith width bound s).output

/-! ### Without a program -/

section Compile

variable {s : Session} {e : CompileError}

/-- A step that reports a compile error has found it in the session, and its walk has found it. -/
theorem error_of_walk {n : Nat} {t : Session} (h : Walk n s t)
    (ht : t.step.1 = .failed (.compile e)) : s.error = some e := by
  rcases failure_of_step ht with ⟨e', herr, he⟩ | hf | hf
  · cases he
    exact h.keeps.1.error.symm.trans herr
  · cases hf
  · cases hf

theorem observe_ne_compile {β : Type} (herr : s.error = none) (note : TraceEntry → Session → β)
    (limit : Nat) : (s.observe note limit).2.1 ≠ some (.compile e) := by
  intro h
  obtain ⟨n, t, hwalk, -, -, -, ⟨hsnd, -⟩ | ⟨-, f, hf, hsnd⟩⟩ :=
    exists_walk_of_observe herr note limit
  · rw [hsnd] at h
    cases h
  · rw [hsnd] at h
    cases h
    cases herr.symm.trans (error_of_walk hwalk hf)

theorem error_of_trace {limit : Int} {take : Option Nat}
    (h : (s.trace limit take).2.1 = some (.compile e)) : s.error = some e := by
  have hobserve : ∀ limit, (s.observeFromStart (fun entry _ => entry) limit).2.1 =
      some (.compile e) → s.error = some e := by
    intro limit h
    rw [observeFromStart] at h
    split at h
    next e' herr =>
      cases h
      exact herr
    next herr => exact absurd h (observe_ne_compile (s := s.reset) herr _ _)
  rcases take with _ | _ | n
  · exact hobserve limit h
  · cases h
  · exact hobserve _ h

theorem error_of_traceBelow {bound : Value} {take : Option Nat}
    (h : (s.traceBelow bound take).2.1 = some (.compile e)) : s.error = some e := by
  rw [traceBelow] at h
  split at h
  · exact error_of_trace h
  · split at h
    · cases h
    · have htrace : (s.trace 0 none).2.1 = some (.compile e) := by
        rcases hs : s.trace 0 none with ⟨entries, _ | f, t⟩ <;> rw [hs] at h
        · dsimp only at h
          split at h <;> cases h
        · exact h
      exact error_of_trace htrace

/-- What wants a program and reports a compile error has found it in the session. -/
theorem error_of_failure? {op : Operation} (hop : op.WantsProgram)
    (h : s.failure? op = some (.compile e)) : s.error = some e := by
  cases op with
  | step =>
    rw [failure?] at h
    rcases hs : s.step.1 with c | _ | f <;> rw [hs] at h <;> cases h
    exact error_of_walk .refl hs
  | run fuel fromStart =>
    rw [failure?, run] at h
    split at h
    next e' herr =>
      cases h
      exact herr
    next herr =>
      have herr' : (if fromStart then s.reset else s).error = none := by
        split <;> exact herr
      rcases hs : (continueRun fuel (if fromStart then s.reset else s)).1 with _ | f | _ <;>
        rw [hs] at h <;> cases h
      obtain ⟨n, t, hwalk, ht⟩ := exists_walk_of_failed hs
      cases herr'.symm.trans (error_of_walk hwalk ht)
  | trace bound take => exact error_of_traceBelow h
  | load | reset | poke | setInput | setOutput | feed | clearOutput | debug => exact absurd hop id

/-- **A session without a program** reports so to everything that wants one, and stays as it is. -/
theorem failure?_of_error (herr : s.error = some e) {op : Operation} (hop : op.WantsProgram) :
    s.failure? op = some (.compile e) ∧ s.apply op = s := by
  cases op with
  | step =>
    rw [failure?, apply, step_of_error herr]
    exact ⟨rfl, rfl⟩
  | run fuel fromStart =>
    rw [failure?, apply, run_of_error herr]
    exact ⟨rfl, rfl⟩
  | trace bound take =>
    have htrace : ∀ (limit : Int) (take : Option Nat), take ≠ some 0 →
        s.trace limit take = ([], some (.compile e), s) := by
      intro limit take htake
      rcases take with _ | _ | n
      · simp only [trace, observeFromStart, herr]
      · exact absurd rfl htake
      · simp only [trace, observeFromStart, herr]
    have hbelow : s.traceBelow bound take = ([], some (.compile e), s) := by
      rw [traceBelow]
      split
      · exact htrace _ take hop
      · rw [if_neg hop, htrace 0 none (Option.some_ne_none 0).symm]
        rfl
    rw [failure?, apply, hbelow]
    exact ⟨rfl, rfl⟩
  | load | reset | poke | setInput | setOutput | feed | clearOutput | debug => exact absurd hop id

end Compile

/-! ### Refusals -/

section Refused

variable {s : Session}

/-- **What is refused before anything is executed changes nothing.** -/
theorem apply_of_refused {op : Operation} {f : Failure} (hop : ¬op.Executes)
    (h : s.failure? op = some f) : s.apply op = s := by
  cases op with
  | step | run | trace | debug => exact absurd trivial hop
  | reset => cases h
  | load source optimize =>
    rcases hsource : commandsOfValue source with g | commands
    · rw [apply, loadValue, hsource]
    · rw [failure?, loadValue, hsource] at h
      cases h
  | poke p value =>
    rcases hp : s.tape.index? p with _ | i
    · rw [apply, poke, Tape.set?, hp]
    · rw [failure?, poke, Tape.set?, hp] at h
      cases h
  | setInput input =>
    rcases hinput : input.toSource with g | source
    · rw [apply, setInput, hinput]
    · rw [failure?, setInput, hinput] at h
      cases h
  | setOutput output =>
    rcases houtput : output.toSink with g | sink
    · rw [apply, setOutput, houtput]
    · rw [failure?, setOutput, houtput] at h
      cases h
  | feed data =>
    have hinput : (s.input.feed data).2 = s.input := Source.feed_of_refused h
    rw [apply, feed]
    exact congrArg (fun input => { s with input }) hinput
  | clearOutput =>
    have houtput : s.output.clear?.2 = s.output := Sink.clear?_of_refused h
    rw [apply, clearOutput]
    exact congrArg (fun output => { s with output }) houtput

/-- No value and numbers, truth values among them: what no program text can be made of. -/
inductive NoText : Value → Prop
  | null : NoText .null
  | bool (b : Bool) : NoText (.bool b)
  | int (n : Int) : NoText (.int n)
  | float (x : Float) : NoText (.float x)

theorem failure?_load {source : Value} (h : NoText source) (optimize : Value) :
    s.failure? (.load source optimize) = some .wrongKind := by
  cases h <;> rfl

/-- A text with a character beyond the codes of one byte stands for no bytes. -/
theorem toBytes_of_wide {text : String} {c : Char} (hc : c ∈ text.toList) (hwide : 0xFF < c.toNat) :
    (Data.value (.text text)).toBytes = .error .unencodable := by
  rw [Data.toBytes, Text.bytesOf?_eq_none_iff.mpr ⟨c, hc, hwide⟩]

theorem failure?_poke (p value : Int) :
    s.failure? (.poke p value) =
      if -(s.tape.size : Int) ≤ p ∧ p < s.tape.size then none else some .badIndex := by
  rw [failure?, poke, Tape.set?, Tape.index?]
  by_cases hstart : 0 ≤ p ∧ p < s.tape.size
  · rw [if_pos hstart, if_pos ⟨by omega, hstart.2⟩]
  rw [if_neg hstart]
  by_cases hend : -(s.tape.size : Int) ≤ p ∧ p < 0
  · rw [if_pos hend, if_pos ⟨hend.1, by omega⟩]
  · rw [if_neg hend, if_neg (by omega)]

end Refused

/-! ### The end of the input -/

/-- The tape after so many bytes have been stored in a cell, one over the other. -/
def putLast (t : Tape) (p : Nat) (bytes : List UInt8) : Tape := (bytes.getLast?).elim t (t.put p)

/-- **What a step leaves that has found the input at its end** after it has taken some bytes: they
are all that there was, the last of them is in the current cell, they are counted, and
the reads that are done by now are remembered. -/
structure Drained (bytes : List UInt8) (s t : Session) : Prop where
  /-- The source has given these bytes, and then it was at its end. -/
  taken : s.input.readMany (bytes.length + 1) = (.ok (bytes.map some ++ [none]), t.input)
  /-- There is nothing left in it. -/
  pending : t.input.pending = []
  /-- Nothing else is another. -/
  same : t = { s with
    input := t.input, tape := putLast s.tape s.pointer bytes, reads := s.reads + bytes.length,
    partialReads := [⟨s.pc, s.readsDone + bytes.length⟩] }

section Drained

variable {total left length pc : Nat} {s t : Session}

theorem putLast_cons (t : Tape) (p : Nat) (b : UInt8) (bytes : List UInt8) :
    putLast t p (b :: bytes) = putLast (t.put p b) p bytes := by
  rw [putLast, putLast, List.getLast?_cons]
  rcases bytes.getLast? with _ | last
  · rfl
  · exact (Tape.put_put t p b last).symm

/-- The reads of one instruction that find the input at its end. -/
theorem readInput_drained (hle : left ≤ total)
    (h : readInput total left s = (some (.endOfInput pc), t)) :
    ∃ bytes : List UInt8,
      s.input.readMany (bytes.length + 1) = (.ok (bytes.map some ++ [none]), t.input) ∧
      t.input.pending = [] ∧
      t = (s.withReads t.input (putLast s.tape s.pointer bytes) (s.reads + bytes.length)
        s.misses).rememberReads (total - left + bytes.length) := by
  have heof : s.eof = .error := by
    have hout := readInput_outcome hle s
    rw [h] at hout
    cases hout with
    | ended _ _ heof => exact heof
  induction left generalizing s with
  | zero => cases h
  | succ left ih =>
    rcases hread : s.input.read with ⟨f | ⟨_ | byte⟩, input⟩
    · obtain rfl := Source.read_error hread
      rw [readInput_failed hread] at h
      cases h
    · rw [readInput_end hread heof] at h
      cases h
      refine ⟨[], ?_, Source.pending_of_read hread, rfl⟩
      rw [Source.readMany, hread]
      rfl
    · rw [readInput_byte hread] at h
      obtain ⟨bytes, htaken, hpending, ht⟩ := ih (Nat.le_of_succ_le hle) h heof
      refine ⟨byte :: bytes, ?_, hpending, ?_⟩
      · rw [List.length_cons, Source.readMany, hread]
        have hrest : input.readMany (bytes.length + 1) = _ := htaken
        simp only [hrest]
        rfl
      · have hdone : total - (left + 1) + (bytes.length + 1) = total - left + bytes.length := by
          omega
        have hreads : s.reads + (bytes.length + 1) = s.reads + 1 + bytes.length := by omega
        rw [List.length_cons, putLast_cons, hdone, hreads]
        exact ht

/-- **A step that finds the input at its end** leaves everything but what it has read. -/
theorem WellFormed.exists_drained (hs : s.WellFormed length)
    (h : s.step = (.failed (.endOfInput pc), t)) : ∃ bytes, Drained bytes s t := by
  rcases Session.step_failed h with ⟨e, -, hf, -⟩ | ⟨-, i, hi, hexec⟩
  · cases hf
  obtain ⟨n, rfl, hread⟩ := execute_failed hexec
  obtain ⟨bytes, htaken, hpending, ht⟩ := readInput_drained (Nat.sub_le n s.readsDone) hread
  refine ⟨bytes, htaken, hpending, ht.trans ?_⟩
  rw [Nat.sub_sub_self (hs.readsDone_le hi)]
  exact congrArg (fun parts : List PartialRead => { s with
    input := t.input, tape := putLast s.tape s.pointer bytes, reads := s.reads + bytes.length,
    partialReads := ⟨s.pc, s.readsDone + bytes.length⟩ :: parts }) hs.forgetReads_forgetReads

end Drained

/-! ### Intact sessions -/

/-- **What no failure does to a session.** -/
structure Intact (s : Session) : Prop where
  /-- What wants a program reports a compile error exactly if the session holds that error. -/
  reports_iff : ∀ {op : Operation} {e : CompileError}, op.WantsProgram →
    (s.failure? op = some (.compile e) ↔ s.error = some e)
  /-- It has changed nothing then. -/
  reported : ∀ {op : Operation} {e : CompileError}, op.WantsProgram →
    s.failure? op = some (.compile e) → s.apply op = s
  /-- What is refused before anything is executed has changed nothing. -/
  refused : ∀ {op : Operation} {f : Failure}, ¬op.Executes → s.failure? op = some f →
    s.apply op = s
  /-- That is so of a program text that is no value or a number, -/
  load : ∀ {source : Value}, NoText source → ∀ optimize,
    s.failure? (.load source optimize) = some .wrongKind
  /-- of an input that is no source, no text and no bytes, -/
  input : ∀ {v : Value}, v ≠ .null → (∀ text, v ≠ .text text) → (∀ bytes, v ≠ .bytes bytes) →
    s.failure? (.setInput (.data (.value v))) = some (.unusableInput v.kindName)
  /-- of an output that is no sink, -/
  output : ∀ {d : Data}, d ≠ .value .null →
    s.failure? (.setOutput (.data d)) = some (.unusableOutput d.kindName)
  /-- of a text with a character beyond the codes of one byte, as input or to be fed, -/
  text : ∀ {text : String} {c : Char}, c ∈ text.toList → 0xFF < c.toNat →
    s.failure? (.setInput (.data (.value (.text text)))) = some .unencodable ∧
      ∀ buffer, s.input = .buffer buffer →
        s.failure? (.feed (.value (.text text))) = some .unencodable
  /-- and of a position that is not on the tape, counted from its start or back from its end. -/
  poke : ∀ p value, s.failure? (.poke p value) =
    if -(s.tape.size : Int) ≤ p ∧ p < s.tape.size then none else some .badIndex
  /-- To look at a cell changes nothing anyway, and fails unless it is counted from the start. -/
  item : ∀ p, failureOf? (s.tape.item? p) =
    if 0 ≤ p ∧ p < s.tape.size then none else some (.outOfBounds p s.tape.size)
  /-- A step that finds the input at its end has changed nothing but what it has read. -/
  ended : ∀ {pc : Nat} {t : Session}, s.step = (.failed (.endOfInput pc), t) →
    ∃ bytes, Drained bytes s t

theorem WellFormed.intact {length : Nat} {s : Session} (hs : s.WellFormed length) : Intact s where
  reports_iff hop := ⟨error_of_failure? hop, fun herr => (failure?_of_error herr hop).1⟩
  reported hop h := (failure?_of_error (error_of_failure? hop h) hop).2
  refused hop h := apply_of_refused hop h
  load h optimize := failure?_load h optimize
  input := by
    intro v hnull htext hbytes
    cases v with
    | null => exact absurd rfl hnull
    | text text => exact absurd rfl (htext text)
    | bytes bytes => exact absurd rfl (hbytes bytes)
    | bool | int | float | date | moment | list | pair | set | mapping | again | deep => rfl
  output := by
    intro d hd
    rcases d with _ | v
    · rfl
    · cases v with
      | null => exact absurd rfl hd
      | text | bytes | bool | int | float | date | moment | list | pair | set | mapping | again
      | deep => rfl
  text := by
    intro text c hc hwide
    have hbytes := toBytes_of_wide hc hwide
    constructor
    · rw [failure?, setInput, Input.toSource, hbytes]
      rfl
    · intro buffer hinput
      rw [failure?, feed, hinput, Source.feed, hbytes]
  poke := failure?_poke
  item := by
    intro p
    rw [Tape.item?]
    split <;> rfl
  ended h := hs.exists_drained h

/-- **Failures leave a session intact**, whatever has been done with it. -/
theorem intact_history [Memory] {a : Arguments} {s : Session} (h : ofArguments a = .ok s)
    (history : List Operation) : Intact (s.applyAll history) := by
  obtain ⟨length, -, hs⟩ := wellFormed_ofArguments h
  exact (hs.applyAll history).intact

section Usual

attribute [local instance] Memory.usual

/-- A folded read that finds the input at its end for the second time. -/
theorem intact_history_ended :
    ∃ s t,
      ofArguments
          { source := some (.text ",,,."), tapeLength := some (.int 2),
            optimize := some (.bool true), maxIterations := none,
            input := some (.source (.buffer (.ofList [7]))), output := some (.sink (.buffer #[])),
            eof := some (.text EndMode.error.name), unknown := [] } = .ok s ∧
      t = s.applyAll [.run 9 true, .poke 1 300, .feed (.bytes false [8])] ∧ Intact t ∧
      t.failure? .step = some (.endOfInput 0) := by
  have h := ofArguments_fresh ",,,." true ⟨2, Nat.two_pos⟩ rfl .error [7] (.buffer #[])
  exact ⟨_, _, h, rfl, intact_history h _, rfl⟩

end Usual

end Session

end Brainfuck
