import Mathlib.Data.List.DropRight
import Brainfuck.Proofs.Session.Refusal

/-!
# The journal of a session

A journal tells what happens to the input and to the output of a session: which bytes are taken
from its source, written to its sink and fed to its source, in order, and when the execution is
forgotten (`Brainfuck.Event`). The journal of an operation is told from the session that it is
done with (`Brainfuck.Session.events`), from what the instructions that are executed want of the
endpoints, and not from what becomes of these.

A session goes by a journal if its counters count the bytes since the execution was forgotten, its
source has given and still holds what it held and was fed, and its sink has grown by what
was written (`Brainfuck.Session.Accounts`). Every step goes by its journal, those that fail
included, and so do runs and traces.
-/

namespace Brainfuck

/-- What happens to the input and to the output of a session. -/
inductive Event where
  /-- The execution is forgotten. -/
  | reset
  /-- Bytes are taken from the source. -/
  | took (bytes : List UInt8)
  /-- Bytes are written to the sink. -/
  | wrote (bytes : List UInt8)
  /-- Bytes are fed to the source. -/
  | fed (bytes : List UInt8)
deriving DecidableEq

namespace Event

/-- The bytes that are taken. -/
def bytesTaken : Event → List UInt8
  | took bytes => bytes
  | _ => []

/-- The bytes that are written. -/
def bytesWritten : Event → List UInt8
  | wrote bytes => bytes
  | _ => []

/-- The bytes that are fed. -/
def bytesFed : Event → List UInt8
  | fed bytes => bytes
  | _ => []

end Event

/-! ### Journals -/

/-- The bytes taken from sources, in order. -/
def taken (journal : List Event) : List UInt8 := journal.flatMap Event.bytesTaken

/-- The bytes written to sinks, in order. -/
def written (journal : List Event) : List UInt8 := journal.flatMap Event.bytesWritten

/-- The bytes fed to sources, in order. -/
def fed (journal : List Event) : List UInt8 := journal.flatMap Event.bytesFed

/-- The events since the execution was forgotten. -/
def sinceReset (journal : List Event) : List Event := journal.rtakeWhile (· ≠ .reset)

section Journal

variable (a b : List Event) (e : Event)

theorem taken_append : taken (a ++ b) = taken a ++ taken b := List.flatMap_append

theorem written_append : written (a ++ b) = written a ++ written b := List.flatMap_append

theorem fed_append : fed (a ++ b) = fed a ++ fed b := List.flatMap_append

theorem taken_singleton : taken [e] = e.bytesTaken := List.flatMap_singleton _ _

theorem written_singleton : written [e] = e.bytesWritten := List.flatMap_singleton _ _

theorem fed_singleton : fed [e] = e.bytesFed := List.flatMap_singleton _ _

theorem sinceReset_reset : sinceReset (a ++ [.reset]) = [] :=
  List.rtakeWhile_concat_neg _ _ _ (by simp)

variable {e}

theorem sinceReset_concat (he : e ≠ .reset) : sinceReset (a ++ [e]) = sinceReset a ++ [e] :=
  List.rtakeWhile_concat_pos _ _ _ (by simp [he])

end Journal

/-- The bytes that a source gives to so many reads, up to the first that gets none. -/
def Source.taken : Nat → Source → List UInt8
  | 0, _ => []
  | n + 1, s =>
    match s.read with
    | (.ok (some byte), s) => byte :: taken n s
    | _ => []

theorem Source.taken_of_pending_nil {s : Source} (h : s.pending = []) (n : Nat) :
    s.taken n = [] := by
  cases n with
  | zero => rfl
  | succ n => rw [taken, read_of_pending_nil h]

namespace Session

/-! ### The journal of a session -/

/-- What an instruction takes and writes: a read takes what the source gives to those of its reads
that are not done yet, and a write writes the current cell as often as it is to be written. -/
def transferOf (s : Session) : Instruction → List Event
  | .perform .read times => [.took (s.input.taken (times - s.readsDone))]
  | .perform .write times => [.wrote (List.replicate times s.cell)]
  | _ => []

/-- What the next step takes and writes. -/
def transfer (s : Session) : List Event :=
  match s.error, s.program.at? s.pc with
  | none, some i => s.transferOf i
  | _, _ => []

/-- What up to so many steps take and write, if no step is taken behind a session that is at its
limit. -/
def transfers (atLimit : Session → Bool) : (steps : Nat) → Session → List Event
  | 0, _ => []
  | steps + 1, s =>
    s.transfer ++
      match s.step with
      | (.value _, t) => if atLimit t then [] else transfers atLimit steps t
      | _ => []

/-- What a trace from the start takes and writes. -/
def tracedTransfers (s : Session) (steps : Nat) : List Event :=
  .reset :: s.reset.transfers (fun _ => false) steps

/-- How many steps a trace may take that has a bound and is given up after so many entries, or not
at all. -/
def traceSteps (bound : Value) (take : Option Nat) : Nat :=
  let steps := (countBelow? bound).getD 0
  take.elim steps (min steps)

/-- What happens to the input and to the output in an operation, whether it fails or not. -/
def events (s : Session) : Operation → List Event
  | .step => s.transfer
  | .run fuel fromStart =>
    if s.error.isSome then []
    else if fromStart then .reset :: s.reset.transfers exceedsCap fuel
    else s.transfers exceedsCap fuel
  | .load source _ => if (failureOf? (commandsOfValue source)).isSome then [] else [.reset]
  | .reset => [.reset]
  | .feed data =>
    match s.input, data.toBytes with
    | .buffer _, .ok bytes => [.fed bytes]
    | _, _ => []
  | .trace bound take =>
    if s.error.isSome ∨ take = some 0 then [] else s.tracedTransfers (traceSteps bound take)
  | .debug width bound =>
    if s.error.isSome then []
    else if (Debugger.widthOfValue? s.tape.size width).isNone then [.reset]
    else s.tracedTransfers (traceSteps bound none)
  | .poke _ _ | .setInput _ | .setOutput _ | .clearOutput => []

/-- What happens to the input and to the output in a history. -/
def journal (s : Session) : List Operation → List Event
  | [] => []
  | op :: rest => s.events op ++ (s.apply op).journal rest

/-! ### Accounts -/

/-- The counters of a session have gone with a journal. -/
structure Counts (s : Session) (journal : List Event) (t : Session) : Prop where
  /-- The bytes that have been read. -/
  reads : ∀ before : List Event, s.reads = (taken (sinceReset before)).length →
    t.reads = (taken (sinceReset (before ++ journal))).length
  /-- The bytes that have been written. -/
  writes : ∀ before : List Event, s.writes = (written (sinceReset before)).length →
    t.writes = (written (sinceReset (before ++ journal))).length

/-- What a source in memory has given and what it holds is what it held and what it was fed. -/
def Conserves (s : Session) (journal : List Event) (t : Session) : Prop :=
  ∀ bytes, s.input.unread? = some bytes →
    ∃ left, t.input.unread? = some left ∧ taken journal ++ left = bytes ++ fed journal

/-- **What a session does by its journal**: its counters count it, its source has given it and its
sink has taken it. -/
structure Accounts (s : Session) (journal : List Event) (t : Session) : Prop where
  /-- The counters. -/
  counts : Counts s journal t
  /-- The source. -/
  source : Conserves s journal t
  /-- The sink. -/
  sink : t.output = s.output.write (written journal)

section Accounts

variable {s t u : Session} {a b : List Event} {e : Event}

/-- Nothing is counted. -/
theorem counts_of_eq (hreads : t.reads = s.reads) (hwrites : t.writes = s.writes) :
    Counts s [] t where
  reads before h := by rw [List.append_nil, hreads, h]
  writes before h := by rw [List.append_nil, hwrites, h]

theorem Counts.trans (h : Counts s a t) (h' : Counts t b u) : Counts s (a ++ b) u where
  reads before hbefore := by
    rw [← List.append_assoc]
    exact h'.reads _ (h.reads before hbefore)
  writes before hbefore := by
    rw [← List.append_assoc]
    exact h'.writes _ (h.writes before hbefore)

theorem counts_of_event (he : e ≠ .reset) (hreads : t.reads = s.reads + e.bytesTaken.length)
    (hwrites : t.writes = s.writes + e.bytesWritten.length) : Counts s [e] t where
  reads before h := by
    rw [sinceReset_concat _ he, taken_append, List.length_append, taken_singleton, hreads, h]
  writes before h := by
    rw [sinceReset_concat _ he, written_append, List.length_append, written_singleton, hwrites, h]

/-- The counters start anew. -/
theorem counts_of_reset (hreads : t.reads = 0) (hwrites : t.writes = 0) : Counts s [.reset] t where
  reads _ _ := by
    rw [sinceReset_reset, hreads]
    rfl
  writes _ _ := by
    rw [sinceReset_reset, hwrites]
    rfl

/-- The source is left alone. -/
theorem conserves_of_eq (hinput : t.input = s.input) (htaken : taken a = []) (hfed : fed a = []) :
    Conserves s a t := by
  intro bytes h
  refine ⟨bytes, hinput ▸ h, ?_⟩
  rw [htaken, hfed, List.nil_append, List.append_nil]

theorem Conserves.trans (h : Conserves s a t) (h' : Conserves t b u) : Conserves s (a ++ b) u := by
  intro bytes hbytes
  obtain ⟨held, hheld, heq⟩ := h bytes hbytes
  obtain ⟨left, hleft, heq'⟩ := h' held hheld
  refine ⟨left, hleft, ?_⟩
  calc taken (a ++ b) ++ left = taken a ++ (taken b ++ left) := by
        rw [taken_append, List.append_assoc]
    _ = (taken a ++ held) ++ fed b := by rw [heq', List.append_assoc]
    _ = bytes ++ fed (a ++ b) := by rw [heq, fed_append, List.append_assoc]

/-- The sink is left alone. -/
theorem output_of_eq (houtput : t.output = s.output) (hwritten : written a = []) :
    t.output = s.output.write (written a) := by
  rw [houtput, hwritten, Sink.write_nil]

theorem Accounts.trans (h : Accounts s a t) (h' : Accounts t b u) : Accounts s (a ++ b) u where
  counts := h.counts.trans h'.counts
  source := h.source.trans h'.source
  sink := by rw [h'.sink, h.sink, written_append, Sink.write_append]

/-- Nothing happens to the input and to the output. -/
theorem accounts_of_eq (hreads : t.reads = s.reads) (hwrites : t.writes = s.writes)
    (hinput : t.input = s.input) (houtput : t.output = s.output) : Accounts s [] t :=
  ⟨counts_of_eq hreads hwrites, conserves_of_eq hinput rfl rfl, output_of_eq houtput rfl⟩

theorem Accounts.refl (s : Session) : Accounts s [] s := accounts_of_eq rfl rfl rfl rfl

/-- The execution is forgotten, and nothing else happens to the input and to the output. -/
theorem accounts_of_reset (hreads : t.reads = 0) (hwrites : t.writes = 0)
    (hinput : t.input = s.input) (houtput : t.output = s.output) : Accounts s [.reset] t :=
  ⟨counts_of_reset hreads hwrites, conserves_of_eq hinput rfl rfl, output_of_eq houtput rfl⟩

theorem accounts_reset (s : Session) : Accounts s [.reset] s.reset :=
  accounts_of_reset rfl rfl rfl rfl

end Accounts

/-! ### Steps -/

section Step

variable {s t : Session}

/-- **The reads of one instruction** count what the source gives them, whatever comes of them. -/
theorem readInput_counts (total left : Nat) (s : Session) :
    (readInput total left s).2.reads = s.reads + (s.input.taken left).length ∧
      (readInput total left s).2.writes = s.writes ∧
      (readInput total left s).2.output = s.output := by
  induction left generalizing s with
  | zero => exact ⟨rfl, rfl, rfl⟩
  | succ left ih =>
    rcases hread : s.input.read with ⟨f | ⟨_ | byte⟩, input⟩
    · rw [readInput_failed hread, Source.taken, hread]
      exact ⟨rfl, rfl, rfl⟩
    · have hnil : s.reads + (input.taken left).length = s.reads := by
        rw [Source.taken_of_pending_nil (Source.pending_of_read hread), List.length_nil,
          Nat.add_zero]
      rw [Source.taken, hread]
      cases heof : s.eof with
      | keep =>
        obtain ⟨hreads, hrest⟩ := ih (s.withReads input s.tape s.reads (s.pc :: s.misses))
        rw [readInput_keep hread heof]
        exact ⟨hreads.trans hnil, hrest⟩
      | zero =>
        obtain ⟨hreads, hrest⟩ :=
          ih (s.withReads input (s.tape.put s.pointer 0) s.reads (s.pc :: s.misses))
        rw [readInput_zero hread heof]
        exact ⟨hreads.trans hnil, hrest⟩
      | error =>
        rw [readInput_end hread heof]
        exact ⟨rfl, rfl, rfl⟩
    · obtain ⟨hreads, hrest⟩ :=
        ih (s.withReads input (s.tape.put s.pointer byte) (s.reads + 1) s.misses)
      rw [readInput_byte hread, Source.taken, hread]
      refine ⟨hreads.trans ?_, hrest⟩
      rw [List.length_cons]
      exact (Nat.add_right_comm _ _ _).trans (Nat.add_assoc _ _ _)

/-- What a source in memory gives to the reads of one instruction comes before what it holds
afterwards. -/
theorem readInput_conserves (total left : Nat) (s : Session) {bytes : List UInt8}
    (h : s.input.unread? = some bytes) :
    ∃ rest, (readInput total left s).2.input.unread? = some rest ∧
      s.input.taken left ++ rest = bytes := by
  induction left generalizing s bytes with
  | zero => exact ⟨bytes, h, rfl⟩
  | succ left ih =>
    rcases bytes with _ | ⟨byte, bytes⟩
    · have hread := Source.read_of_unread?_nil h
      have hnil := Source.taken_of_pending_nil (Source.pending_of_read hread)
      rw [hnil]
      have hrest : ∀ tape reads misses, ∃ rest,
          (readInput total left (s.withReads s.input tape reads misses)).2.input.unread? =
            some rest ∧ rest = [] := by
        intro tape reads misses
        obtain ⟨rest, hleft, heq⟩ := ih (s.withReads s.input tape reads misses) h
        exact ⟨rest, hleft, (List.append_eq_nil_iff.mp heq).2⟩
      cases heof : s.eof with
      | keep =>
        rw [readInput_keep hread heof]
        exact hrest _ _ _
      | zero =>
        rw [readInput_zero hread heof]
        exact hrest _ _ _
      | error =>
        rw [readInput_end hread heof]
        exact ⟨[], h, rfl⟩
    · obtain ⟨input, hread, hinput⟩ := Source.read_of_unread?_cons h
      obtain ⟨rest, hleft, heq⟩ :=
        ih (s.withReads input (s.tape.put s.pointer byte) (s.reads + 1) s.misses) hinput
      rw [readInput_byte hread, Source.taken, hread]
      exact ⟨rest, hleft, congrArg (List.cons byte) heq⟩

/-- An instruction goes by its journal, whether it fails or not. -/
theorem accounts_execute (s : Session) (i : Instruction) :
    Accounts s (s.transferOf i) (s.execute i).2 := by
  cases i with
  | perform action times =>
    cases action with
    | read =>
      obtain ⟨hreads, hwrites, houtput⟩ :=
        readInput_counts times (times - s.readsDone) s.forgetReads
      refine ⟨counts_of_event (by simp) hreads hwrites, fun bytes h => ?_, ?_⟩
      · obtain ⟨rest, hrest, heq⟩ :=
          readInput_conserves times (times - s.readsDone) s.forgetReads h
        refine ⟨rest, hrest, ?_⟩
        rw [transferOf, taken_singleton, fed_singleton]
        exact heq.trans (List.append_nil bytes).symm
      · exact output_of_eq houtput rfl
    | write =>
      refine ⟨counts_of_event (by simp) rfl ?_, conserves_of_eq rfl rfl rfl, ?_⟩
      · exact congrArg (s.writes + ·) List.length_replicate.symm
      · rw [transferOf, written_singleton]
        rfl
    | left | right | increment | decrement => exact accounts_of_eq rfl rfl rfl rfl
  | opening partner | closing partner =>
    rw [execute]
    split <;> exact accounts_of_eq rfl rfl rfl rfl

/-- **Every step goes by its journal**, whatever comes of it. -/
theorem accounts_step (s : Session) : Accounts s s.transfer s.step.2 := by
  rw [transfer]
  rcases herr : s.error with _ | e
  · rcases hi : s.program.at? s.pc with _ | i
    · rw [step_of_none herr hi]
      exact .refl s
    · have hexec := accounts_execute s i
      rcases hs : s.execute i with ⟨_ | f, t⟩ <;> rw [hs] at hexec
      · have hadvance := hexec.trans (accounts_of_eq (t := t.advance) rfl rfl rfl rfl)
        rw [List.append_nil] at hadvance
        rw [step_of_execute herr hi hs]
        exact hadvance
      · rw [step_of_execute_failed herr hi hs]
        exact hexec
  · rw [step_of_error herr]
    exact .refl s

/-! ### Many steps -/

theorem transfers_of_value {atLimit : Session → Bool} {c : UInt8} (hs : s.step = (.value c, t))
    (steps : Nat) :
    s.transfers atLimit (steps + 1) =
      s.transfer ++ if atLimit t then [] else t.transfers atLimit steps := by
  rw [transfers, hs]

theorem transfers_of_finished {atLimit : Session → Bool} (hs : s.step = (.finished, t))
    (steps : Nat) : s.transfers atLimit (steps + 1) = s.transfer := by
  rw [transfers, hs]
  exact List.append_nil _

theorem transfers_of_failed {atLimit : Session → Bool} {f : Failure}
    (hs : s.step = (.failed f, t)) (steps : Nat) :
    s.transfers atLimit (steps + 1) = s.transfer := by
  rw [transfers, hs]
  exact List.append_nil _

theorem transfers_of_none {atLimit : Session → Bool} (hi : s.program.at? s.pc = none)
    (steps : Nat) : s.transfers atLimit steps = [] := by
  cases steps with
  | zero => rfl
  | succ steps =>
    have hnone : s.transfer = [] := by
      rw [transfer, hi]
      cases s.error <;> rfl
    rcases herr : s.error with _ | e
    · rw [transfers_of_finished (step_of_none herr hi), hnone]
    · rw [transfers_of_failed (step_of_error herr), hnone]

/-- **A run goes by its journal**, wherever it stops. -/
theorem accounts_continueRun (fuel : Nat) (s : Session) :
    Accounts s (s.transfers exceedsCap fuel) (continueRun fuel s).2 := by
  induction fuel generalizing s with
  | zero => exact .refl s
  | succ fuel ih =>
    have hstep := accounts_step s
    rcases hs : s.step with ⟨c | _ | f, t⟩ <;> rw [hs] at hstep
    · rw [transfers_of_value hs]
      by_cases hexceeded : t.exceedsCap = true
      · rw [continueRun_of_exceeded hs hexceeded, if_pos hexceeded]
        exact hstep.trans (accounts_of_eq rfl rfl rfl rfl)
      · rw [continueRun_of_value hs (Bool.eq_false_iff.mpr hexceeded), if_neg hexceeded]
        exact hstep.trans (ih t)
    · rw [transfers_of_finished hs, continueRun, hs]
      exact hstep
    · rw [transfers_of_failed hs, continueRun_of_failed hs]
      exact hstep

/-- **A trace goes by its journal**, wherever it stops. -/
theorem accounts_observe {β : Type} (note : TraceEntry → Session → β) (limit : Nat) (s : Session) :
    Accounts s (s.transfers (fun _ => false) limit) (s.observe note limit).2.2 := by
  induction limit generalizing s with
  | zero => exact .refl s
  | succ limit ih =>
    have hstep := accounts_step s
    rcases s.step_cases with hi | ⟨i, c, t, hi, hs⟩ | ⟨i, f, t, hi, hs⟩
    · rw [transfers_of_none hi, observe_of_none hi]
      exact .refl s
    · rw [hs] at hstep
      rw [transfers_of_value hs, observe_of_value hi hs]
      exact hstep.trans (ih t)
    · rw [hs] at hstep
      rw [transfers_of_failed hs, observe_of_failed hi hs]
      exact hstep

end Step

end Session

end Brainfuck
