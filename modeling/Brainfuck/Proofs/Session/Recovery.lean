import Brainfuck.Proofs.Endpoints
import Brainfuck.Proofs.Session.Lockstep

/-!
# Recovery from the end of the input

A run that stops for want of input can be given more and continued, as often as it takes, and
nothing tells the session in the end from one that had all of its input at the start.

The comparison is between a session and the same session with more input behind its own
(`Brainfuck.Session.MoreInput`). As long as no read fails, the two stay like this, step by
step (`Brainfuck.Session.step_more`). When a read does fail in the one that has less, the
other goes on in the middle of an instruction, and here the two can only be compared again
after the instruction: executing it with all the input is the same as executing it again
after it has failed, with what is remembered of the first attempt and with the rest of the
input (`Brainfuck.Session.step_resume`).
-/

namespace Brainfuck

namespace Session

/-! ### More input -/

/-- A session that can be continued when its input has ended, and the same session with more
bytes behind those that are left. -/
inductive MoreInput (later : List UInt8) : Session → Session → Prop
  /-- Only the source is another. -/
  | of_unread {s : Session} {left : List UInt8} {input : Source} :
    s.error = none → s.eof = .error → s.input.unread? = some left →
      input.unread? = some (left ++ later) → MoreInput later s (s.withInput input)

theorem MoreInput.trans {later : List UInt8} {s t u : Session} (h : MoreInput later s t)
    (h' : MoreInput [] t u) : MoreInput later s u := by
  cases h with
  | @of_unread left input herr heof hleft hinput =>
    cases h' with
    | @of_unread left' input' _ _ hleft' hinput' =>
      obtain rfl : left' = left ++ later := Option.some.inj (hleft'.symm.trans hinput)
      rw [List.append_nil] at hinput'
      exact .of_unread herr heof hleft hinput'

/-- Two sessions that have the same input more than one session are alike. -/
theorem MoreInput.alike {later : List UInt8} {s t u : Session} (h : MoreInput later s t)
    (h' : MoreInput later s u) : MoreInput [] t u := by
  cases h with
  | @of_unread left input herr heof hleft hinput =>
    cases h' with
    | @of_unread left' input' _ _ hleft' hinput' =>
      obtain rfl : left' = left := Option.some.inj (hleft'.symm.trans hleft)
      rw [← List.append_nil (left' ++ later)] at hinput'
      exact .of_unread (s := s.withInput input) herr heof hinput hinput'

section Same

variable {later : List UInt8} {s u : Session}

theorem MoreInput.error (h : MoreInput later s u) : s.error = none := by
  cases h with
  | of_unread herr => exact herr

theorem MoreInput.error_more (h : MoreInput later s u) : u.error = none := by
  cases h with
  | of_unread herr => exact herr

theorem MoreInput.eof (h : MoreInput later s u) : s.eof = .error := by
  cases h with
  | of_unread _ heof => exact heof

/-- Both sessions are at the same instruction. -/
theorem MoreInput.at? (h : MoreInput later s u) :
    u.program.at? u.pc = s.program.at? s.pc := by
  cases h with
  | of_unread => rfl

theorem MoreInput.cell (h : MoreInput later s u) : u.cell = s.cell := by
  cases h with
  | of_unread => rfl

theorem MoreInput.exceedsCap (h : MoreInput later s u) : u.exceedsCap = s.exceedsCap := by
  cases h with
  | of_unread => rfl

theorem MoreInput.available (h : MoreInput later s u) : u.available = s.available := by
  cases h with
  | of_unread => rfl

theorem MoreInput.readsDone (h : MoreInput later s u) : u.readsDone = s.readsDone := by
  cases h with
  | of_unread => rfl

theorem MoreInput.forgetReads (h : MoreInput later s u) :
    MoreInput later s.forgetReads u.forgetReads := by
  cases h with
  | of_unread herr heof hleft hinput => exact .of_unread herr heof hleft hinput

theorem MoreInput.advance (h : MoreInput later s u) : MoreInput later s.advance u.advance := by
  cases h with
  | of_unread herr heof hleft hinput => exact .of_unread herr heof hleft hinput

theorem MoreInput.cutOff (h : MoreInput later s u) : MoreInput later s.cutOff u.cutOff := by
  cases h with
  | of_unread herr heof hleft hinput => exact .of_unread herr heof hleft hinput

/-- More input makes no difference outside of instructions. -/
theorem lockstep_moreInput (later : List UInt8) : Lockstep (MoreInput later) where
  error h := h.error_more.trans h.error.symm
  at? h := h.at?
  cell h := h.cell
  exceedsCap h := h.exceedsCap
  advance h := h.advance
  cutOff h := h.cutOff

end Same

/-- Two results that are equal, of sessions one of which has more input. -/
def Parallel {α : Type} (later : List UInt8) (a b : α × Session) : Prop :=
  b.1 = a.1 ∧ MoreInput later a.2 b.2

/-! ### As long as no read fails -/

section More

variable {later : List UInt8} {s u : Session} {total left : Nat}

theorem readInput_more (h : MoreInput later s u)
    (hok : (readInput total left s).1 = none ∨ later = []) :
    Parallel later (readInput total left s) (readInput total left u) := by
  induction left generalizing s u with
  | zero => exact ⟨rfl, h⟩
  | succ left ih =>
    cases h with
    | @of_unread bytes input herr heof hbytes hinput =>
      rcases bytes with _ | ⟨byte, rest⟩
      · rw [readInput_end (Source.read_of_unread?_nil hbytes) heof] at hok ⊢
        rcases hok with hok | rfl
        · cases hok
        rw [readInput_end (s := s.withInput input) (Source.read_of_unread?_nil hinput) heof]
        exact ⟨rfl, .of_unread herr heof hbytes hinput⟩
      · obtain ⟨i, hread, hi⟩ := Source.read_of_unread?_cons hbytes
        obtain ⟨j, hread', hj⟩ := Source.read_of_unread?_cons hinput
        rw [readInput_byte hread] at hok ⊢
        rw [readInput_byte (s := s.withInput input) hread']
        exact ih (.of_unread herr heof hi hj) hok

theorem execute_more (h : MoreInput later s u) (i : Instruction)
    (hok : (s.execute i).1 = none ∨ later = []) :
    Parallel later (s.execute i) (u.execute i) := by
  cases h with
  | @of_unread bytes input herr heof hbytes hinput =>
    have hcell : (s.withInput input).cell = s.cell := rfl
    cases i with
    | perform action times =>
      cases action with
      | read => exact readInput_more (.of_unread herr heof hbytes hinput) hok
      | left | right | increment | decrement | write =>
        exact ⟨rfl, .of_unread herr heof hbytes hinput⟩
    | opening partner =>
      rw [execute, execute, hcell]
      refine ⟨rfl, ?_⟩
      split <;> exact .of_unread herr heof hbytes hinput
    | closing partner =>
      rw [execute, execute, hcell]
      refine ⟨rfl, ?_⟩
      split <;> exact .of_unread herr heof hbytes hinput

theorem step_of_parallel {i : Instruction} (herr : s.error = none) (herr' : u.error = none)
    (hi : s.program.at? s.pc = some i) (hi' : u.program.at? u.pc = some i)
    (h : Parallel later (s.execute i) (u.execute i)) : Parallel later s.step u.step :=
  (lockstep_moreInput later).step_of_execute herr herr' hi hi' h

/-- **A step of both sessions at once**, as long as it does not fail. -/
theorem step_more (h : MoreInput later s u)
    (hok : (∀ f, s.step.1 ≠ .failed f) ∨ later = []) : Parallel later s.step u.step := by
  rcases hi : s.program.at? s.pc with _ | i
  · rw [step_of_none h.error hi, step_of_none h.error_more (h.at?.trans hi)]
    exact ⟨rfl, h⟩
  refine step_of_parallel h.error h.error_more hi (h.at?.trans hi)
    (execute_more h i (hok.imp_left fun hok => ?_))
  rcases hs : s.execute i with ⟨_ | f, t⟩
  · rfl
  · rw [step_of_execute_failed h.error hi hs] at hok
    exact absurd rfl (hok f)

/-- Two runs are parallel if their first steps are and what comes after these is. -/
theorem continueRun_of_step {fuel : Nat} (h : Parallel later s.step u.step)
    (hrest : ∀ {t v : Session}, MoreInput later t v →
      continueRun (fuel + 1) s = continueRun fuel t →
        Parallel later (continueRun fuel t) (continueRun fuel v)) :
    Parallel later (continueRun (fuel + 1) s) (continueRun (fuel + 1) u) :=
  (lockstep_moreInput later).continueRun_of_step h hrest

/-- **A run of both sessions at once**, as long as no step fails. -/
theorem continueRun_more (fuel : Nat) (h : MoreInput later s u)
    (hok : (∀ f, (continueRun fuel s).1 ≠ .failed f) ∨ later = []) :
    Parallel later (continueRun fuel s) (continueRun fuel u) := by
  induction fuel generalizing s u with
  | zero =>
    rw [continueRun, continueRun, h.available]
    exact ⟨rfl, h⟩
  | succ fuel ih =>
    refine continueRun_of_step (step_more h (hok.imp_left fun hok f hf => ?_)) fun hmore heq => ?_
    · rcases hs : s.step with ⟨o, t⟩
      rw [hs] at hf
      obtain rfl : o = .failed f := hf
      rw [continueRun_of_failed hs] at hok
      exact hok f rfl
    · rw [heq] at hok
      exact ih hmore hok

end More

/-! ### When a read fails -/

theorem readsDone_rememberReads (s : Session) (done : Nat) :
    (s.rememberReads done).readsDone = done := by
  simp [readsDone, rememberReads]

theorem forgetReads_rememberReads (s : Session) (done : Nat) :
    (s.rememberReads done).forgetReads = s.forgetReads := by
  simp [rememberReads, forgetReads]

theorem forgetReads_of_eq {s t : Session} (hpc : t.pc = s.pc)
    (h : t.partialReads = s.forgetReads.partialReads) : t.forgetReads = t := by
  have hfilter : t.partialReads.filter (·.pc ≠ t.pc) = t.partialReads := by
    rw [h, hpc, forgetReads]
    simp
  rw [forgetReads, hfilter]

/-- Reading again after a failure does the reads that are left. -/
theorem execute_again {r : Session} (hr : r.forgetReads = r) {n k : Nat} (hk : k ≤ n)
    (input : Source) :
    ((r.rememberReads (n - k)).withInput input).execute (.perform .read n) =
      readInput n k (r.withInput input) := by
  have hdone : ((r.rememberReads (n - k)).withInput input).readsDone = n - k :=
    readsDone_rememberReads r (n - k)
  have hleft : n - (n - k) = k := by omega
  have hforgotten : ((r.rememberReads (n - k)).withInput input).forgetReads =
      r.withInput input :=
    congrArg (withInput · input) ((forgetReads_rememberReads r (n - k)).trans hr)
  rw [execute, perform, hdone, hleft, hforgotten]

section Resume

variable {later : List UInt8} {s t u w : Session} {total left : Nat} {f : Failure}

/-- **Reads that fail are cut in two** at the place where the input ended. With more input, the
second part is what is left to do. -/
theorem readInput_resume (h : MoreInput later s u) (hle : left ≤ total)
    (hfailed : readInput total left s = (some f, t)) :
    ∃ n r v, t = r.rememberReads (total - n) ∧ n ≤ total ∧ f = .endOfInput s.pc ∧ r.pc = s.pc ∧
      r.partialReads = s.partialReads ∧ r.input.unread? = some [] ∧ MoreInput later r v ∧
      readInput total left u = readInput total n v := by
  induction left generalizing s u with
  | zero => cases hfailed
  | succ left ih =>
    cases h with
    | @of_unread bytes input herr heof hbytes hinput =>
      rcases bytes with _ | ⟨byte, rest⟩
      · rw [readInput_end (Source.read_of_unread?_nil hbytes) heof] at hfailed
        cases hfailed
        exact ⟨left + 1, s, s.withInput input, rfl, hle, rfl, rfl, rfl, hbytes,
          .of_unread herr heof hbytes hinput, rfl⟩
      · obtain ⟨i, hread, hi⟩ := Source.read_of_unread?_cons hbytes
        obtain ⟨j, hread', hj⟩ := Source.read_of_unread?_cons hinput
        rw [readInput_byte hread] at hfailed
        rw [readInput_byte (s := s.withInput input) hread']
        have hmore : MoreInput later
            (s.withReads i (s.tape.put s.pointer byte) (s.reads + 1) s.misses)
            (s.withReads j (s.tape.put s.pointer byte) (s.reads + 1) s.misses) :=
          .of_unread herr heof hi hj
        obtain ⟨n, r, v, ht, hn, hf, hpc, hparts, hrest⟩ :=
          ih hmore (Nat.le_of_succ_le hle) hfailed
        exact ⟨n, r, v, ht, hn, hf, hpc, hparts, hrest⟩

/-- **A step that fails can be taken again.** With the input that was missing it leads to the
same as if that input had been there before. -/
theorem step_resume (h : MoreInput later s u) (hfailed : s.step = (.failed f, t)) :
    f = .endOfInput t.pc ∧ MoreInput [] t t ∧ t.input.unread? = some [] ∧
      ∀ {w}, MoreInput later t w → Parallel [] w.step u.step := by
  rcases step_failed hfailed with ⟨e, he, -, -⟩ | ⟨-, i, hi, hexec⟩
  · rw [h.error] at he
    cases he
  obtain ⟨n, rfl, hread⟩ := execute_failed hexec
  obtain ⟨k, r, v, rfl, hk, rfl, hpc, hparts, hempty, hmore, hrest⟩ :=
    readInput_resume h.forgetReads (Nat.sub_le n s.readsDone) hread
  refine ⟨congrArg Failure.endOfInput hpc.symm, ?_, hempty, fun hw => ?_⟩
  · exact .of_unread (s := r.rememberReads (n - k)) hmore.error hmore.eof hempty hempty
  have hfirst : u.execute (.perform .read n) = readInput n k v := by
    rw [execute, perform, h.readsDone]
    exact hrest
  have hagain := execute_again (forgetReads_of_eq (s := s) hpc hparts) hk
  have hi' : (r.rememberReads (n - k)).program.at? (r.rememberReads (n - k)).pc =
      some (.perform .read n) := by
    obtain ⟨hkeeps, hpc', -⟩ := step_failed_keeps hfailed
    rw [hkeeps.program, hpc', hi]
  refine step_of_parallel hw.error_more h.error_more (hw.at?.trans hi') (h.at?.trans hi) ?_
  rw [hfirst]
  cases hw with
  | @of_unread bytes input _ _ hbytes hinput =>
    obtain rfl : bytes = [] := Option.some.inj (hbytes.symm.trans hempty)
    -- both sessions have the reads left to do, and the same input for them
    have hmore' : MoreInput later r (r.withInput input) :=
      .of_unread hmore.error hmore.eof hempty hinput
    rw [hagain input]
    exact readInput_more (hmore'.alike hmore) (Or.inr rfl)

/-- **A run that fails can be continued.** With the input that was missing it leads to the same as
the run that had that input from the start. -/
theorem continueRun_resume {fuel : Nat} (h : MoreInput later s u)
    (hfailed : continueRun fuel s = (.failed f, t)) :
    f = .endOfInput t.pc ∧ MoreInput [] t t ∧ t.input.unread? = some [] ∧
      ∀ {w}, MoreInput later t w → ∃ n, n < fuel ∧
        ∀ k, Parallel [] (continueRun (k + 1) w) (continueRun (n + (k + 1)) u) := by
  induction fuel generalizing s u with
  | zero =>
    rw [continueRun] at hfailed
    rcases havail : s.available with _ | _ <;> rw [havail] at hfailed <;> cases hfailed
  | succ fuel ih =>
    rcases hs : s.step with ⟨c | _ | g, t₁⟩
    · have hpar := step_more h (Or.inl fun f hf => by rw [hs] at hf; cases hf)
      rw [hs] at hpar
      rcases hu : u.step with ⟨o, u₁⟩
      rw [hu] at hpar
      obtain ⟨rfl, hmore⟩ := hpar
      rcases hcap : t₁.exceedsCap with _ | _
      · rw [continueRun_of_value hs hcap] at hfailed
        obtain ⟨hf, ht, hempty, hrest⟩ := ih hmore hfailed
        refine ⟨hf, ht, hempty, fun hw => ?_⟩
        obtain ⟨n, hn, hrun⟩ := hrest hw
        refine ⟨n + 1, Nat.succ_lt_succ hn, fun k => ?_⟩
        have hsucc : n + 1 + (k + 1) = n + (k + 1) + 1 := by omega
        rw [hsucc, continueRun_of_value hu (hmore.exceedsCap.trans hcap)]
        exact hrun k
      · rw [continueRun_of_exceeded hs hcap] at hfailed
        cases hfailed
    · rw [continueRun, hs] at hfailed
      cases hfailed
    · rw [continueRun_of_failed hs] at hfailed
      cases hfailed
      obtain ⟨hf, ht, hempty, hrest⟩ := step_resume h hs
      refine ⟨hf, ht, hempty, fun hw => ⟨0, Nat.succ_pos fuel, fun k => ?_⟩⟩
      rw [Nat.zero_add]
      exact continueRun_of_step (hrest hw) fun hmore _ => continueRun_more k hmore (Or.inr rfl)

end Resume

/-! ### Driving a session -/

end Session

/-- A way to give a session more input once it has found its input ended. -/
inductive Supply where
  /-- Feed the source it has. -/
  | feed (bytes : List UInt8)
  /-- Give it another source. -/
  | replace (bytes : List UInt8)

namespace Supply

/-- The bytes that are supplied. -/
def bytes : Supply → List UInt8
  | feed bytes => bytes
  | replace bytes => bytes

/-- The bytes that are supplied one after the other. -/
def allBytes (supplies : List Supply) : List UInt8 := supplies.flatMap bytes

end Supply

namespace Session

/-- Give the session more input. -/
def supply (s : Session) : Supply → Option Failure × Session
  | .feed bytes => s.feed (.bytes false bytes)
  | .replace bytes => s.setInput (.data (.bytes false bytes))

/-- Go on after a run, with as much fuel for each run: whenever the input has ended, supply more
and continue, as long as there is something to supply. What has not been supplied is left. -/
def drive (fuel : Nat) : List Supply → Ending × Session → Ending × Session × List Supply
  | x :: rest, (.failed (.endOfInput _), s) =>
    match s.supply x with
    | (none, t) => drive fuel rest (t.run fuel false)
    | (some f, t) => (.failed f, t, x :: rest)
  | supplies, (e, s) => (e, s, supplies)

section Drive

variable {s t u : Session} {fuel : Nat} {e : Ending} {left : List Supply}

theorem drive_nil (fuel : Nat) (e : Ending) (s : Session) :
    drive fuel [] (e, s) = (e, s, []) := rfl

theorem drive_finished (fuel : Nat) (supplies : List Supply) (s : Session) :
    drive fuel supplies (.finished, s) = (.finished, s, supplies) := by
  cases supplies <;> rfl

theorem drive_outOfFuel (fuel : Nat) (supplies : List Supply) (s : Session) :
    drive fuel supplies (.outOfFuel, s) = (.outOfFuel, s, supplies) := by
  cases supplies <;> rfl

/-- A session whose input has ended takes what it is given, in either way. -/
theorem exists_supply (hs : MoreInput [] s s) (hempty : s.input.unread? = some []) (x : Supply) :
    ∃ t, s.supply x = (none, t) ∧ MoreInput x.bytes s t := by
  have herr := hs.error
  have heof := hs.eof
  cases x with
  | feed bytes =>
    obtain ⟨b, hb, hunread⟩ := Source.exists_buffer hempty
    refine ⟨s.withInput (.buffer (b.feed bytes)), ?_, .of_unread herr heof hempty ?_⟩
    · rw [supply, Session.feed, hb]
      rfl
    · rw [Source.unread?, Buffer.unread_feed, hunread]
      rfl
  | replace bytes =>
    exact ⟨s.withInput (.buffer (.ofList bytes)), rfl, .of_unread herr heof hempty rfl⟩

/-- One supply of a driven session: it is continued as it would have been with all the input,
of which it has been given a part and the rest is still to come. -/
theorem drive_cons {f : Failure} (hrun : continueRun fuel s = (.failed f, t)) (x : Supply)
    (rest : List Supply) (h : MoreInput (Supply.allBytes (x :: rest)) s u) :
    ∃ v w n, drive fuel (x :: rest) (continueRun fuel s) =
        drive fuel rest (continueRun fuel v) ∧
      MoreInput (Supply.allBytes rest) v w ∧ n < fuel ∧
      ∀ k, Parallel [] (continueRun (k + 1) w) (continueRun (n + (k + 1)) u) := by
  obtain ⟨rfl, ht, hempty, hresume⟩ := continueRun_resume h hrun
  obtain ⟨v, hv, hsupplied⟩ := exists_supply ht hempty x
  cases hsupplied with
  | @of_unread bytes input herr heof hbytes hinput =>
    obtain rfl : bytes = [] := Option.some.inj (hbytes.symm.trans hempty)
    have hall : (Source.buffer (.ofList (Supply.allBytes (x :: rest)))).unread? =
        some ([] ++ x.bytes ++ Supply.allBytes rest) := rfl
    obtain ⟨n, hn, hpar⟩ := hresume (.of_unread herr heof hempty hall)
    refine ⟨t.withInput input, t.withInput (.buffer (.ofList (Supply.allBytes (x :: rest)))), n,
      ?_, .of_unread (s := t.withInput input) herr heof hinput hall, hn, hpar⟩
    have hcontinue : (t.withInput input).run fuel false = continueRun fuel (t.withInput input) := by
      rw [run]
      simp only [withInput, herr, Bool.false_eq_true, if_false]
    rw [hrun, drive, hv, ← hcontinue]

/-- **A driven session ends as the one with all the input does.** -/
theorem exists_continueRun_of_drive (supplies : List Supply)
    (h : MoreInput (Supply.allBytes supplies) s u)
    (hdrive : drive fuel supplies (continueRun fuel s) = (e, t, left)) (he : e ≠ .outOfFuel) :
    (e = .finished ∨ e = .failed (.endOfInput t.pc) ∧ left = []) ∧
      ∃ n v, continueRun n u = (e, v) ∧ MoreInput (Supply.allBytes left) t v := by
  induction supplies generalizing s u with
  | nil =>
    have hpar := continueRun_more fuel h (Or.inr rfl)
    rcases hrun : continueRun fuel s with ⟨e₀, s₀⟩
    rcases hu : continueRun fuel u with ⟨e₁, u₁⟩
    rw [hrun, drive_nil] at hdrive
    rw [hrun, hu] at hpar
    cases hdrive
    obtain ⟨rfl, hmore⟩ := hpar
    refine ⟨?_, fuel, u₁, hu, hmore⟩
    cases e₁ with
    | finished => exact Or.inl rfl
    | outOfFuel => exact absurd rfl he
    | failed f =>
      obtain ⟨hf, -⟩ := continueRun_resume h hrun
      exact Or.inr ⟨congrArg Ending.failed hf, rfl⟩
  | cons x rest ih =>
    rcases hrun : continueRun fuel s with ⟨_ | f | _, s₀⟩
    · have hpar := continueRun_more fuel h (Or.inl fun f hf => by rw [hrun] at hf; cases hf)
      rcases hu : continueRun fuel u with ⟨e₁, u₁⟩
      rw [hrun, drive_finished] at hdrive
      rw [hrun, hu] at hpar
      cases hdrive
      obtain ⟨rfl, hmore⟩ := hpar
      exact ⟨Or.inl rfl, fuel, u₁, hu, hmore⟩
    · obtain ⟨v, w, n, hcons, hmore, -, hpar⟩ := drive_cons hrun x rest h
      rw [hcons] at hdrive
      obtain ⟨hending, k, w₁, hw, hleft⟩ := ih hmore hdrive
      have hwerr : w.error = none := hmore.error_more
      have hpar' := hpar k
      rw [continueRun_add hwerr hw he 1] at hpar'
      rcases hu : continueRun (n + (k + 1)) u with ⟨e₁, u₁⟩
      rw [hu] at hpar'
      obtain ⟨rfl, halike⟩ := hpar'
      exact ⟨hending, n + (k + 1), u₁, hu, hleft.trans halike⟩
    · rw [hrun, drive_outOfFuel] at hdrive
      cases hdrive
      exact absurd rfl he

/-- **A driven session ends if the one with all the input does.** -/
theorem drive_ne_outOfFuel (supplies : List Supply)
    (h : MoreInput (Supply.allBytes supplies) s u)
    (hu : (continueRun fuel u).1 ≠ .outOfFuel) :
    (drive fuel supplies (continueRun fuel s)).1 ≠ .outOfFuel := by
  induction supplies generalizing s u with
  | nil =>
    have hpar := continueRun_more fuel h (Or.inr rfl)
    rw [hpar.1] at hu
    exact hu
  | cons x rest ih =>
    rcases hrun : continueRun fuel s with ⟨_ | f | _, s₀⟩
    · rw [drive_finished]
      nofun
    · obtain ⟨v, w, n, hcons, hmore, hn, hpar⟩ := drive_cons hrun x rest h
      rw [← hrun, hcons]
      refine ih hmore ?_
      -- what is left of the fuel is enough for the run that is continued
      obtain ⟨j, rfl⟩ := Nat.exists_eq_add_of_lt hn
      have hw : (continueRun (j + 1) w).1 ≠ .outOfFuel := by
        rw [← (hpar j).1]
        exact hu
      rcases hend : continueRun (j + 1) w with ⟨e₁, w₁⟩
      rw [hend] at hw
      have hfuel : n + j + 1 = j + 1 + n := by omega
      rw [hfuel, continueRun_add hmore.error_more hend hw n]
      exact hw
    · have hpar := continueRun_more fuel h
        (Or.inl fun f hf => by rw [hrun] at hf; cases hf)
      rw [hrun] at hpar
      exact absurd hpar.1 hu

end Drive

/-! ### Driving a fresh session -/

section Fresh

variable {commands : List Command} {optimize : Bool} {length : TapeLength} {cap : Option Cap}
  {sink : Sink} {p : Program} {first : List UInt8} {supplies : List Supply}

theorem moreInput_fresh (h : Program.compile commands optimize = .ok p) (first later : List UInt8) :
    MoreInput later (fresh commands optimize length cap .error first sink)
      (fresh commands optimize length cap .error (first ++ later) sink) := by
  rw [fresh_of_compile h, fresh_of_compile h]
  have hall : (Source.buffer (.ofList (first ++ later))).unread? = some (first ++ later) := rfl
  exact .of_unread rfl rfl rfl hall

/-- A fresh session that is driven to an end agrees with the run on the whole input. -/
theorem exists_ends_of_drive (h : Program.compile commands optimize = .ok p) {fuel : Nat}
    {e : Ending} {t : Session} {left : List Supply}
    (hdrive : drive fuel supplies
      ((fresh commands optimize length cap .error first sink).run fuel true) = (e, t, left))
    (he : e ≠ .outOfFuel) :
    (e = .finished ∨ e = .failed (.endOfInput t.pc) ∧ left = []) ∧
      ∃ u, (fresh commands optimize length cap .error (first ++ Supply.allBytes supplies)
        sink).Ends e u ∧ t = { u with input := t.input } ∧
        ∃ unread, t.input.unread? = some unread ∧
          u.input.unread? = some (unread ++ Supply.allBytes left) := by
  rw [run_fresh h] at hdrive
  obtain ⟨hending, n, u, hu, hleft⟩ :=
    exists_continueRun_of_drive supplies (moreInput_fresh h first _) hdrive he
  refine ⟨hending, u, ⟨he, n, ?_⟩, ?_⟩
  · rw [run_fresh h, hu]
  · cases hleft with
    | of_unread _ _ hunread hunread' => exact ⟨rfl, _, hunread, hunread'⟩

/-- A fresh session can be driven to an end if the run on the whole input has one. -/
theorem exists_drive_of_ends (h : Program.compile commands optimize = .ok p) {e : Ending}
    {u : Session} (hends : (fresh commands optimize length cap .error
      (first ++ Supply.allBytes supplies) sink).Ends e u) :
    ∃ fuel, (drive fuel supplies
      ((fresh commands optimize length cap .error first sink).run fuel true)).1 ≠ .outOfFuel := by
  obtain ⟨he, fuel, hu⟩ := hends
  rw [run_fresh h] at hu
  refine ⟨fuel, ?_⟩
  rw [run_fresh h]
  refine drive_ne_outOfFuel supplies (moreInput_fresh h first _) ?_
  rw [hu]
  exact he

end Fresh

/-- **Recovery from the end of the input is transparent.** Take a program that compiles, with any
bound on the steps, and let the end of the input be an error. A session that starts with some of
the input and is given the rest in pieces, one whenever it finds its input ended, comes to an end
exactly if a single run on the whole input does. It ends as that run does, either at the end of
the program or with nothing left to supply, and is then equal to that run's session but for the
source, where what is left is followed by what has not been supplied. -/
theorem drive_agrees {commands : List Command} {optimize : Bool} {p : Program}
    (h : Program.compile commands optimize = .ok p) (length : TapeLength) (cap : Option Cap)
    (first : List UInt8) (supplies : List Supply) (sink : Sink) :
    ((∃ fuel, (drive fuel supplies
        ((fresh commands optimize length cap .error first sink).run fuel true)).1 ≠ .outOfFuel) ↔
      ∃ e u, (fresh commands optimize length cap .error (first ++ Supply.allBytes supplies)
        sink).Ends e u) ∧
    ∀ fuel e t left, drive fuel supplies
        ((fresh commands optimize length cap .error first sink).run fuel true) = (e, t, left) →
      e ≠ .outOfFuel →
        (e = .finished ∨ e = .failed (.endOfInput t.pc) ∧ left = []) ∧
        ∃ u, (fresh commands optimize length cap .error (first ++ Supply.allBytes supplies)
          sink).Ends e u ∧ t = { u with input := t.input } ∧
          ∃ unread, t.input.unread? = some unread ∧
            u.input.unread? = some (unread ++ Supply.allBytes left) := by
  refine ⟨⟨?_, ?_⟩, fun fuel e t left => exists_ends_of_drive h⟩
  · rintro ⟨fuel, hfuel⟩
    obtain ⟨-, u, hu, -⟩ := exists_ends_of_drive h rfl hfuel
    exact ⟨_, u, hu⟩
  · rintro ⟨e, u, hends⟩
    exact exists_drive_of_ends h hends

/-- Three reads folded into one, the input of which comes in four pieces, two of them empty. -/
theorem drive_agrees_folded :
    Program.compile (Command.ofText ",,,.") true =
        .ok ⟨#[.perform .read 3, .perform .write 1]⟩ ∧
      ((∃ fuel, (drive fuel [.feed [], .replace [8], .feed [], .feed [9, 10]]
          ((fresh (Command.ofText ",,,.") true ⟨1, Nat.one_pos⟩ (some ⟨.int 1, some 1⟩) .error [7]
            (.buffer #[])).run fuel true)).1 ≠ .outOfFuel) ↔
        ∃ e u, (fresh (Command.ofText ",,,.") true ⟨1, Nat.one_pos⟩ (some ⟨.int 1, some 1⟩) .error
          [7, 8, 9, 10] (.buffer #[])).Ends e u) ∧
      ∀ fuel e t left, drive fuel [.feed [], .replace [8], .feed [], .feed [9, 10]]
          ((fresh (Command.ofText ",,,.") true ⟨1, Nat.one_pos⟩ (some ⟨.int 1, some 1⟩) .error [7]
            (.buffer #[])).run fuel true) = (e, t, left) →
        e ≠ .outOfFuel →
          (e = .finished ∨ e = .failed (.endOfInput t.pc) ∧ left = []) ∧
          ∃ u, (fresh (Command.ofText ",,,.") true ⟨1, Nat.one_pos⟩ (some ⟨.int 1, some 1⟩) .error
            [7, 8, 9, 10] (.buffer #[])).Ends e u ∧ t = { u with input := t.input } ∧
            ∃ unread, t.input.unread? = some unread ∧
              u.input.unread? = some (unread ++ Supply.allBytes left) := by
  have h : Program.compile (Command.ofText ",,,.") true =
      .ok ⟨#[.perform .read 3, .perform .write 1]⟩ := by rfl
  exact ⟨h, drive_agrees h ⟨1, Nat.one_pos⟩ (some ⟨.int 1, some 1⟩) [7]
    [.feed [], .replace [8], .feed [], .feed [9, 10]] (.buffer #[])⟩

end Session

end Brainfuck
