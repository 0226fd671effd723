import Brainfuck.Proofs.Session.Lockstep

/-!
# Sessions with other endpoints

A session takes from its source only what can be read from it, and it never looks at its sink. So
it does the same with any other endpoints in their place
(`Brainfuck.Session.step_exchanged`), as long as what can be read from the one source can
be read from the other, and what is written leaves the two sinks as they are to each other
(`Brainfuck.Session.Interchangeable`).

Nothing is asked of a read that fails because a character has no code, and the two sessions may
part there, unless the one source refuses what the other one refuses, too
(`Brainfuck.Session.Faithful`).
-/

namespace Brainfuck

namespace Session

/-- The session with other endpoints, and with its setting for the optimizer put in other
words. -/
def rebind (s : Session) (input : Source) (output : Sink) (optimized : Value) : Session :=
  { s with input, output, optimized }

/-- **Endpoints that can stand in for each other.** -/
structure Interchangeable (I : Source → Source → Prop) (O : Sink → Sink → Prop) : Prop where
  /-- What is read from the one source is read from the other, unless it is a character without a
  code. -/
  read : ∀ {a b : Source}, I a b → a.read.1 ≠ .error .unencodable →
    b.read.1 = a.read.1 ∧ I a.read.2 b.read.2
  /-- Both sinks take what is written. -/
  write : ∀ {a b : Sink}, O a b → ∀ bytes, O (a.write bytes) (b.write bytes)

/-- What comes of a read of the one source comes of a read of the other, failures included. -/
def Faithful (I : Source → Source → Prop) : Prop :=
  ∀ {a b : Source}, I a b → b.read.1 = a.read.1 ∧ I a.read.2 b.read.2

/-- A session, and the same session with endpoints that stand in for its own. -/
inductive Exchanged (I : Source → Source → Prop) (O : Sink → Sink → Prop) :
    Session → Session → Prop
  /-- Nothing else is another. -/
  | of_endpoints {s : Session} {input : Source} {output : Sink} {optimized : Value} :
    I s.input input → O s.output output → Exchanged I O s (s.rebind input output optimized)

section Exchanged

variable {I : Source → Source → Prop} {O : Sink → Sink → Prop} {s u : Session}

/-- The endpoints make no difference outside of instructions. -/
theorem lockstep_exchanged (I : Source → Source → Prop) (O : Sink → Sink → Prop) :
    Lockstep (Exchanged I O) where
  error h := by cases h; rfl
  at? h := by cases h; rfl
  cell h := by cases h; rfl
  exceedsCap h := by cases h; rfl
  advance h := by
    cases h with
    | of_endpoints hI hO => exact .of_endpoints hI hO
  cutOff h := by
    cases h with
    | of_endpoints hI hO => exact .of_endpoints hI hO

/-- **Reads find the same**, unless a character has no code and only one source refuses it. -/
theorem readInput_exchanged (hIO : Interchangeable I O) (h : Exchanged I O s u) {total left : Nat}
    (hok : (readInput total left s).1 ≠ some .unencodable ∨ Faithful I) :
    Alongside (Exchanged I O) (readInput total left s) (readInput total left u) := by
  induction left generalizing s u with
  | zero => exact ⟨rfl, h⟩
  | succ left ih =>
    cases h with
    | @of_endpoints input output optimized hI hO =>
      have hboth : input.read.1 = s.input.read.1 ∧ I s.input.read.2 input.read.2 := by
        rcases hok with hok | hfaithful
        · refine hIO.read hI fun hread => hok ?_
          rw [readInput_failed (Prod.ext hread rfl)]
        · exact hfaithful hI
      rcases hread : s.input.read with ⟨r, next⟩
      rcases hread' : input.read with ⟨r', next'⟩
      rw [hread, hread'] at hboth
      obtain ⟨rfl, hnext⟩ := hboth
      rcases r' with f | _ | byte
      · rw [readInput_failed hread,
          readInput_failed (s := s.rebind input output optimized) hread']
        exact ⟨rfl, .of_endpoints hnext hO⟩
      · cases heof : s.eof with
        | keep =>
          rw [readInput_keep hread heof] at hok ⊢
          rw [readInput_keep (s := s.rebind input output optimized) hread' heof]
          exact ih (.of_endpoints hnext hO) hok
        | zero =>
          rw [readInput_zero hread heof] at hok ⊢
          rw [readInput_zero (s := s.rebind input output optimized) hread' heof]
          exact ih (.of_endpoints hnext hO) hok
        | error =>
          rw [readInput_end hread heof,
            readInput_end (s := s.rebind input output optimized) hread' heof]
          exact ⟨rfl, .of_endpoints hnext hO⟩
      · rw [readInput_byte hread] at hok ⊢
        rw [readInput_byte (s := s.rebind input output optimized) hread']
        exact ih (.of_endpoints hnext hO) hok

theorem execute_exchanged (hIO : Interchangeable I O) (h : Exchanged I O s u) (i : Instruction)
    (hok : (s.execute i).1 ≠ some .unencodable ∨ Faithful I) :
    Alongside (Exchanged I O) (s.execute i) (u.execute i) := by
  have hcell := (lockstep_exchanged I O).cell h
  cases h with
  | of_endpoints hI hO =>
    cases i with
    | perform action times =>
      cases action with
      | read =>
        exact readInput_exchanged (s := s.forgetReads) hIO (.of_endpoints hI hO) hok
      | write => exact ⟨rfl, .of_endpoints hI (hIO.write hO _)⟩
      | left | right | increment | decrement => exact ⟨rfl, .of_endpoints hI hO⟩
    | opening partner =>
      rw [execute, execute, hcell]
      refine ⟨rfl, ?_⟩
      split <;> exact .of_endpoints hI hO
    | closing partner =>
      rw [execute, execute, hcell]
      refine ⟨rfl, ?_⟩
      split <;> exact .of_endpoints hI hO

/-- **A step does the same with other endpoints**, unless a character has no code and only one
source refuses it. -/
theorem step_exchanged (hIO : Interchangeable I O) (h : Exchanged I O s u)
    (hok : (∀ t, s.step ≠ (.failed .unencodable, t)) ∨ Faithful I) :
    Alongside (Exchanged I O) s.step u.step := by
  rcases herr : s.error with _ | e
  · refine (lockstep_exchanged I O).step h herr fun i hi =>
      execute_exchanged hIO h i (hok.imp_left fun hok hf => ?_)
    rcases hs : s.execute i with ⟨o, t⟩
    rw [hs] at hf
    obtain rfl : o = some .unencodable := hf
    exact hok t (step_of_execute_failed herr hi hs)
  · have herr' : u.error = some e := ((lockstep_exchanged I O).error h).trans herr
    rw [step_of_error herr, step_of_error herr']
    exact ⟨rfl, h⟩

end Exchanged

end Session

end Brainfuck
