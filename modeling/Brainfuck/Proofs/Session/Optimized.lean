import Brainfuck.Proofs.Optimization
import Brainfuck.Proofs.Session.Adequacy

/-!
# Optimizing preserves meaning

A run of the optimized program of a text ends where a run of the plain one does, and in the
same way. Both runs do what the blocks of their programs mean, and the block of the
optimized program refines the other.
-/

namespace Brainfuck

namespace Session

/-- What two runs agree on that may have taken different ways: they end in the same way, the
second one after no more steps, and they leave the same behind. -/
structure Agrees (e : Ending) (s : Session) (e' : Ending) (t : Session) : Prop where
  /-- Both come to the end of the program, or neither finds the input that it needs. -/
  ending : e = .finished ∧ e' = .finished ∨
    e = .failed (.endOfInput s.pc) ∧ e' = .failed (.endOfInput t.pc)
  /-- The tape. -/
  tape : t.tape = s.tape
  /-- The position of the current cell. -/
  pointer : t.pointer = s.pointer
  /-- The output. -/
  output : t.output = s.output
  /-- The number of bytes read. -/
  reads : t.reads = s.reads
  /-- The number of bytes written. -/
  writes : t.writes = s.writes
  /-- The input that is left. -/
  unread : ∃ left, s.input.unread? = some left ∧ t.input.unread? = some left
  /-- The number of steps. -/
  iterations_le : t.iterations ≤ s.iterations

section Agrees

variable {sink : Sink} {total : Nat} {s t : Session} {r : Outcome}

/-- Two sessions that have come to the same outcome agree. -/
theorem agrees_of_shows (hs : s.Shows sink total r.machine) (ht : t.Shows sink total r.machine)
    (hr : r.isCut = false) (hle : t.iterations ≤ s.iterations) :
    Agrees (r.ending s.pc) s (r.ending t.pc) t where
  ending := by
    cases r with
    | done => exact Or.inl ⟨rfl, rfl⟩
    | stuck => exact Or.inr ⟨rfl, rfl⟩
    | cut => cases hr
  tape := ht.tape.trans hs.tape.symm
  pointer := ht.pointer.trans hs.pointer.symm
  output := ht.output.trans hs.output.symm
  reads := by
    have hreads := hs.reads
    have hreads' := ht.reads
    omega
  writes := ht.writes.trans hs.writes.symm
  unread := ⟨_, hs.input, ht.input⟩
  iterations_le := hle

end Agrees

section Refines

variable {commands : List Command} {length : TapeLength} {mode : EndMode} {input : List UInt8}
  {sink : Sink} {b c : Block (Action × Nat)}

/-- **What a run comes to, the run of a refined program comes to.** -/
theorem exists_ends_of_refines (hb : Program.compile commands false = .ok b.program)
    (hc : Program.compile commands true = .ok c.program) (h : b.Refines mode c) {e : Ending}
    {s : Session} (hends : (fresh commands false length none mode input sink).Ends e s) :
    ∃ e' t, (fresh commands true length none mode input sink).Ends e' t ∧ Agrees e s e' t := by
  obtain ⟨k, r, he, hr, rfl, hs, hk⟩ := exists_eval_of_ends hb hends
  obtain ⟨k', r', he', hle, hcovered⟩ := h.forward he
  obtain rfl := hcovered.eq hr
  obtain ⟨t, ht, hshows, hk'⟩ := exists_ends_of_eval hc sink he' hr
  exact ⟨_, t, ht, agrees_of_shows hs hshows hr (by omega)⟩

/-- **What the run of a refined program comes to, the run comes to.** -/
theorem exists_ends_of_refined (hb : Program.compile commands false = .ok b.program)
    (hc : Program.compile commands true = .ok c.program) (h : b.Refines mode c) {e : Ending}
    {t : Session} (hends : (fresh commands true length none mode input sink).Ends e t) :
    ∃ e' s, (fresh commands false length none mode input sink).Ends e' s ∧ Agrees e' s e t := by
  obtain ⟨k, r, he, hr, rfl, ht, hk⟩ := exists_eval_of_ends hc hends
  obtain ⟨k', he', hle⟩ := h.backward he hr
  obtain ⟨s, hs, hshows, hk'⟩ := exists_ends_of_eval hb sink he' hr
  exact ⟨_, s, hs, agrees_of_shows hshows ht hr (by omega)⟩

end Refines

/-- **Optimizing preserves meaning.** A run of a text that is balanced and not empty ends exactly
if the run of the optimized text does, and then the two agree. -/
theorem optimized_run_agrees {source : String} (hsome : Command.ofText source ≠ [])
    (hbalanced : Bracket.Balanced source.toList) (length : TapeLength) (mode : EndMode)
    (input : List UInt8) (sink : Sink) :
    ((∃ e s, (fresh (Command.ofText source) false length none mode input sink).Ends e s) ↔
      ∃ e t, (fresh (Command.ofText source) true length none mode input sink).Ends e t) ∧
    ∀ e s e' t, (fresh (Command.ofText source) false length none mode input sink).Ends e s →
      (fresh (Command.ofText source) true length none mode input sink).Ends e' t →
        Agrees e s e' t := by
  obtain ⟨b, hb⟩ := Block.exists_commands_of_balanced hbalanced.ofText
  rw [← hb] at hsome ⊢
  obtain ⟨c, hc, hrefines⟩ := Block.exists_compile_refines hsome mode
  have hplain := b.compile_commands
  refine ⟨⟨?_, ?_⟩, ?_⟩
  · rintro ⟨e, s, hs⟩
    obtain ⟨e', t, ht, -⟩ := exists_ends_of_refines hplain hc hrefines hs
    exact ⟨e', t, ht⟩
  · rintro ⟨e, t, ht⟩
    obtain ⟨e', s, hs, -⟩ := exists_ends_of_refined hplain hc hrefines ht
    exact ⟨e', s, hs⟩
  · intro e s e' t hs ht
    obtain ⟨e₁, t₁, ht₁, hagrees⟩ := exists_ends_of_refines hplain hc hrefines hs
    obtain ⟨rfl, rfl⟩ := ht.unique ht₁
    exact hagrees

/-- A text with reads to fold and a pair to cancel in its loop. -/
theorem optimized_run_agrees_countdown :
    Command.ofText ",,[.-><]" ≠ [] ∧ Bracket.Balanced ",,[.-><]".toList ∧
      ((∃ e s, (fresh (Command.ofText ",,[.-><]") false ⟨3, by decide⟩ none .error [7, 2]
          (.buffer #[])).Ends e s) ↔
        ∃ e t, (fresh (Command.ofText ",,[.-><]") true ⟨3, by decide⟩ none .error [7, 2]
          (.buffer #[])).Ends e t) ∧
      ∀ e s e' t, (fresh (Command.ofText ",,[.-><]") false ⟨3, by decide⟩ none .error [7, 2]
          (.buffer #[])).Ends e s →
        (fresh (Command.ofText ",,[.-><]") true ⟨3, by decide⟩ none .error [7, 2]
          (.buffer #[])).Ends e' t → Agrees e s e' t := by
  have hsome : Command.ofText ",,[.-><]" ≠ [] := by decide
  have hbalanced : Bracket.Balanced ",,[.-><]".toList := by decide
  exact ⟨hsome, hbalanced,
    optimized_run_agrees hsome hbalanced ⟨3, by decide⟩ .error [7, 2] (.buffer #[])⟩

end Session

end Brainfuck
