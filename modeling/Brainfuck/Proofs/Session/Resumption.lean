import Brainfuck.Proofs.Session.Arguments
import Brainfuck.Proofs.Session.Optimized
import Brainfuck.Proofs.Session.Text

/-!
# Optimizing a session that reads a text

Plain and optimized sessions that read the same text, and that are continued after every character
without a code, agree as long as the optimized one never loses a read
(`Brainfuck.Session.settles_agrees`). It can lose reads, since several of them that are folded into
one instruction start all over when one of them fails. The two sessions then read
different parts of the text (`Brainfuck.Session.settles_disagrees`); only the end of the
input is something that an instruction recovers from in the middle.

The proof goes by the input in memory, which never fails. A session that reads a text follows the
one that has its bytes in memory (`Brainfuck.Session.Follows`): a step that fails is no step of the
other one, and between two failures the sessions are in step.
-/

namespace Brainfuck

namespace Session

/-! ### Following the bytes in memory -/

/-- **A session that reads a text follows** one that has the bytes in memory. -/
structure Follows (text : List Char) (s u : Session) : Prop where
  /-- The two differ in their source only. -/
  encoded : Encoded s u
  /-- The text is as far as it should be. -/
  placed : Placed text s
  /-- No read will be lost. -/
  keepsReads : s.KeepsReads
  /-- There is a program. -/
  error : s.error = none

/-- What is left of the text at the end of a driven session. -/
inductive Rests (text : List Char) : Ending → Session → Prop
  /-- The program has ended. -/
  | finished {s : Session} : InPlace text s → Rests text .finished s
  /-- There was no input left. -/
  | ended {s : Session} {pc : Nat} : s.input = .text [] → Rests text (.failed (.endOfInput pc)) s

section Follows

variable {text : List Char} {s t u v : Session} {e : Ending}

/-- A step that is done is a step of both. -/
theorem Follows.value {c : UInt8} (h : Follows text s u) (hs : s.step = (.value c, t)) :
    ∃ v, u.step = (.value c, v) ∧ Follows text t v := by
  have hstep := step_encoded h.encoded fun t ht => by cases hs.symm.trans ht
  obtain ⟨v, hu, hencoded⟩ := hstep.exists_right hs
  exact ⟨v, hu, hencoded, h.placed.value hs, h.keepsReads.value hs,
    (step_keeps hs).1.error.trans h.error⟩

/-- A step that is to be taken again is none of the other session. -/
theorem Follows.again (h : Follows text s u) (hs : s.step = (.failed .unencodable, t)) :
    ∃ c later, s.input = .text (c :: later) ∧ t.input = .text later ∧ Follows text t u := by
  have hreads := h.keepsReads s t .here hs
  obtain ⟨c, later, hinput, hc, rfl, hplaced⟩ := h.placed.again hs hreads
  have hencoded := h.encoded
  cases hencoded with
  | @of_endpoints input output optimized hI hO =>
    obtain ⟨rest, hrest, hbytes⟩ := hI
    obtain rfl : rest = c :: later := Source.text.inj (hrest.symm.trans hinput)
    rw [Text.bytes_of_none hc] at hbytes
    have hencoded' : Encoded (s.withInput (.text later)) (s.rebind input output optimized) :=
      .of_endpoints (s := s.withInput (.text later)) ⟨later, rfl, hbytes⟩ hO
    exact ⟨c, later, hinput, rfl, hencoded', hplaced, h.keepsReads.again hs, h.error⟩

/-- At the end of the program the session is in its place. -/
theorem Follows.finished (h : Follows text s u) (hs : s.step = (.finished, s)) :
    u.step = (.finished, u) ∧ Rests text .finished s := by
  obtain ⟨-, herr, hi⟩ := step_finished hs
  refine ⟨?_, .finished (h.placed.inPlace fun n hn => by cases hi.symm.trans hn)⟩
  exact step_of_none ((lockstep_encoded.error h.encoded).trans herr)
    ((lockstep_encoded.at? h.encoded).trans hi)

/-- A step that fails for another reason has come to the end of the text, and fails in both. -/
theorem Follows.failed {f : Failure} (h : Follows text s u) (hs : s.step = (.failed f, t))
    (hf : f ≠ .unencodable) :
    ∃ v, u.step = (.failed f, v) ∧ Encoded t v ∧ Rests text (.failed f) t := by
  have hstep := step_encoded h.encoded fun t ht => by
    cases hs.symm.trans ht
    exact hf rfl
  obtain ⟨v, hu, hencoded⟩ := hstep.exists_right hs
  refine ⟨v, hu, hencoded, ?_⟩
  rcases step_failed hs with ⟨e, he, -, -⟩ | ⟨-, i, hi, hexec⟩
  · rw [h.error] at he
    cases he
  obtain ⟨n, rfl, -⟩ := execute_failed hexec
  rw [execute_read h.placed.partialReads] at hexec
  have hout := readInput_outcome (Nat.le_refl n) s
  obtain ⟨rest, hnearly⟩ := h.placed.exists_nearly
  rw [hexec] at hout
  cases hout with
  | ended => exact .ended (readInput_ended hnearly.input hexec)
  | failed => exact absurd rfl hf

/-- **What a driven session comes to, the one with the bytes in memory comes to.** -/
theorem Follows.exists_persists (h : Follows text s u) (hs : Persists s e t) :
    ∃ v, Persists u e v ∧ Encoded t v ∧ Rests text e t := by
  induction hs generalizing u with
  | finished hs =>
    obtain ⟨hu, hrests⟩ := h.finished hs
    exact ⟨u, .finished hu, h.encoded, hrests⟩
  | failed hs hf =>
    obtain ⟨v, hv, hencoded, hrests⟩ := h.failed hs hf
    exact ⟨v, .failed hv hf, hencoded, hrests⟩
  | value hs _ ih =>
    obtain ⟨v, hv, hfollows⟩ := h.value hs
    obtain ⟨w, hw, hrest⟩ := ih hfollows
    exact ⟨w, .value hv hw, hrest⟩
  | again hs _ ih =>
    obtain ⟨-, -, -, -, hfollows⟩ := h.again hs
    exact ih hfollows

/-- Only so many characters can be without a code, so that a step is taken again only so often. -/
theorem Follows.exists_step (h : Follows text s u) :
    ∃ t, Follows text t u ∧ (∀ v, t.step ≠ (.failed .unencodable, v)) ∧
      ∀ e v, Persists t e v → Persists s e v := by
  obtain ⟨rest, hnearly⟩ := h.placed.exists_nearly
  have hrest := hnearly.input
  clear hnearly
  induction rest generalizing s with
  | nil =>
    refine ⟨s, h, fun v hv => ?_, fun _ _ hs => hs⟩
    obtain ⟨c, later, hinput, -⟩ := h.again hv
    cases hrest.symm.trans hinput
  | cons c rest ih =>
    by_cases hagain : ∃ v, s.step = (.failed .unencodable, v)
    · obtain ⟨v, hv⟩ := hagain
      obtain ⟨c', later, hinput, hlater, hfollows⟩ := h.again hv
      have hcons : c :: rest = c' :: later := Source.text.inj (hrest.symm.trans hinput)
      rw [← (List.cons.inj hcons).2] at hlater
      obtain ⟨t, ht, hstep, hpersists⟩ := ih hfollows hlater
      exact ⟨t, ht, hstep, fun e w hw => .again hv (hpersists e w hw)⟩
    · exact ⟨s, h, fun v hv => hagain ⟨v, hv⟩, fun _ _ hs => hs⟩

/-- **What a session with the bytes in memory comes to, the driven one comes to.** -/
theorem Follows.exists_of_persists (h : Follows text s u) (hu : Persists u e v) :
    ∃ t, Persists s e t := by
  induction hu generalizing s with
  | @finished u hu =>
    obtain ⟨t, ht, -, hpersists⟩ := h.exists_step
    obtain ⟨-, -, hi⟩ := step_finished hu
    have hi' := (lockstep_encoded.at? ht.encoded).symm.trans hi
    exact ⟨t, hpersists _ _ (.finished (step_of_none ht.error hi'))⟩
  | @failed u v f hu hf =>
    obtain ⟨t, ht, hstep, hpersists⟩ := h.exists_step
    obtain ⟨w, hs, -⟩ := (step_encoded ht.encoded hstep).exists_left hu
    exact ⟨w, hpersists _ _ (.failed hs hf)⟩
  | @value u v w c e hu _ ih =>
    obtain ⟨t, ht, hstep, hpersists⟩ := h.exists_step
    obtain ⟨t', hs, -⟩ := (step_encoded ht.encoded hstep).exists_left hu
    obtain ⟨v', hv', hfollows⟩ := ht.value hs
    rw [hu] at hv'
    cases hv'
    obtain ⟨r, hr⟩ := ih hfollows
    exact ⟨r, hpersists _ _ (.value hs hr)⟩
  | @again u v w e hu _ _ =>
    -- a step of the session in memory fails only if it fails in the other session, too
    obtain ⟨t, ht, hstep, -⟩ := h.exists_step
    obtain ⟨t', hs, -⟩ := (step_encoded ht.encoded hstep).exists_left hu
    exact absurd hs (hstep t')

end Follows

/-! ### Fresh sessions -/

/-- A session that has just been made to read a text. -/
def freshText (commands : List Command) (optimize : Bool) (length : TapeLength) (mode : EndMode)
    (text : List Char) (output : Sink) : Session :=
  (idle (.blank length) none (.text text) output mode).load commands (.bool optimize)

section Fresh

variable {commands : List Command} {optimize : Bool} {length : TapeLength} {mode : EndMode}
  {text : List Char} {sink : Sink} {b : Block (Action × Nat)} {s t : Session} {e : Ending}

/-- It is the session that is asked for with the text as its input. -/
theorem ofArguments_freshText [Memory] {a : Arguments} {source : String}
    (h : a.Means length none mode (.text text) sink) (hsource : a.sourceValue = .text source)
    (hoptimize : a.optimizeValue = .bool optimize) :
    ofArguments a = .ok (freshText (Command.ofText source) optimize length mode text sink) := by
  rw [h.ofArguments, hsource, hoptimize]
  rfl

theorem freshText_of_compile {p : Program} (h : Program.compile commands optimize = .ok p) :
    freshText commands optimize length mode text sink =
      made length none (.text text) sink mode p (.bool optimize) := by
  have hc : Program.compile commands (Value.bool optimize).isTruthy = .ok p := h
  exact load_idle hc length none (.text text) sink mode

theorem follows_fresh {p : Program} (h : Program.compile commands optimize = .ok p)
    (hkeeps : (freshText commands optimize length mode text sink).KeepsReads) :
    Follows text (freshText commands optimize length mode text sink)
      (fresh commands optimize length none mode (Text.bytes text) sink) := by
  rw [freshText_of_compile h] at hkeeps ⊢
  rw [fresh_of_compile h]
  have hencoded : Encoded (made length none (.text text) sink mode p (.bool optimize))
      (made length none (.buffer (.ofList (Text.bytes text))) sink mode p (.bool optimize)) :=
    .of_endpoints (s := made length none (.text text) sink mode p (.bool optimize))
      ⟨text, rfl, rfl⟩ rfl
  exact ⟨hencoded, ⟨rfl, Or.inl ⟨fun _ => rfl, fun hne => absurd rfl hne⟩⟩, hkeeps, rfl⟩

theorem settles_freshText_iff {p : Program} (h : Program.compile commands optimize = .ok p) :
    (freshText commands optimize length mode text sink).Settles true e t ↔
      Persists (freshText commands optimize length mode text sink) e t := by
  rw [freshText_of_compile h]
  exact settles_iff_persists (reset_made ..) rfl rfl

/-- All characters have a code if they are in memory. -/
theorem ne_unencodable_of_ends (h : Program.compile commands optimize = .ok b.program)
    {input : List UInt8}
    (hends : (fresh commands optimize length none mode input sink).Ends e t) :
    e ≠ .failed .unencodable := by
  obtain ⟨k, r, -, -, rfl, -⟩ := exists_eval_of_ends h hends
  cases r <;> nofun

/-- A session with its input in memory ends where its steps do. -/
theorem ends_fresh_iff (h : Program.compile commands optimize = .ok b.program)
    {input : List UInt8} :
    (fresh commands optimize length none mode input sink).Ends e t ↔
      Persists (fresh commands optimize length none mode input sink) e t := by
  have hsteps : (fresh commands optimize length none mode input sink).Settles true e t ↔
      Persists (fresh commands optimize length none mode input sink) e t := by
    rw [fresh_of_compile h]
    exact settles_iff_persists (reset_made ..) rfl rfl
  rw [← hsteps]
  constructor
  · intro hends
    have hcode := ne_unencodable_of_ends h hends
    obtain ⟨he, fuel, hrun⟩ := hends
    exact .ends hrun he hcode
  · intro hsettles
    cases hsettles with
    | ends hrun he hcode => exact ⟨he, _, hrun⟩
    | again hrun hrest =>
      have hends : (fresh commands optimize length none mode input sink).Ends
          (.failed .unencodable) _ := ⟨nofun, _, hrun⟩
      exact absurd rfl (ne_unencodable_of_ends h hends)

/-- **A session that reads a text and loses no read comes to what the one in memory comes to.** -/
theorem exists_ends_of_settles (h : Program.compile commands optimize = .ok b.program)
    (hkeeps : (freshText commands optimize length mode text sink).KeepsReads)
    (hsettles : (freshText commands optimize length mode text sink).Settles true e t) :
    ∃ v, (fresh commands optimize length none mode (Text.bytes text) sink).Ends e v ∧
      Encoded t v ∧ Rests text e t := by
  obtain ⟨v, hv, hrest⟩ :=
    (follows_fresh h hkeeps).exists_persists ((settles_freshText_iff h).mp hsettles)
  exact ⟨v, (ends_fresh_iff h).mpr hv, hrest⟩

theorem exists_settles_of_ends (h : Program.compile commands optimize = .ok b.program)
    (hkeeps : (freshText commands optimize length mode text sink).KeepsReads) {v : Session}
    (hends : (fresh commands optimize length none mode (Text.bytes text) sink).Ends e v) :
    ∃ t, (freshText commands optimize length mode text sink).Settles true e t := by
  obtain ⟨t, ht⟩ := (follows_fresh h hkeeps).exists_of_persists ((ends_fresh_iff h).mp hends)
  exact ⟨t, (settles_freshText_iff h).mpr ht⟩

/-- The plain program of a block folds no reads. -/
theorem times_of_mem_instructionsAt (b : Block Action) (i : Nat) :
    ∀ ins ∈ (b.map (·, 1)).instructionsAt i, ins.times = 1 := by
  induction b generalizing i with
  | nil => nofun
  | act x rest ih =>
    intro ins hins
    rw [Block.map, Block.instructionsAt, List.mem_cons] at hins
    rcases hins with rfl | hins
    · rfl
    · exact ih _ ins hins
  | loop body rest ihb ihr =>
    intro ins hins
    rw [Block.map, Block.instructionsAt, List.mem_cons, List.mem_append, List.mem_cons] at hins
    rcases hins with rfl | hins | rfl | hins
    · rfl
    · exact ihb _ ins hins
    · rfl
    · exact ihr _ ins hins

theorem keepsReads_plain (b : Block Action) :
    (freshText b.commands false length mode text sink).KeepsReads := by
  refine keepsReads_of_once fun i n hi => ?_
  rw [freshText_of_compile b.compile_commands] at hi
  have hmem := Array.mem_of_getElem? hi
  have htimes := times_of_mem_instructionsAt b 0 _ (List.mem_toArray.mp hmem)
  exact Nat.le_of_eq htimes

end Fresh

/-! ### Plain and optimized -/

/-- What two driven sessions agree on that read the same text. -/
structure AgreesOnText (e : Ending) (s : Session) (e' : Ending) (t : Session) : Prop where
  /-- Both come to the end of the program, or neither finds the input that it needs. -/
  ending : e = .finished ∧ e' = .finished ∨
    e = .failed (.endOfInput s.pc) ∧ e' = .failed (.endOfInput t.pc)
  /-- The tape. -/
  tape : t.tape = s.tape
  /-- The position of the current cell. -/
  pointer : t.pointer = s.pointer
  /-- The output. -/
  output : t.output = s.output
  /-- The number of bytes read. -/
  reads : t.reads = s.reads
  /-- The text that is left. -/
  input : t.input = s.input

section AgreesOnText

variable {text : List Char} {s t v w : Session} {e e' : Ending}

/-- Sessions in their places that have read as much, and of which both or none has come to the end,
have as much left. -/
theorem InPlace.input_eq (hs : InPlace text s) (ht : InPlace text t) (hreads : t.reads = s.reads)
    (hmisses : s.misses = [] ↔ t.misses = []) : t.input = s.input := by
  by_cases hnil : s.misses = []
  · rw [hs.exact hnil, ht.exact (hmisses.mp hnil), hreads]
  · rw [hs.missed hnil, ht.missed fun h => hnil (hmisses.mpr h)]

/-- Sessions that read a text agree if those do that have the bytes in memory. -/
theorem agreesOnText_of_encoded (hs : Encoded s v) (ht : Encoded t w) (h : Agrees e v e' w)
    (hmisses : e = .finished → e' = .finished → (v.misses = [] ↔ w.misses = []))
    (hrs : Rests text e s) (hrt : Rests text e' t) : AgreesOnText e s e' t := by
  cases hs with
  | of_endpoints _ hO =>
    cases ht with
    | of_endpoints _ hO' =>
      refine ⟨h.ending, h.tape, h.pointer, hO'.trans (h.output.trans hO.symm), h.reads, ?_⟩
      cases hrs with
      | finished hplace =>
        rcases h.ending with ⟨-, rfl⟩ | ⟨he, -⟩
        · cases hrt with
          | finished hplace' => exact hplace.input_eq hplace' h.reads (hmisses rfl rfl)
        · cases he
      | ended hinput =>
        rcases h.ending with ⟨he, -⟩ | ⟨-, rfl⟩
        · cases he
        · cases hrt with
          | ended hinput' => exact hinput'.trans hinput.symm

/-- Plain and optimized runs both miss something, or neither does. -/
theorem misses_iff_of_ends {b : Block Action} (hsome : b.commands ≠ []) {length : TapeLength}
    {mode : EndMode} {input : List UInt8} {sink : Sink}
    (hv : (fresh b.commands false length none mode input sink).Ends .finished v)
    (hw : (fresh b.commands true length none mode input sink).Ends .finished w) :
    v.misses = [] ↔ w.misses = [] := by
  obtain ⟨c, hc, hrefines⟩ := Block.exists_compile_refines hsome .error
  rw [misses_eq_nil_iff b.compile_commands hv, misses_eq_nil_iff hc hw]
  constructor
  · rintro ⟨u, hu⟩
    obtain ⟨e, u', hu', hagrees⟩ := exists_ends_of_refines b.compile_commands hc hrefines hu
    rcases hagrees.ending with ⟨-, rfl⟩ | ⟨he, -⟩
    · exact ⟨u', hu'⟩
    · cases he
  · rintro ⟨u, hu⟩
    obtain ⟨e, u', hu', hagrees⟩ := exists_ends_of_refined b.compile_commands hc hrefines hu
    rcases hagrees.ending with ⟨rfl, -⟩ | ⟨-, he⟩
    · exact ⟨u', hu'⟩
    · cases he

end AgreesOnText

/-- **Optimizing preserves the meaning of a session that reads a text**, as long as no read is lost.
Let a session be continued after every character that has no code, and let no step of the
optimized one that fails there have completed a read. Then the plain session comes to another end
exactly if the optimized one does, and the two agree on the text that is left and on everything
else. -/
theorem settles_agrees {source : String} (hsome : Command.ofText source ≠ [])
    (hbalanced : Bracket.Balanced source.toList) (length : TapeLength) (mode : EndMode)
    (text : List Char) (sink : Sink)
    (hkeeps : (freshText (Command.ofText source) true length mode text sink).KeepsReads) :
    ((∃ e s, (freshText (Command.ofText source) false length mode text sink).Settles true e s) ↔
      ∃ e t, (freshText (Command.ofText source) true length mode text sink).Settles true e t) ∧
    ∀ e s e' t, (freshText (Command.ofText source) false length mode text sink).Settles true e s →
      (freshText (Command.ofText source) true length mode text sink).Settles true e' t →
        AgreesOnText e s e' t := by
  obtain ⟨b, hb⟩ := Block.exists_commands_of_balanced hbalanced.ofText
  rw [← hb] at hsome hkeeps ⊢
  obtain ⟨c, hc, hrefines⟩ := Block.exists_compile_refines hsome mode
  have hplain := b.compile_commands
  have hkeepsPlain : (freshText b.commands false length mode text sink).KeepsReads :=
    keepsReads_plain b
  refine ⟨⟨?_, ?_⟩, ?_⟩
  · rintro ⟨e, s, hs⟩
    obtain ⟨v, hv, -⟩ := exists_ends_of_settles hplain hkeepsPlain hs
    obtain ⟨e', w, hw, -⟩ := exists_ends_of_refines hplain hc hrefines hv
    exact ⟨e', exists_settles_of_ends hc hkeeps hw⟩
  · rintro ⟨e, t, ht⟩
    obtain ⟨w, hw, -⟩ := exists_ends_of_settles hc hkeeps ht
    obtain ⟨e', v, hv, -⟩ := exists_ends_of_refined hplain hc hrefines hw
    exact ⟨e', exists_settles_of_ends hplain hkeepsPlain hv⟩
  · intro e s e' t hs ht
    obtain ⟨v, hv, hencoded, hrests⟩ := exists_ends_of_settles hplain hkeepsPlain hs
    obtain ⟨w, hw, hencoded', hrests'⟩ := exists_ends_of_settles hc hkeeps ht
    obtain ⟨e₁, w₁, hw₁, hagrees⟩ := exists_ends_of_refines hplain hc hrefines hv
    obtain ⟨rfl, rfl⟩ := hw.unique hw₁
    refine agreesOnText_of_encoded hencoded hencoded' hagrees ?_ hrests hrests'
    rintro rfl rfl
    exact misses_iff_of_ends hsome hv hw

/-- Two reads folded into one, before which there are characters without a code. -/
theorem settles_agrees_folded :
    Command.ofText ",,." ≠ [] ∧ Bracket.Balanced ",,.".toList ∧
      (freshText (Command.ofText ",,.") true ⟨1, Nat.one_pos⟩ .zero ['Ā', 'Ω', 'a', 'b', 'Ā']
        (.buffer #[])).KeepsReads ∧
      ((∃ e s, (freshText (Command.ofText ",,.") false ⟨1, Nat.one_pos⟩ .zero
          ['Ā', 'Ω', 'a', 'b', 'Ā'] (.buffer #[])).Settles true e s) ↔
        ∃ e t, (freshText (Command.ofText ",,.") true ⟨1, Nat.one_pos⟩ .zero
          ['Ā', 'Ω', 'a', 'b', 'Ā'] (.buffer #[])).Settles true e t) ∧
      ∀ e s e' t, (freshText (Command.ofText ",,.") false ⟨1, Nat.one_pos⟩ .zero
          ['Ā', 'Ω', 'a', 'b', 'Ā'] (.buffer #[])).Settles true e s →
        (freshText (Command.ofText ",,.") true ⟨1, Nat.one_pos⟩ .zero
          ['Ā', 'Ω', 'a', 'b', 'Ā'] (.buffer #[])).Settles true e' t → AgreesOnText e s e' t := by
  have hsome : Command.ofText ",,." ≠ [] := by decide
  have hbalanced : Bracket.Balanced ",,.".toList := by decide
  have hkeeps : (freshText (Command.ofText ",,.") true ⟨1, Nat.one_pos⟩ .zero
      ['Ā', 'Ω', 'a', 'b', 'Ā'] (.buffer #[])).KeepsReads :=
    keepsReads_of_again rfl rfl (keepsReads_of_again rfl rfl
      (keepsReads_of_value rfl (keepsReads_of_value rfl (keepsReads_of_finished rfl))))
  exact ⟨hsome, hbalanced, hkeeps,
    settles_agrees hsome hbalanced ⟨1, Nat.one_pos⟩ .zero _ (.buffer #[]) hkeeps⟩

section Usual

attribute [local instance] Memory.usual

/-- **A read that is lost is made again with the next character.** The optimized session has read
the first character when the second one fails, and starts all over with the third one. -/
theorem settles_disagrees :
    ∃ plain optimized s t,
      ofArguments
          { source := some (.text ",,"), tapeLength := some (.int 2),
            optimize := some (.bool false), maxIterations := none,
            input := some (.source (.text ['a', 'Ā', 'b', 'c'])),
            output := some (.sink (.buffer #[])), eof := none, unknown := [] } = .ok plain ∧
      ofArguments
          { source := some (.text ",,"), tapeLength := some (.int 2),
            optimize := some (.bool true), maxIterations := none,
            input := some (.source (.text ['a', 'Ā', 'b', 'c'])),
            output := some (.sink (.buffer #[])), eof := none, unknown := [] } = .ok optimized ∧
      plain.Settles true .finished s ∧ optimized.Settles true .finished t ∧
      s.reads = 2 ∧ s.cell = 98 ∧ s.input = .text ['c'] ∧
      t.reads = 3 ∧ t.cell = 99 ∧ t.input = .text [] ∧
      ¬AgreesOnText .finished s .finished t := by
  have hplain : (freshText (Command.ofText ",,") false ⟨2, Nat.two_pos⟩ .keep ['a', 'Ā', 'b', 'c']
      (.buffer #[])).Settles true .finished _ :=
    @Settles.again true 9 _ _ _ _ rfl (@Settles.ends false 9 _ _ _ rfl nofun nofun)
  have hoptimized : (freshText (Command.ofText ",,") true ⟨2, Nat.two_pos⟩ .keep
      ['a', 'Ā', 'b', 'c'] (.buffer #[])).Settles true .finished _ :=
    @Settles.again true 9 _ _ _ _ rfl (@Settles.ends false 9 _ _ _ rfl nofun nofun)
  refine ⟨_, _, _, _, ?_, ?_, hplain, hoptimized, rfl, rfl, rfl, rfl, rfl, rfl, fun h => ?_⟩
  · exact ofArguments_freshText ⟨rfl, EndMode.ofValue_name .keep, rfl, rfl, rfl, rfl, rfl⟩ rfl rfl
  · exact ofArguments_freshText ⟨rfl, EndMode.ofValue_name .keep, rfl, rfl, rfl, rfl, rfl⟩ rfl rfl
  · cases h.reads

end Usual

end Session

end Brainfuck
