import Brainfuck.Proofs.Endpoints
import Brainfuck.Proofs.Session.Exchange
import Brainfuck.Proofs.Session.Misses

/-!
# Reading a text

A text is read character by character, and some characters have no code. Between two of these a
session that reads a text does what it would do with the bytes of the other characters in memory
(`Brainfuck.Session.Encoded`). At such a character the read fails, and what the instruction
has read before is lost; if that is nothing, it has only taken the character
(`Brainfuck.Session.readInput_refused`).

The bytes that are left in memory do not tell how much of the text is left. What has been taken of
it is an initial part that ends with the last character that was read
(`Brainfuck.Session.InPlace`), unless a read has come to the end of the text; only in between,
when a step is to be taken again, may it go further (`Brainfuck.Session.Placed`).
-/

namespace Brainfuck

/-! ### Bytes of a text -/

namespace Text

/-- What is left of a text behind the first of its characters that has a code. -/
def afterByte : List Char → List Char
  | [] => []
  | c :: rest => if (byteOf? c).isSome then rest else afterByte rest

/-- What is left of a text behind so many of its characters that have a code. -/
def afterBytes : Nat → List Char → List Char
  | 0, text => text
  | n + 1, text => afterByte (afterBytes n text)

theorem afterByte_of_some {c : Char} {byte : UInt8} (h : byteOf? c = some byte) (rest : List Char) :
    afterByte (c :: rest) = rest := by
  rw [afterByte, h]
  rfl

theorem afterByte_of_none {c : Char} (h : byteOf? c = none) (rest : List Char) :
    afterByte (c :: rest) = afterByte rest := by
  rw [afterByte, h]
  rfl

/-- The bytes of the characters that have a code. -/
def bytes (text : List Char) : List UInt8 := text.filterMap byteOf?

theorem bytes_of_some {c : Char} {byte : UInt8} (h : byteOf? c = some byte) (rest : List Char) :
    bytes (c :: rest) = byte :: bytes rest :=
  List.filterMap_cons_some h

theorem bytes_of_none {c : Char} (h : byteOf? c = none) (rest : List Char) :
    bytes (c :: rest) = bytes rest :=
  List.filterMap_cons_none h

end Text

namespace Source

theorem read_text_of_some {c : Char} {byte : UInt8} (h : Text.byteOf? c = some byte)
    (rest : List Char) : (text (c :: rest)).read = (.ok (some byte), text rest) := by
  rw [read, h]

theorem read_text_of_none {c : Char} (h : Text.byteOf? c = none) (rest : List Char) :
    (text (c :: rest)).read = (.error .unencodable, text rest) := by
  rw [read, h]

end Source

namespace Session

/-! ### The first of several reads -/

/-- **What the first of the reads of an instruction does** with a text, and what the others then
have to start from. -/
inductive FirstRead (total left : Nat) (s : Session) : Option Failure × Session → Prop
  /-- It reads a character. -/
  | byte {c : Char} {byte : UInt8} {rest : List Char} :
    s.input = .text (c :: rest) → Text.byteOf? c = some byte →
      FirstRead total left s (readInput total left
        (s.withReads (.text rest) (s.tape.put s.pointer byte) (s.reads + 1) s.misses))
  /-- It is at the end and goes on. -/
  | missed {tape : Tape} :
    s.input = .text [] →
      FirstRead total left s (readInput total left
        (s.withReads (.text []) tape s.reads (s.pc :: s.misses)))
  /-- It is at the end and fails. -/
  | ended {done : Nat} :
    s.input = .text [] →
      FirstRead total left s (some (.endOfInput s.pc),
        (s.withReads (.text []) s.tape s.reads s.misses).rememberReads done)
  /-- It fails because the character has no code. -/
  | refused {c : Char} {rest : List Char} :
    s.input = .text (c :: rest) → Text.byteOf? c = none →
      FirstRead total left s (some .unencodable, s.withInput (.text rest))

section Reads

variable {text rest : List Char} {s t : Session} {total left : Nat}

theorem firstRead (total left : Nat) (hs : s.input = .text rest) :
    FirstRead total left s (readInput total (left + 1) s) := by
  rcases rest with _ | ⟨c, rest⟩
  · have hread : s.input.read = (.ok none, .text []) := by
      rw [hs]
      rfl
    cases heof : s.eof with
    | keep =>
      rw [readInput_keep hread heof]
      exact .missed hs
    | zero =>
      rw [readInput_zero hread heof]
      exact .missed hs
    | error =>
      rw [readInput_end hread heof]
      exact .ended hs
  · rcases hc : Text.byteOf? c with _ | byte
    · have hread : s.input.read = (.error .unencodable, .text rest) := by
        rw [hs, Source.read_text_of_none hc]
      rw [readInput_failed hread]
      exact .refused hs hc
    · have hread : s.input.read = (.ok (some byte), .text rest) := by
        rw [hs, Source.read_text_of_some hc]
      rw [readInput_byte hread]
      exact .byte hs hc

/-- Reads that find the end of a text and fail leave nothing of it. -/
theorem readInput_ended {pc : Nat} (hs : s.input = .text rest)
    (h : readInput total left s = (some (.endOfInput pc), t)) : t.input = .text [] := by
  induction left generalizing s rest with
  | zero => cases h
  | succ left ih =>
    have hfirst := firstRead total left hs
    rw [h] at hfirst
    generalize hr : (some (Failure.endOfInput pc), t) = r at hfirst
    cases hfirst with
    | byte => exact ih rfl hr.symm
    | missed => exact ih rfl hr.symm
    | ended =>
      cases hr
      rfl
    | refused => cases hr

/-- **Reads that fail at a character without a code and have completed none** leave the session as
it is, behind that character. -/
theorem readInput_refused (hs : s.input = .text rest)
    (h : readInput total left s = (some .unencodable, t)) (hreads : t.reads = s.reads) :
    ∃ c later, rest = c :: later ∧ Text.byteOf? c = none ∧ t = s.withInput (.text later) := by
  induction left generalizing s rest with
  | zero => cases h
  | succ left ih =>
    have hfirst := firstRead total left hs
    rw [h] at hfirst
    generalize hr : (some Failure.unencodable, t) = r at hfirst
    cases hfirst with
    | @byte c byte later =>
      have hle := (counts_le_readInput total left (s.withReads (.text later)
        (s.tape.put s.pointer byte) (s.reads + 1) s.misses)).1
      rw [← hr, hreads] at hle
      exact absurd hle (Nat.not_succ_le_self s.reads)
    | missed =>
      obtain ⟨c, later, hnil, -⟩ := ih rfl hr.symm hreads
      cases hnil
    | ended => cases hr
    | refused hs' hc =>
      cases hr
      rw [hs] at hs'
      exact ⟨_, _, Source.text.inj hs', hc, rfl⟩

end Reads

/-! ### The bytes in memory -/

/-- The bytes of the text that is left in the one source are left in the other. -/
def EncodedAs (a b : Source) : Prop :=
  ∃ rest, a = .text rest ∧ b.unread? = some (Text.bytes rest)

/-- A session that reads a text, and the same session with the bytes of the text in memory. -/
def Encoded : Session → Session → Prop := Exchanged EncodedAs Eq

theorem lockstep_encoded : Lockstep Encoded := lockstep_exchanged EncodedAs Eq

/-- **The bytes in memory stand in for the text.** -/
theorem interchangeable_encodedAs : Interchangeable EncodedAs Eq where
  read := by
    rintro a b ⟨rest, rfl, hbytes⟩ hcode
    rcases rest with _ | ⟨c, rest⟩
    · rw [Source.read_of_unread?_nil hbytes]
      exact ⟨rfl, [], rfl, hbytes⟩
    · rcases hc : Text.byteOf? c with _ | byte
      · rw [Source.read_text_of_none hc] at hcode
        exact absurd rfl hcode
      · rw [Text.bytes_of_some hc] at hbytes
        obtain ⟨later, hread, hlater⟩ := Source.read_of_unread?_cons hbytes
        rw [hread, Source.read_text_of_some hc]
        exact ⟨rfl, rest, rfl, hlater⟩
  write := by
    rintro a _ rfl bytes
    rfl

/-- **A step of both sessions**, unless a character has no code. -/
theorem step_encoded {s u : Session} (h : Encoded s u)
    (hok : ∀ t, s.step ≠ (.failed .unencodable, t)) : Alongside Encoded s.step u.step :=
  step_exchanged interchangeable_encodedAs h (Or.inl hok)

/-! ### The place in the text -/

/-- **A session is in its place** in a text: it has taken of the text what it needed for what it has
read, or it has come to the end and missed something. -/
structure InPlace (text : List Char) (s : Session) : Prop where
  /-- Behind the last character that was read. -/
  exact : s.misses = [] → s.input = .text (Text.afterBytes s.reads text)
  /-- At the end. -/
  missed : s.misses ≠ [] → s.input = .text []

/-- A session will be in its place after one read more: it may have taken characters without a code
that come before the next byte. -/
structure Nearly (text rest : List Char) (s : Session) : Prop where
  /-- What is left of the text. -/
  input : s.input = .text rest
  /-- Before the next character that can be read. -/
  next : s.misses = [] → Text.afterByte rest = Text.afterBytes (s.reads + 1) text
  /-- At the end. -/
  missed : s.misses ≠ [] → rest = []

section InPlace

variable {text rest : List Char} {s t : Session} {total left : Nat}

theorem InPlace.exists_nearly (h : InPlace text s) : ∃ rest, Nearly text rest s := by
  by_cases hmisses : s.misses = []
  · exact ⟨_, h.exact hmisses, fun _ => rfl, fun hne => absurd hmisses hne⟩
  · exact ⟨[], h.missed hmisses, fun heq => absurd heq hmisses, fun _ => rfl⟩

/-- A read brings the session to its place. -/
theorem Nearly.exists_inPlace (h : Nearly text rest s)
    (hr : readInput total (left + 1) s = (none, t)) :
    ∃ u, InPlace text u ∧ readInput total left u = (none, t) := by
  have hfirst := firstRead total left h.input
  rw [hr] at hfirst
  generalize hnone : ((none : Option Failure), t) = r at hfirst
  cases hfirst with
  | @byte c byte later hs hc =>
    have hrest : rest = c :: later := Source.text.inj (h.input.symm.trans hs)
    refine ⟨_, ⟨fun hmisses => ?_, fun hmisses => ?_⟩, rfl⟩
    · have hnext := h.next hmisses
      rw [hrest, Text.afterByte_of_some hc] at hnext
      exact congrArg Source.text hnext
    · cases hrest.symm.trans (h.missed hmisses)
  | missed => exact ⟨_, ⟨fun hnil => absurd hnil (List.cons_ne_nil _ _), fun _ => rfl⟩, rfl⟩
  | ended => cases hnone
  | refused => cases hnone

/-- **Reads keep the session in its place.** -/
theorem InPlace.readInput (h : InPlace text s) (hr : Session.readInput total left s = (none, t)) :
    InPlace text t := by
  induction left generalizing s with
  | zero =>
    cases hr
    exact h
  | succ left ih =>
    obtain ⟨rest, hnearly⟩ := h.exists_nearly
    obtain ⟨u, hu, hr'⟩ := hnearly.exists_inPlace hr
    exact ih hu hr'

/-- An instruction that does not read leaves everything about the input alone. -/
theorem execute_of_not_read {i : Instruction} (hi : ∀ n, i ≠ .perform .read n)
    (h : s.execute i = (none, t)) :
    t.input = s.input ∧ t.reads = s.reads ∧ t.misses = s.misses ∧
      t.partialReads = s.partialReads := by
  cases i with
  | perform action times =>
    cases action with
    | read => exact absurd rfl (hi times)
    | left | right | increment | decrement | write =>
      cases h
      exact ⟨rfl, rfl, rfl, rfl⟩
  | opening partner =>
    rw [execute] at h
    split at h <;> cases h <;> exact ⟨rfl, rfl, rfl, rfl⟩
  | closing partner =>
    rw [execute] at h
    split at h <;> cases h <;> exact ⟨rfl, rfl, rfl, rfl⟩

/-- With nothing remembered, all reads are to be done. -/
theorem execute_read (h : s.partialReads = []) (n : Nat) :
    s.execute (.perform .read n) = Session.readInput n n s := by
  have hdone : s.readsDone = 0 := by
    rw [readsDone, h]
    rfl
  have hforget : s.forgetReads = s := by
    rw [forgetReads, h, List.filter_nil, ← h]
  rw [execute, perform, hdone, hforget, Nat.sub_zero]

/-- **What is true of a driven session between its steps**: it is in its place, unless it stands
before an instruction that reads. -/
structure Placed (text : List Char) (s : Session) : Prop where
  /-- No reads are remembered. -/
  partialReads : s.partialReads = []
  /-- It is in its place, or will be after the next read. -/
  place : InPlace text s ∨
    ∃ rest n, Nearly text rest s ∧ s.program.at? s.pc = some (.perform .read (n + 1))

theorem Placed.exists_nearly (h : Placed text s) : ∃ rest, Nearly text rest s := by
  rcases h.place with hplace | ⟨rest, n, hnearly, -⟩
  · exact hplace.exists_nearly
  · exact ⟨rest, hnearly⟩

/-- At an instruction that does not read, the session is in its place. -/
theorem Placed.inPlace (h : Placed text s)
    (hread : ∀ n, s.program.at? s.pc ≠ some (.perform .read (n + 1))) : InPlace text s := by
  rcases h.place with hplace | ⟨rest, n, -, hi⟩
  · exact hplace
  · exact absurd hi (hread n)

/-- A step that is done leaves the session in its place. -/
theorem Placed.value {c : UInt8} (h : Placed text s) (hs : s.step = (.value c, t)) :
    Placed text t := by
  obtain ⟨-, i, u, hi, hu, rfl, -⟩ := step_value hs
  by_cases hread : ∃ n, i = .perform .read n
  · obtain ⟨n, rfl⟩ := hread
    rw [execute_read h.partialReads] at hu
    have hout := readInput_outcome (Nat.le_refl n) s
    rw [hu] at hout
    have hparts : u.partialReads = [] := by
      cases hout with
      | all => exact h.partialReads
    have hplace : InPlace text u := by
      rcases n with _ | n
      · cases hu
        exact h.inPlace fun n hn => by cases hi.symm.trans hn
      · obtain ⟨rest, hnearly⟩ := h.exists_nearly
        obtain ⟨v, hv, hr⟩ := hnearly.exists_inPlace hu
        exact hv.readInput hr
    exact ⟨hparts, Or.inl ⟨hplace.exact, hplace.missed⟩⟩
  · have hnot : ∀ n, i ≠ .perform .read n := fun n hn => hread ⟨n, hn⟩
    obtain ⟨hinput, hreads, hmisses, hparts⟩ := execute_of_not_read hnot hu
    have hplace := h.inPlace fun n hn => hnot (n + 1) (Option.some.inj (hi.symm.trans hn))
    refine ⟨hparts.trans h.partialReads, Or.inl ⟨fun hnil => ?_, fun hne => ?_⟩⟩
    · have hexact := hplace.exact (hmisses.symm.trans hnil)
      rw [← hinput, ← hreads] at hexact
      exact hexact
    · exact hinput.trans (hplace.missed fun hnil => hne (hmisses.trans hnil))

/-- **A step that is to be taken again**, and has completed no read, has done nothing but take a
character. -/
theorem Placed.again (h : Placed text s) (hs : s.step = (.failed .unencodable, t))
    (hreads : t.reads = s.reads) :
    ∃ c later, s.input = .text (c :: later) ∧ Text.byteOf? c = none ∧
      t = s.withInput (.text later) ∧ Placed text t := by
  rcases step_failed hs with ⟨e, -, hf, -⟩ | ⟨-, i, hi, hexec⟩
  · cases hf
  obtain ⟨n, rfl, -⟩ := execute_failed hexec
  rw [execute_read h.partialReads] at hexec
  obtain ⟨rest, hnearly⟩ := h.exists_nearly
  obtain ⟨c, later, rfl, hc, rfl⟩ := readInput_refused hnearly.input hexec hreads
  rcases n with _ | n
  · cases hexec
  refine ⟨c, later, hnearly.input, hc, rfl, h.partialReads, Or.inr ⟨later, n, ⟨rfl, ?_, ?_⟩, hi⟩⟩
  · intro hmisses
    rw [← Text.afterByte_of_none hc]
    exact hnearly.next hmisses
  · intro hmisses
    cases hnearly.missed hmisses

end InPlace

end Session

end Brainfuck
