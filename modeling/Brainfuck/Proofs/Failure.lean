import Brainfuck.Value.Literal

/-!
# Laws of failures

What is done in two steps fails in one of them (`Brainfuck.exists_of_bind_error`), and every failure
that is reported has a wording (`Brainfuck.Failure.exists_message`).

A failure that is about a value shows it, if the value can be written
(`Brainfuck.Failure.about_cases`). There are two things that are never written, a whole number with
too many digits and what is nested too deeply (`Brainfuck.Value.Endless`), and a value can be
written exactly if neither occurs in it (`Brainfuck.Value.exists_literal_error_iff`).
-/

namespace Brainfuck

/-! ### Steps -/

/-- What succeeds in two steps succeeds in each of them. -/
theorem exists_of_bind {ε α β : Type} {x : Except ε α} {f : α → Except ε β} {b : β}
    (h : x >>= f = .ok b) : ∃ a, x = .ok a ∧ f a = .ok b := by
  rcases x with e | a
  · cases h
  · exact ⟨a, rfl, h⟩

/-- What fails in two steps fails in one of them. -/
theorem exists_of_bind_error {ε α β : Type} {x : Except ε α} {f : α → Except ε β} {e : ε}
    (h : x >>= f = .error e) : x = .error e ∨ ∃ a, x = .ok a ∧ f a = .error e := by
  rcases x with g | a
  · cases h
    exact Or.inl rfl
  · exact Or.inr ⟨a, rfl, h⟩

namespace Failure

/-- What is left of an operation that did not fail is the state after it. -/
theorem eq_of_resolve {α : Type} {r : Option Failure × α} {a : α} (h : resolve r = .ok a) :
    r = (none, a) := by
  rcases r with ⟨_ | f, b⟩
  · cases h
    rfl
  · cases h

/-- **Every failure that is reported has a wording.** -/
theorem exists_message {f : Failure} (h : f.isReported = true) :
    ∃ message, f.message? = some message := by
  cases f with
  | compile | tapeLength | endOfInput | option | file => exact ⟨_, rfl⟩
  | outOfBounds position length =>
    obtain ⟨text, htext⟩ := Option.isSome_iff_exists.mp h
    rw [message?, htext]
    exact ⟨_, rfl⟩
  | unusableInput | unusableOutput | badIndex | wrongKind | badValue | tooLarge | outOfMemory
  | noSuchOperation | unencodable | unknownWord | undecodable | malformedDocument | tooDeep =>
    cases h

end Failure

/-! ### What can be written -/

namespace Value

/-- **A value occurs in another**: it is that value, or occurs in something that the value is made
of. -/
inductive Within (w : Value) : Value → Prop
  /-- The value itself. -/
  | self : Within w w
  /-- A member of a list. -/
  | item {items : List Value} {v : Value} : v ∈ items → Within w v → Within w (.list items)
  /-- The first of a pair. -/
  | first {first second : Value} : Within w first → Within w (.pair first second)
  /-- The second of a pair. -/
  | second {first second : Value} : Within w second → Within w (.pair first second)
  /-- A member of a set. -/
  | member {members : List Value} {v : Value} : v ∈ members → Within w v → Within w (.set members)
  /-- A key of a mapping. -/
  | key {entries : List (Value × Value)} {e : Value × Value} : e ∈ entries → Within w e.1 →
    Within w (.mapping entries)
  /-- A value in a mapping. -/
  | entry {entries : List (Value × Value)} {e : Value × Value} : e ∈ entries → Within w e.2 →
    Within w (.mapping entries)

/-- **What is never written**, and the failure that the attempt meets. -/
inductive Endless : Value → Failure → Prop
  /-- A whole number with too many digits. -/
  | long {n : Int} : Decimal.numeralLimit ≤ n.natAbs → Endless (.int n) .badValue
  /-- What is nested too deeply. -/
  | deep (isMapping : Bool) : Endless (.deep isMapping) .tooDeep

section Int

variable {n : Int} {f : Failure}

theorem literal_int_of_lt (h : n.natAbs < Decimal.numeralLimit) :
    (int n).literal = .ok (toString n) := by
  rw [literal, Decimal.numeral?, if_pos h]
  rfl

/-- A whole number is written unless it has too many digits. -/
theorem literal_int_eq_error_iff :
    (int n).literal = .error f ↔ f = .badValue ∧ Decimal.numeralLimit ≤ n.natAbs := by
  rw [literal, Decimal.numeral?]
  split
  next hlt => exact iff_of_false nofun fun h => Nat.not_lt.mpr h.2 hlt
  next hlt =>
    constructor
    · intro h
      cases h
      exact ⟨rfl, Nat.not_lt.mp hlt⟩
    · rintro ⟨rfl, -⟩
      rfl

theorem Endless.literal {w : Value} (h : Endless w f) : w.literal = .error f := by
  cases h with
  | long hlong => exact literal_int_eq_error_iff.mpr ⟨rfl, hlong⟩
  | deep => rfl

end Int

mutual

/-- What cannot be written has something in it that is never written. -/
theorem exists_within_of_literal_error {f : Failure} :
    ∀ {v : Value}, v.literal = .error f → ∃ w, Within w v ∧ Endless w f
  | int n, h => by
    obtain ⟨rfl, hlong⟩ := literal_int_eq_error_iff.mp h
    exact ⟨int n, .self, .long hlong⟩
  | deep isMapping, h => by
    cases h
    exact ⟨.deep isMapping, .self, .deep isMapping⟩
  | list items, h => by
    rcases exists_of_bind_error h with h | ⟨texts, -, h⟩
    · obtain ⟨v, hv, w, hw, hend⟩ := exists_within_of_literals_error h
      exact ⟨w, .item hv hw, hend⟩
    · cases h
  | pair first second, h => by
    rcases exists_of_bind_error h with h | ⟨text, -, h⟩
    · obtain ⟨w, hw, hend⟩ := exists_within_of_literal_error h
      exact ⟨w, .first hw, hend⟩
    rcases exists_of_bind_error h with h | ⟨text, -, h⟩
    · obtain ⟨w, hw, hend⟩ := exists_within_of_literal_error h
      exact ⟨w, .second hw, hend⟩
    · cases h
  | set members, h => by
    rcases exists_of_bind_error h with h | ⟨texts, -, h⟩
    · obtain ⟨v, hv, w, hw, hend⟩ := exists_within_of_literals_error h
      exact ⟨w, .member hv hw, hend⟩
    · cases h
  | mapping entries, h => by
    rcases exists_of_bind_error h with h | ⟨texts, -, h⟩
    · obtain ⟨e, he, ⟨w, hw, hend⟩ | ⟨w, hw, hend⟩⟩ := exists_within_of_entryLiterals_error h
      · exact ⟨w, .key he hw, hend⟩
      · exact ⟨w, .entry he hw, hend⟩
    · cases h

theorem exists_within_of_literals_error {f : Failure} :
    ∀ {items : List Value}, literals items = .error f →
      ∃ v ∈ items, ∃ w, Within w v ∧ Endless w f
  | v :: items, h => by
    rcases exists_of_bind_error h with h | ⟨text, -, h⟩
    · exact ⟨v, List.mem_cons_self, exists_within_of_literal_error h⟩
    rcases exists_of_bind_error h with h | ⟨texts, -, h⟩
    · obtain ⟨v', hv', hw⟩ := exists_within_of_literals_error h
      exact ⟨v', List.mem_cons_of_mem v hv', hw⟩
    · cases h

theorem exists_within_of_entryLiterals_error {f : Failure} :
    ∀ {entries : List (Value × Value)}, entryLiterals entries = .error f →
      ∃ e ∈ entries, (∃ w, Within w e.1 ∧ Endless w f) ∨ ∃ w, Within w e.2 ∧ Endless w f
  | (k, v) :: entries, h => by
    rcases exists_of_bind_error h with h | ⟨text, -, h⟩
    · exact ⟨(k, v), List.mem_cons_self, Or.inl (exists_within_of_literal_error h)⟩
    rcases exists_of_bind_error h with h | ⟨text, -, h⟩
    · exact ⟨(k, v), List.mem_cons_self, Or.inr (exists_within_of_literal_error h)⟩
    rcases exists_of_bind_error h with h | ⟨texts, -, h⟩
    · obtain ⟨e, he, hw⟩ := exists_within_of_entryLiterals_error h
      exact ⟨e, List.mem_cons_of_mem (k, v) he, hw⟩
    · cases h

end

section Written

variable {v w : Value} {text : String} {f : Failure}

/-- All members of a list that can be written can be written. -/
theorem exists_literal_of_literals {items : List Value} {texts : List String}
    (h : literals items = .ok texts) (hv : v ∈ items) : ∃ text, v.literal = .ok text := by
  induction items generalizing texts with
  | nil => cases hv
  | cons first items ih =>
    obtain ⟨text, htext, h⟩ := exists_of_bind h
    obtain ⟨rest, hrest, -⟩ := exists_of_bind h
    rcases List.mem_cons.mp hv with rfl | hv
    · exact ⟨text, htext⟩
    · exact ih hrest hv

theorem exists_literal_of_entryLiterals {entries : List (Value × Value)} {texts : List String}
    {e : Value × Value} (h : entryLiterals entries = .ok texts) (he : e ∈ entries) :
    (∃ text, e.1.literal = .ok text) ∧ ∃ text, e.2.literal = .ok text := by
  induction entries generalizing texts with
  | nil => cases he
  | cons first entries ih =>
    obtain ⟨key, hkey, h⟩ := exists_of_bind h
    obtain ⟨value, hvalue, h⟩ := exists_of_bind h
    obtain ⟨rest, hrest, -⟩ := exists_of_bind h
    rcases List.mem_cons.mp he with rfl | he
    · exact ⟨⟨key, hkey⟩, value, hvalue⟩
    · exact ih hrest he

/-- What occurs in a value that can be written can be written. -/
theorem Within.exists_literal (h : Within w v) (hv : v.literal = .ok text) :
    ∃ text, w.literal = .ok text := by
  induction h generalizing text with
  | self => exact ⟨text, hv⟩
  | item hmem _ ih | member hmem _ ih =>
    obtain ⟨texts, htexts, -⟩ := exists_of_bind hv
    obtain ⟨text, htext⟩ := exists_literal_of_literals htexts hmem
    exact ih htext
  | first _ ih =>
    obtain ⟨text, htext, -⟩ := exists_of_bind hv
    exact ih htext
  | second _ ih =>
    obtain ⟨_, -, hv⟩ := exists_of_bind hv
    obtain ⟨text, htext, -⟩ := exists_of_bind hv
    exact ih htext
  | key hmem _ ih =>
    obtain ⟨texts, htexts, -⟩ := exists_of_bind hv
    obtain ⟨⟨text, htext⟩, -⟩ := exists_literal_of_entryLiterals htexts hmem
    exact ih htext
  | entry hmem _ ih =>
    obtain ⟨texts, htexts, -⟩ := exists_of_bind hv
    obtain ⟨-, text, htext⟩ := exists_literal_of_entryLiterals htexts hmem
    exact ih htext

/-- **A value can be written** exactly if nothing occurs in it that is never written. -/
theorem exists_literal_error_iff :
    (∃ f, v.literal = .error f) ↔ ∃ w f, Within w v ∧ Endless w f := by
  constructor
  · rintro ⟨f, h⟩
    obtain ⟨w, hw, hend⟩ := exists_within_of_literal_error h
    exact ⟨w, f, hw, hend⟩
  · rintro ⟨w, f, hw, hend⟩
    rcases hv : v.literal with g | text
    · exact ⟨g, rfl⟩
    · obtain ⟨text, htext⟩ := hw.exists_literal hv
      cases hend.literal.symm.trans htext

end Written

end Value

/-! ### Failures about values -/

namespace Failure

variable {v : Value} {failure : String → Failure} {text : String} {f : Failure}

theorem about_of_literal (h : v.literal = .ok text) : about v failure = failure text := by
  rw [about, h]

theorem about_of_literal_error (h : v.literal = .error f) : about v failure = f := by
  rw [about, h]

/-- **A failure about a value** shows it, if it can be written. Otherwise it is the failure that the
attempt meets. -/
theorem about_cases (v : Value) (failure : String → Failure) :
    (∃ text, v.literal = .ok text ∧ about v failure = failure text) ∨
      v.literal = .error (about v failure) := by
  rcases h : v.literal with f | text
  · rw [about_of_literal_error h]
    exact Or.inr rfl
  · exact Or.inl ⟨text, rfl, about_of_literal h⟩

/-- A failure about a value is told, if the value can be written. -/
theorem isReported_about (h : ∀ text, (failure text).isReported = true) :
    (about v failure).isReported = true ∨ v.literal = .error (about v failure) := by
  rcases about_cases v failure with ⟨text, -, habout⟩ | hv
  · rw [habout]
    exact Or.inl (h text)
  · exact Or.inr hv

/-- A failure about a whole number shows it, -/
theorem about_int_of_lt {n : Int} (h : n.natAbs < Decimal.numeralLimit) :
    about (.int n) failure = failure (toString n) :=
  about_of_literal (Value.literal_int_of_lt h)

/-- unless it has too many digits. -/
theorem about_int_of_le {n : Int} (h : Decimal.numeralLimit ≤ n.natAbs) :
    about (.int n) failure = .badValue :=
  about_of_literal_error (Value.Endless.long h).literal

theorem about_text (s : String) (failure : String → Failure) :
    about (.text s) failure = failure (Text.quoted s) := rfl

end Failure

end Brainfuck
