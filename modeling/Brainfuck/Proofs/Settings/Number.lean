import Brainfuck.Proofs.Builder
import Brainfuck.Proofs.Settings

/-!
# Numbers from a document and numbers from a caller

The length of a tape and the bound on the number of steps can be named by a caller, who must give a
whole number, and by a document, where a value is read first. A document with one entry makes the
configuration that a caller makes who names what the entry is read as
(`Brainfuck.Config.ofEntry_eq`).

So the two agree on every value that is no text, unless another number stands for it
(`Brainfuck.Value.Rounded`). A number with a fraction is refused from a caller, but a document that
has it gets the number without the fraction, which may even be no bound at all
(`Brainfuck.Config.ofEntry_rounded`).
-/

namespace Brainfuck

namespace Setting

/-- Arguments that name one option. -/
def only (option : Setting) (v : Value) : Arguments :=
  match option with
  | tapeLength => { Arguments.empty with tapeLength := some v }
  | optimize => { Arguments.empty with optimize := some v }
  | maxIterations => { Arguments.empty with maxIterations := some v }
  | eof => { Arguments.empty with eof := some v }

end Setting

namespace Settings

/-- **A document with one entry** names one option, and what the entry is read as. -/
theorem ofValue_entry (option : Setting) (v : Value) :
    (ofValue (.mapping [(.text option.name, v)])).map arguments =
      (option.read v).map option.only := by
  have hkeys : ∀ e ∈ [(Value.text option.name, v)], (settingOfKey? e.1).isSome := by
    rw [List.forall_mem_singleton, settingOfKey?_name]
    rfl
  have hput : empty.putEntries [(.text option.name, v)] = empty.put option v := by
    rw [putEntries, settingOfKey?_name]
    exact bind_pure (empty.put option v)
  rw [ofValue_of_isSome hkeys, hput]
  cases option with
  | tapeLength => exact map_bind_eq_map (readInt _ v) fun _ => rfl
  | optimize => exact map_bind_eq_map (readBool _ v) fun _ => rfl
  | maxIterations =>
    cases v with
    | null => rfl
    | bool | int | float | text | bytes | date | moment | list | pair | set | mapping | again
    | deep =>
      exact map_bind_eq_map (readInt _ _) fun _ => rfl
  | eof => exact map_bind_eq_map (readWord _ v) fun _ => rfl

end Settings

namespace Config

/-- The configuration of arguments under an option that a caller names. -/
def ofOption (option : Setting) (v : Value) (a : Arguments) : Except Failure Config :=
  ofArguments ((option.only v).onto a)

/-- The configuration of arguments under an option that a document names. -/
def ofEntry (option : Setting) (v : Value) (a : Arguments) : Except Failure Config := do
  let settings ← Settings.ofValue (.mapping [(.text option.name, v)])
  ofArguments (settings.arguments.onto a)

section Entry

variable {option : Setting} {v : Value} {a : Arguments} {c : Config}

/-- **An entry is read before the option is named.** -/
theorem ofEntry_eq (option : Setting) (v : Value) (a : Arguments) :
    ofEntry option v a = (do ofOption option (← option.read v) a) := by
  have h := Settings.ofValue_entry option v
  rw [ofEntry]
  rcases hvalue : Settings.ofValue (.mapping [(.text option.name, v)]) with f | s <;>
    rcases hread : option.read v with g | w <;> rw [hvalue, hread] at h
  · cases h
    rfl
  · cases h
  · cases h
  · have harguments : s.arguments = option.only w := Except.ok.inj h
    change ofArguments (s.arguments.onto a) = ofOption option w a
    rw [harguments, ofOption]

/-- **A caller can name whole numbers**, and no bound. -/
theorem exists_of_ofOption (hoption : option = .tapeLength ∨ option = .maxIterations)
    (h : ofOption option v a = .ok c) :
    (∃ n, v = .int n) ∨ option = .maxIterations ∧ v = .null := by
  have hchecked := checked_of_ok h
  rcases hoption with rfl | rfl
  · have hlength : TapeLength.ofValue v = .ok c.tapeLength := hchecked.tapeLength
    exact Or.inl ⟨_, Builder.eq_int_of_ofValue hlength⟩
  · have hbound : boundOfValue v = .ok c.maxIterations := hchecked.maxIterations
    rw [boundOfValue.eq_def] at hbound
    split at hbound
    · exact Or.inr ⟨rfl, rfl⟩
    · exact Or.inl ⟨_, rfl⟩
    · cases hbound

/-- A whole number, and no bound, is read as itself. -/
theorem read_of_exists (hoption : option = .tapeLength ∨ option = .maxIterations)
    (h : (∃ n, v = .int n) ∨ option = .maxIterations ∧ v = .null) : option.read v = .ok v := by
  rw [Setting.read_eq_ok_iff]
  rcases h with ⟨n, rfl⟩ | ⟨rfl, rfl⟩
  · rcases hoption with rfl | rfl
    · exact .tapeLength (.int n)
    · exact .maxIterations (.int n)
  · exact .unbounded

/-- What a value that is no text is read as, unless a number stands for it. -/
theorem eq_of_read {w : Value} (hoption : option = .tapeLength ∨ option = .maxIterations)
    (htext : ∀ s, v ≠ .text s) (hrounded : ∀ n, ¬v.Rounded n) (h : option.read v = .ok w) :
    w = v := by
  have hgives : ∀ {n : Int}, v.Gives n → .int n = v := by
    intro n hn
    cases hn with
    | int => rfl
    | text hs => exact absurd rfl (htext _)
    | rounded hn => exact absurd hn (hrounded _)
  rw [Setting.read_eq_ok_iff] at h
  cases h with
  | tapeLength hn => exact hgives hn
  | maxIterations hn => exact hgives hn
  | unbounded => rfl
  | optimize | eof => rcases hoption with h | h <;> cases h

/-- **A number that stands for a value** takes its place in a document, but a caller cannot give
such a value. -/
theorem ofEntry_rounded {n : Int} (hoption : option = .tapeLength ∨ option = .maxIterations)
    (hn : v.Rounded n) :
    ofEntry option v a = ofOption option (.int n) a ∧ ∃ f, ofOption option v a = .error f := by
  constructor
  · have hread : option.read v = .ok (.int n) := by
      rw [Setting.read_eq_ok_iff]
      rcases hoption with rfl | rfl
      · exact .tapeLength (.rounded hn)
      · exact .maxIterations (.rounded hn)
    rw [ofEntry_eq, hread]
    rfl
  · rcases hdirect : ofOption option v a with f | c
    · exact ⟨f, rfl⟩
    · rcases exists_of_ofOption hoption hdirect with ⟨m, rfl⟩ | ⟨-, rfl⟩ <;> cases hn

end Entry

/-- **A number from a document and the same number from a caller.** -/
structure Alike (option : Setting) (v : Value) (a : Arguments) : Prop where
  /-- They make the same configuration, if they make one, unless another number stands for the
  value. -/
  agree : (∀ n, ¬v.Rounded n) → ∀ c, ofEntry option v a = .ok c ↔ ofOption option v a = .ok c
  /-- A number that stands for the value takes its place in a document, but a caller cannot give
  such a value. -/
  rounded : ∀ n, v.Rounded n →
    ofEntry option v a = ofOption option (.int n) a ∧ ∃ f, ofOption option v a = .error f

section Alike

variable {option : Setting} {v : Value}

/-- **Documents and callers name the same numbers**, as far as these are not rounded. -/
theorem alike_of_ne_text (hoption : option = .tapeLength ∨ option = .maxIterations)
    (htext : ∀ s, v ≠ .text s) (a : Arguments) : Alike option v a where
  agree hrounded c := by
    rw [ofEntry_eq]
    constructor
    · intro h
      obtain ⟨w, hw, h⟩ := exists_of_bind h
      rwa [eq_of_read hoption htext hrounded hw] at h
    · intro h
      rw [read_of_exists hoption (exists_of_ofOption hoption h)]
      exact h
  rounded _ hn := ofEntry_rounded hoption hn

/-- A length that is a whole number, and one with a fraction. -/
theorem alike_of_ne_text_length :
    (∀ s, Value.int 7 ≠ .text s) ∧ Alike .tapeLength (.int 7) .empty ∧
      (∀ s, Value.float 2.5 ≠ .text s) ∧ Alike .tapeLength (.float 2.5) .empty := by
  have hint : ∀ s, Value.int 7 ≠ .text s := fun s h => by cases h
  have hfloat : ∀ s, Value.float 2.5 ≠ .text s := fun s h => by cases h
  exact ⟨hint, alike_of_ne_text (Or.inl rfl) hint .empty, hfloat,
    alike_of_ne_text (Or.inl rfl) hfloat .empty⟩

/-- **Fractions**: a document that asks for two cells and a half gets two, and one that asks for
half a step gets any number of them. A caller gets neither. -/
theorem not_alike_fraction :
    ofEntry .tapeLength (.float 2.5) .empty =
        .ok ⟨[], ⟨2, by decide⟩, .bool false, none, .none, .none, .keep⟩ ∧
      ofOption .tapeLength (.float 2.5) .empty = .error (.tapeLength "2.5") ∧
      ofEntry .maxIterations (.float 0.5) .empty =
        .ok ⟨[], .standard, .bool false, none, .none, .none, .keep⟩ ∧
      ofOption .maxIterations (.float 0.5) .empty =
        .error (.option (.notInteger "max_iterations" "0.5")) := by
  refine ⟨?_, ?_, ?_, ?_⟩ <;> rfl

end Alike

end Config

end Brainfuck
