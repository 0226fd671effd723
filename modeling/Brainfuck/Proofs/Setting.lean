import Brainfuck.Proofs.Session.Operation
import Brainfuck.Settings

/-!
# How a setting is read

A value from outside is read as the value of an option (`Brainfuck.Setting.read`). Which values can
be read, and as what, depends on the type of the option (`Brainfuck.Setting.Reads`): for a truth
value a word will do, and for a whole number a numeral or even a number with a fraction, which is
dropped.

What cannot be read is refused with an error that shows the value and names the option
(`Brainfuck.Setting.refusal`). There are two exceptions, an infinite number for an option that is a
whole number (`Brainfuck.Settings.Infinite`) and a value that cannot be written.
-/

namespace Brainfuck

/-! ### What a value is read as -/

namespace Value

/-- **A whole number that stands for another value**: for a floating-point number that is not
infinite, the next whole number in the direction of zero, and for bytes the number whose numeral
they are. -/
inductive Rounded : Value → Int → Prop
  /-- A zero. -/
  | zero {x : Float} {negative : Bool} : Decimal.Reading.ofFloat x = .zero negative →
    Rounded (.float x) 0
  /-- Another number. -/
  | finite {x : Float} {d : Decimal.Dyadic} : Decimal.Reading.ofFloat x = .finite d →
    Rounded (.float x) d.truncate
  /-- A numeral in bytes. -/
  | bytes {bytes : List UInt8} {n : Int} : Settings.integerOfBytes? bytes = some n →
    Rounded (.bytes bytes) n

/-- **A whole number that a value gives.** -/
inductive Gives : Value → Int → Prop
  /-- A whole number gives itself. -/
  | int (n : Int) : Gives (.int n) n
  /-- A text gives the number whose numeral it is. -/
  | text {s : String} {n : Int} : Decimal.integer? s = some n → Gives (.text s) n
  /-- Another value gives the number that stands for it. -/
  | rounded {v : Value} {n : Int} : v.Rounded n → Gives v n

/-- **A truth value that a value gives.** -/
inductive Affirms : Value → Bool → Prop
  /-- A truth value gives itself. -/
  | bool (b : Bool) : Affirms (.bool b) b
  /-- A word for true. -/
  | yes {s : String} : Settings.plainWord s ∈ Settings.trueWords → Affirms (.text s) true
  /-- A word for false. -/
  | no {s : String} : Settings.plainWord s ∈ Settings.falseWords → Affirms (.text s) false

end Value

namespace Setting

/-- **The value of an option** that a value from outside is read as. -/
def read (option : Setting) (v : Value) : Except Failure Value :=
  match option with
  | tapeLength => return .int (← Settings.readInt option.name v)
  | optimize => return .bool (← Settings.readBool option.name v)
  | maxIterations =>
    match v with
    | .null => return .null
    | _ => return .int (← Settings.readInt option.name v)
  | eof => return .text (← Settings.readWord option.name v)

/-- The value that it is read as, if it can be read. -/
def read? (option : Setting) (v : Value) : Option Value := (option.read v).toOption

/-- **The values that can be read** as an option, each with what it is read as. -/
inductive Reads : Setting → Value → Value → Prop
  /-- A length is a whole number. -/
  | tapeLength {v : Value} {n : Int} : v.Gives n → Reads tapeLength v (.int n)
  /-- Whether to optimize is a truth value. -/
  | optimize {v : Value} {b : Bool} : v.Affirms b → Reads optimize v (.bool b)
  /-- There may be no bound. -/
  | unbounded : Reads maxIterations .null .null
  /-- A bound is a whole number. -/
  | maxIterations {v : Value} {n : Int} : v.Gives n → Reads maxIterations v (.int n)
  /-- What to do at the end of the input is a word. -/
  | eof (s : String) : Reads eof (.text s) (.text (Settings.plainWord s))

/-- **The error for a value that cannot be read** names the option and shows the value, as it is
written. -/
def refusal (option : Setting) (given : String) : OptionError :=
  match option with
  | tapeLength | maxIterations => .notInteger option.name given
  | optimize => .notBoolean option.name given
  | eof => .notText option.name given

end Setting

namespace Settings

/-- **A value that is infinite**, for an option that is a whole number. -/
structure Infinite (option : Setting) (v : Value) : Prop where
  /-- The option is a whole number. -/
  integer : option = .tapeLength ∨ option = .maxIterations
  /-- The value is infinite. -/
  infinite : ∃ x negative, v = .float x ∧ Decimal.Reading.ofFloat x = .infinite negative

section Read

variable {name : String} {v : Value} {f : Failure}

/-! ### Whole numbers, truth values and words -/

/-- **A whole number is read** from the values that give one. -/
theorem readInt_eq_ok_iff {n : Int} : readInt name v = .ok n ↔ v.Gives n := by
  constructor
  · intro h
    rw [readInt.eq_def] at h
    dsimp only at h
    split at h
    · cases h
      exact .int n
    next x =>
      split at h
      next hx =>
        cases h
        exact .rounded (.finite hx)
      next hx =>
        cases h
        exact .rounded (.zero hx)
      · cases h
      · cases h
    next s =>
      rcases hs : Decimal.integer? s with _ | m <;> rw [hs] at h <;> cases h
      exact .text hs
    next bytes =>
      rcases hs : integerOfBytes? bytes with _ | m <;> rw [hs] at h <;> cases h
      exact .rounded (.bytes hs)
    · cases h
  · intro h
    cases h with
    | int => rfl
    | text hs => rw [readInt, hs]; rfl
    | rounded h =>
      cases h with
      | zero hx => simp only [readInt, hx]
      | finite hx => simp only [readInt, hx]
      | bytes hs => rw [readInt, hs]; rfl

/-- What gives no whole number is refused, and so is what is infinite, in another way. -/
theorem cause_of_readInt_error (h : readInt name v = .error f) :
    (∃ x negative, v = .float x ∧ Decimal.Reading.ofFloat x = .infinite negative) ∧ f = .tooLarge ∨
      (¬∃ x negative, v = .float x ∧ Decimal.Reading.ofFloat x = .infinite negative) ∧
        f = .about v fun text => .option (.notInteger name text) := by
  rw [readInt.eq_def] at h
  dsimp only at h
  split at h
  · cases h
  next x =>
    split at h
    · cases h
    · cases h
    next negative hx =>
      cases h
      exact Or.inl ⟨⟨x, negative, rfl, hx⟩, rfl⟩
    next hx =>
      cases h
      refine Or.inr ⟨?_, rfl⟩
      rintro ⟨x', negative, hx', hinfinite⟩
      cases hx'
      rw [hx] at hinfinite
      cases hinfinite
  next s =>
    rcases hs : Decimal.integer? s with _ | n <;> rw [hs] at h <;> cases h
    exact Or.inr ⟨nofun, rfl⟩
  next bytes =>
    rcases hs : integerOfBytes? bytes with _ | n <;> rw [hs] at h <;> cases h
    exact Or.inr ⟨nofun, rfl⟩
  next hfloat _ _ =>
    cases h
    refine Or.inr ⟨?_, rfl⟩
    rintro ⟨x, negative, hx, -⟩
    exact hfloat x hx

/-- **A truth value is read** from the values that give one. -/
theorem readBool_eq_ok_iff {b : Bool} : readBool name v = .ok b ↔ v.Affirms b := by
  constructor
  · intro h
    rw [readBool.eq_def] at h
    dsimp only at h
    split at h
    · cases h
      exact .bool b
    · split at h
      next hyes =>
        cases h
        exact .yes hyes
      · split at h <;> cases h
        exact .no ‹_›
    · cases h
  · intro h
    cases h with
    | bool => rfl
    | yes hyes => simp only [readBool, hyes, if_true]
    | no hno =>
      -- no word means both
      have hyes : ∀ word ∈ falseWords, word ∉ trueWords := by decide
      simp only [readBool, hyes _ hno, hno, if_false, if_true]

theorem eq_of_readBool_error (h : readBool name v = .error f) :
    f = .about v fun text => .option (.notBoolean name text) := by
  rw [readBool.eq_def] at h
  dsimp only at h
  split at h
  · cases h
  · split at h
    · cases h
    · split at h <;> cases h
      rfl
  · cases h
    rfl

theorem eq_of_readWord_error (h : readWord name v = .error f) :
    f = .about v fun text => .option (.notText name text) := by
  rw [readWord.eq_def] at h
  split at h <;> cases h
  rfl

end Read

end Settings

/-! ### Options -/

namespace Setting

section Read

variable {option : Setting} {v w : Value} {text : String} {f : Failure}

/-- A bound is read as a whole number, unless there is none. -/
theorem read_maxIterations (hv : v ≠ .null) :
    maxIterations.read v = do return .int (← Settings.readInt maxIterations.name v) := by
  rw [read.eq_def]
  dsimp only
  split
  · exact absurd rfl hv
  · rfl

/-- **An option is read** from the values that can be read as it. -/
theorem read_eq_ok_iff : option.read v = .ok w ↔ option.Reads v w := by
  constructor
  · intro h
    cases option with
    | tapeLength =>
      obtain ⟨n, hn, h⟩ := exists_of_bind h
      cases h
      exact .tapeLength (Settings.readInt_eq_ok_iff.mp hn)
    | optimize =>
      obtain ⟨b, hb, h⟩ := exists_of_bind h
      cases h
      exact .optimize (Settings.readBool_eq_ok_iff.mp hb)
    | maxIterations =>
      by_cases hv : v = .null
      · subst hv
        cases h
        exact .unbounded
      · rw [read_maxIterations hv] at h
        obtain ⟨n, hn, h⟩ := exists_of_bind h
        cases h
        exact .maxIterations (Settings.readInt_eq_ok_iff.mp hn)
    | eof =>
      obtain ⟨word, hword, h⟩ := exists_of_bind h
      cases h
      rw [Settings.readWord.eq_def] at hword
      split at hword <;> cases hword
      exact .eof _
  · intro h
    cases h with
    | tapeLength h => rw [read, Settings.readInt_eq_ok_iff.mpr h]; rfl
    | optimize h => rw [read, Settings.readBool_eq_ok_iff.mpr h]; rfl
    | unbounded => rfl
    | maxIterations h =>
      have hv : v ≠ .null := by
        rintro rfl
        cases h with
        | rounded h => cases h
      rw [read_maxIterations hv, Settings.readInt_eq_ok_iff.mpr h]
      rfl
    | eof s => rfl

/-- A value is read as one value only. -/
theorem Reads.unique {w' : Value} (h : option.Reads v w) (h' : option.Reads v w') : w = w' := by
  rw [← read_eq_ok_iff] at h h'
  exact Except.ok.inj (h.symm.trans h')

/-- **What cannot be read is refused** with the error for it, unless it is infinite or cannot be
written. -/
theorem cause_of_read_error (h : option.read v = .error f) :
    Settings.Infinite option v ∧ f = .tooLarge ∨
      ¬Settings.Infinite option v ∧ f = .about v fun text => .option (option.refusal text) := by
  -- both options that are whole numbers are refused like whole numbers
  have hint : ∀ o : Setting, o = .tapeLength ∨ o = .maxIterations →
      Settings.readInt o.name v = .error f →
      Settings.Infinite o v ∧ f = .tooLarge ∨
        ¬Settings.Infinite o v ∧ f = .about v fun text => .option (.notInteger o.name text) := by
    intro o ho h
    rcases Settings.cause_of_readInt_error h with ⟨hinfinite, hf⟩ | ⟨hfinite, hf⟩
    · exact Or.inl ⟨⟨ho, hinfinite⟩, hf⟩
    · exact Or.inr ⟨fun hinfinite => hfinite hinfinite.infinite, hf⟩
  cases option with
  | tapeLength =>
    rcases exists_of_bind_error h with h | ⟨n, -, h⟩
    · exact hint _ (Or.inl rfl) h
    · cases h
  | optimize =>
    rcases exists_of_bind_error h with h | ⟨b, -, h⟩
    · exact Or.inr ⟨fun hinfinite => hinfinite.integer.elim nofun nofun,
        Settings.eq_of_readBool_error h⟩
    · cases h
  | maxIterations =>
    by_cases hv : v = .null
    · subst hv
      cases h
    · rw [read_maxIterations hv] at h
      rcases exists_of_bind_error h with h | ⟨n, -, h⟩
      · exact hint _ (Or.inr rfl) h
      · cases h
  | eof =>
    rcases exists_of_bind_error h with h | ⟨s, -, h⟩
    · exact Or.inr ⟨fun hinfinite => hinfinite.integer.elim nofun nofun,
        Settings.eq_of_readWord_error h⟩
    · cases h

/-- **What cannot be read in a text is refused** with the error for it. -/
theorem eq_of_read_text_error (h : option.read (.text text) = .error f) :
    f = .option (option.refusal (Text.quoted text)) := by
  rcases cause_of_read_error h with ⟨hinfinite, -⟩ | ⟨-, hf⟩
  · obtain ⟨x, negative, hx, -⟩ := hinfinite.infinite
    cases hx
  · rw [hf, Failure.about_text]

/-- A value is refused exactly if it cannot be read. -/
theorem exists_read_error_iff : (∃ f, option.read v = .error f) ↔ ∀ w, ¬option.Reads v w := by
  constructor
  · rintro ⟨f, hf⟩ w hw
    rw [read_eq_ok_iff.mpr hw] at hf
    cases hf
  · intro h
    rcases hread : option.read v with f | w
    · exact ⟨f, rfl⟩
    · exact absurd (read_eq_ok_iff.mp hread) (h w)

end Read

end Setting

end Brainfuck
