import Mathlib.Algebra.Group.Nat.Defs
import Mathlib.Data.List.Basic
import Brainfuck.Settings

/-!
# How words and numbers are spelled

A word or a numeral may have blanks around it (`Brainfuck.Text.Padded`), and these are dropped
(`Brainfuck.Text.Padded.trimBoth_eq`). A word may also be spelled with capitals, and a numeral may
have a sign and any number of leading zeros (`Brainfuck.Decimal.Numeral`). However it is spelled, it
is read as the same word (`Brainfuck.Settings.plainWord_of_spells`) or as the same number
(`Brainfuck.Decimal.Writes.integer?_eq`), unless a numeral has too many digits.

The tables of letters, blanks and digits are those of Unicode. On the first 128 characters they are
what they are elsewhere, which is all that is needed here.
-/

namespace Brainfuck

namespace Text

/-- What holds of the first 128 characters. -/
@[elab_as_elim]
theorem forall_ascii {P : Char → Prop} {c : Char} (hc : c.toNat < 128)
    (h : ∀ n < 128, P (Char.ofNat n)) : P c := by
  rw [← Char.ofNat_toNat c]
  exact h _ hc

/-! ### Blanks -/

/-- **A text with characters of a kind around it.** -/
def Padded (p : Char → Bool) (core : List Char) (text : String) : Prop :=
  ∃ before after, (∀ c ∈ before, p c = true) ∧ (∀ c ∈ after, p c = true) ∧
    text.toList = before ++ core ++ after

section Trim

variable {p : Char → Bool} {core : List Char} {text : String}

theorem dropWhile_eq_self (h : ∀ c ∈ core, p c = false) : core.dropWhile p = core := by
  cases core with
  | nil => rfl
  | cons c rest => exact List.dropWhile_cons_of_neg (by rw [h c List.mem_cons_self]; decide)

/-- What stands behind a text is dropped from its end. -/
theorem trimBoth_append {after : List Char} (hcore : ∀ c ∈ core, p c = false)
    (hafter : ∀ c ∈ after, p c = true) : trimBoth p (core ++ after) = core := by
  have hend : ((core ++ after).reverse.dropWhile p).reverse = core := by
    rw [List.reverse_append, List.dropWhile_append_of_pos fun c hc =>
      hafter c (List.mem_reverse.mp hc), dropWhile_eq_self fun c hc =>
      hcore c (List.mem_reverse.mp hc), List.reverse_reverse]
  cases core with
  | nil =>
    have hnil : after.dropWhile p = [] := by
      rw [← List.append_nil after, List.dropWhile_append_of_pos hafter, List.dropWhile_nil]
    rw [List.nil_append, trimBoth, hnil]
    rfl
  | cons c rest =>
    have hc : p c = false := hcore c List.mem_cons_self
    rw [trimBoth, List.cons_append, List.dropWhile_cons_of_neg (by rw [hc]; decide)]
    exact hend

/-- **What is around a text is dropped.** -/
theorem Padded.trimBoth_eq (h : Padded p core text) (hcore : ∀ c ∈ core, p c = false) :
    trimBoth p text.toList = core := by
  obtain ⟨before, after, hbefore, hafter, htext⟩ := h
  rw [htext, List.append_assoc]
  have hdrop : (before ++ (core ++ after)).dropWhile p = (core ++ after).dropWhile p :=
    List.dropWhile_append_of_pos hbefore
  rw [trimBoth, hdrop]
  exact trimBoth_append hcore hafter

end Trim

/-! ### Letters -/

section Lower

variable {c : Char} {cs : List Char}

/-- Of the first 128 characters, only those of the first run are capitals. -/
theorem find?_capitals (hc : c.toNat < 128) :
    capitals.find? (·.contains c.toNat) =
      [⟨0x41, 0x5a, 1, 32⟩].find? (·.contains c.toNat) := by
  have hcapitals : capitals = ⟨0x41, 0x5a, 1, 32⟩ :: capitals.tail := rfl
  have hlater : capitals.tail.find? (·.contains c.toNat) = none := by
    have hfirst : ∀ run ∈ capitals.tail, 128 ≤ run.first := by decide +kernel
    refine List.find?_eq_none.mpr fun run hrun hcontains => ?_
    have hle := hfirst run hrun
    simp only [CaseRun.contains, Bool.and_eq_true, decide_eq_true_eq] at hcontains
    omega
  rw [hcapitals, List.find?_cons, List.find?_cons, hlater, List.find?_nil]

theorem lowerChar_of_ascii (hc : c.toNat < 128) : lowerChar c = c.toLower := by
  rw [lowerChar, find?_capitals hc]
  exact forall_ascii hc (by decide)

theorem lowerAt_of_ascii (before after : List Char) (hc : c.toNat < 128) :
    lowerAt before c after = [c.toLower] := by
  have hsigma : c ≠ 'Σ' := by
    rintro rfl
    exact absurd hc (by decide)
  have hdotted : c ≠ 'İ' := by
    rintro rfl
    exact absurd hc (by decide)
  rw [lowerAt, if_neg hsigma, if_neg hdotted, lowerChar_of_ascii hc]

/-- **The lower case of the first 128 characters** is taken letter by letter. -/
theorem lower_of_ascii (h : ∀ c ∈ cs, c.toNat < 128) : lower cs = cs.map Char.toLower := by
  have hafter : ∀ before, lowerAfter before cs = cs.map Char.toLower := by
    induction cs with
    | nil => exact fun _ => rfl
    | cons c cs ih =>
      intro before
      rw [lowerAfter, lowerAt_of_ascii _ _ (h c List.mem_cons_self),
        ih fun c' hc' => h c' (List.mem_cons_of_mem c hc')]
      rfl
  exact hafter []

/-- A letter is among the first 128 characters if its lower case is. -/
theorem ascii_of_toLower (h : c.toLower.toNat < 128) : c.toNat < 128 := by
  by_cases hc : c.val ≥ 'A'.val ∧ c.val ≤ 'Z'.val
  · have hle : c.toNat ≤ 'Z'.toNat := UInt32.le_iff_toNat_le.mp hc.2
    exact Nat.lt_of_le_of_lt hle (by decide)
  · have hlower : c.toLower = c := dif_neg hc
    rwa [hlower] at h

/-- A letter is no blank if its lower case is none. -/
theorem isBlank_eq_false_of_toLower (hc : c.toNat < 128) (h : isBlank c.toLower = false) :
    isBlank c = false := by
  revert h
  exact forall_ascii hc (by decide)

end Lower

end Text

/-! ### Words -/

/-- **A word in capitals, in small letters or in both**, with blanks around it. -/
def Text.Spells (word text : String) : Prop :=
  ∃ core : List Char, core.map Char.toLower = word.toList ∧ Text.Padded Text.isBlank core text

/-- **A word that can be spelled**: it has none but the first 128 characters, and no blanks. -/
def Text.IsWord (word : String) : Prop :=
  ∀ c ∈ word.toList, c.toNat < 128 ∧ Text.isBlank c = false

instance : DecidablePred Text.IsWord := fun word =>
  List.decidableBAll (fun c : Char => c.toNat < 128 ∧ Text.isBlank c = false) word.toList

/-- **However a word is spelled, it is read as itself.** -/
theorem Settings.plainWord_of_spells {word text : String} (hword : Text.IsWord word)
    (h : Text.Spells word text) : plainWord text = word := by
  obtain ⟨core, hcase, hpadded⟩ := h
  have hcore : ∀ c ∈ core, c.toNat < 128 ∧ Text.isBlank c = false := by
    intro c hc
    obtain ⟨hascii, hblank⟩ := hword c.toLower (hcase ▸ List.mem_map_of_mem hc)
    have hc := Text.ascii_of_toLower hascii
    exact ⟨hc, Text.isBlank_eq_false_of_toLower hc hblank⟩
  rw [plainWord, Text.trim, hpadded.trimBoth_eq fun c hc => (hcore c hc).2,
    Text.lower_of_ascii fun c hc => (hcore c hc).1, hcase, String.ofList_toList]

/-! ### Numerals -/

namespace Decimal

/-- **A run of decimal digits.** -/
structure IsDigits (cs : List Char) : Prop where
  /-- There is at least one. -/
  ne_nil : cs ≠ []
  /-- They are digits. -/
  isDigit : ∀ c ∈ cs, c.isDigit = true

/-- **A decimal numeral**, with or without a sign. -/
inductive Numeral : List Char → Int → Prop
  /-- Digits alone. -/
  | plain {cs : List Char} : IsDigits cs → Numeral cs (Nat.ofDigitChars 10 cs 0)
  /-- Digits after a plus. -/
  | plus {cs : List Char} : IsDigits cs → Numeral ('+' :: cs) (Nat.ofDigitChars 10 cs 0)
  /-- Digits after a minus. -/
  | minus {cs : List Char} : IsDigits cs → Numeral ('-' :: cs) (-(Nat.ofDigitChars 10 cs 0))

/-- **A numeral with blanks around it.** -/
def Writes (n : Int) (text : String) : Prop :=
  ∃ core, Numeral core n ∧ Text.Padded Text.isNumeralBlank core text

/-- The number of digits in a text. -/
def digitCount (text : String) : Nat := text.toList.countP Char.isDigit

section Digits

variable {c : Char} {cs : List Char}

theorem ascii_of_isDigit (h : c.isDigit = true) : c.toNat < 128 :=
  Nat.lt_of_le_of_lt (Char.isDigit_iff_toNat.mp h).2 (by decide)

theorem digitValue?_of_isDigit (h : c.isDigit = true) :
    Text.digitValue? c = some (c.toNat - '0'.toNat) := by
  have hc := ascii_of_isDigit h
  revert h
  exact Text.forall_ascii hc (by decide)

theorem isNumeralBlank_of_isDigit (h : c.isDigit = true) : Text.isNumeralBlank c = false := by
  have hc := ascii_of_isDigit h
  revert h
  exact Text.forall_ascii hc (by decide)

/-- A run of digits is read digit by digit. -/
theorem digits?_of_isDigits (h : IsDigits cs) :
    digits? cs = some (cs.map fun c => c.toNat - '0'.toNat) := by
  obtain ⟨hne, hdigit⟩ := h
  induction cs using digits?.induct with
  | case1 => exact absurd rfl hne
  | case2 c =>
    rw [digits?, digitValue?_of_isDigit (hdigit c List.mem_cons_self)]
    rfl
  | case3 c rest ih =>
    have hline : '_'.isDigit = true :=
      hdigit '_' (List.mem_cons_of_mem c List.mem_cons_self)
    exact absurd hline (by decide)
  | case4 c rest hrest hline ih =>
    have hvalue := digitValue?_of_isDigit (hdigit c List.mem_cons_self)
    have hvalues := ih hrest fun c' hc' => hdigit c' (List.mem_cons_of_mem c hc')
    rw [digits?, hvalue, hvalues]
    rfl
    all_goals assumption

/-- Leading zeros do not change a number. -/
theorem ofDigitChars_replicate_zero_append (k : Nat) (cs : List Char) :
    Nat.ofDigitChars 10 (List.replicate k '0' ++ cs) 0 = Nat.ofDigitChars 10 cs 0 := by
  rw [Nat.ofDigitChars_append, Nat.ofDigitChars_replicate_zero, Nat.mul_zero]

/-- The number of a run of digits. -/
theorem natural?_of_isDigits (h : IsDigits cs) :
    natural? cs = if cs.length ≤ digitLimit then some (Nat.ofDigitChars 10 cs 0) else none := by
  have hvalue : ofDigits 10 (cs.map fun c => c.toNat - '0'.toNat) = Nat.ofDigitChars 10 cs 0 := by
    rw [ofDigits, Nat.ofDigitChars_eq_foldl, List.foldl_map]
  rw [natural?, digits?_of_isDigits h]
  change (if (cs.map _).length ≤ digitLimit then some (ofDigits 10 _) else none) = _
  rw [List.length_map, hvalue]

end Digits

section Numeral

variable {core : List Char} {n : Int} {text : String}

/-- No character of a numeral is blank. -/
theorem Numeral.isNumeralBlank_eq_false (h : Numeral core n) :
    ∀ c ∈ core, Text.isNumeralBlank c = false := by
  have hdigits : ∀ {cs : List Char}, IsDigits cs → ∀ c ∈ cs, Text.isNumeralBlank c = false := by
    intro cs hcs c hc
    exact isNumeralBlank_of_isDigit (hcs.isDigit c hc)
  cases h with
  | plain hcs => exact hdigits hcs
  | plus hcs => exact List.forall_mem_cons.mpr ⟨by decide, hdigits hcs⟩
  | minus hcs => exact List.forall_mem_cons.mpr ⟨by decide, hdigits hcs⟩

/-- What is around a numeral has no digits. -/
theorem digitCount_of_padded (h : Text.Padded Text.isNumeralBlank core text) :
    digitCount text = core.countP Char.isDigit := by
  have hblank : ∀ {cs : List Char}, (∀ c ∈ cs, Text.isNumeralBlank c = true) →
      cs.countP Char.isDigit = 0 := by
    intro cs hcs
    refine List.countP_eq_zero.mpr fun c hc hdigit => ?_
    have hblank := hcs c hc
    rw [isNumeralBlank_of_isDigit hdigit] at hblank
    cases hblank
  obtain ⟨before, after, hbefore, hafter, htext⟩ := h
  rw [digitCount, htext, List.countP_append, List.countP_append, hblank hbefore, hblank hafter,
    Nat.zero_add, Nat.add_zero]

theorem IsDigits.countP_eq {cs : List Char} (h : IsDigits cs) :
    cs.countP Char.isDigit = cs.length :=
  List.countP_eq_length.mpr h.isDigit

/-- A run of digits does not begin with a sign. -/
theorem IsDigits.ne_sign {c : Char} {cs : List Char} (h : IsDigits (c :: cs)) :
    c ≠ '-' ∧ c ≠ '+' := by
  have hdigit := h.isDigit c List.mem_cons_self
  constructor <;> rintro rfl <;> exact absurd hdigit (by decide)

/-- **However a number is written, it is read as itself**, unless it has too many digits. -/
theorem Writes.integer?_eq (h : Writes n text) :
    integer? text = if digitCount text ≤ digitLimit then some n else none := by
  obtain ⟨core, hnumeral, hpadded⟩ := h
  rw [integer?, hpadded.trimBoth_eq hnumeral.isNumeralBlank_eq_false,
    digitCount_of_padded hpadded]
  cases hnumeral with
  | plain hcs =>
    have hvalue := natural?_of_isDigits hcs
    rw [← hcs.countP_eq] at hvalue
    split
    · exact absurd rfl hcs.ne_sign.1
    · exact absurd rfl hcs.ne_sign.2
    · rw [hvalue]
      split <;> rfl
  | plus hcs =>
    change (natural? _).map Int.ofNat = _
    rw [natural?_of_isDigits hcs, List.countP_cons_of_neg (by decide), hcs.countP_eq]
    split <;> rfl
  | minus hcs =>
    change (natural? _ >>= fun m => pure (m : Int)).map (fun k => -k) = _
    rw [natural?_of_isDigits hcs, List.countP_cons_of_neg (by decide), hcs.countP_eq]
    split <;> rfl

end Numeral

end Decimal

end Brainfuck
