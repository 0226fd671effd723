import Brainfuck.Proofs.Loops

/-!
# What the matcher finds

For every text, over any alphabet, the matcher either finds the one table that pairs its brackets
or reports the bracket that is to blame (`Brainfuck.Bracket.Matched`).

The matcher takes a letter for one of three things, an opening bracket, a closing one or none, so
that comments may be read as if they were actions (`Brainfuck.Bracket.asCommand`), and only lists
of commands have to be considered. Such a list is broken, or it is the text of a block, whose table
pairs the brackets because they are those of the loops of a program
(`Brainfuck.Block.pairs_partnersAt`).
-/

namespace Brainfuck

namespace Bracket

variable {α : Type} [Symbol α] {text : List α} {i j k : Nat}

/-! ### Tables -/

/-- **The table pairs the brackets of a text.** -/
structure Pairs (text : List α) (table : Array (Option Nat)) : Prop where
  /-- There is an entry for each letter. -/
  size_eq : table.size = text.length
  /-- A letter that is no bracket has no partner. -/
  other : ∀ {i : Nat} {a : α}, text[i]? = some a → Symbol.isBracket a = false →
    table[i]? = some none
  /-- Each opening bracket has a closing one behind it as its partner, whose partner it is, with a
  balanced text in between. -/
  opening : ∀ {i : Nat}, OpensAt text i →
    ∃ j, Encloses text i j ∧ table[i]? = some (some j) ∧ table[j]? = some (some i)
  /-- No two pairs cross. -/
  not_crossing : ∀ {i j k l : Nat}, OpensAt text i → table[i]? = some (some j) →
    OpensAt text k → table[k]? = some (some l) → ¬(i < k ∧ k < j ∧ j < l)

/-- What the matcher promises about a text. -/
structure Matched (text : List α) (result : Except Nat (Array (Option Nat))) : Prop where
  /-- It finds a table for the balanced texts, and for no other. -/
  accepts : (∃ table, result = .ok table) ↔ Balanced text
  /-- The table pairs the brackets. -/
  pairs : ∀ {table}, result = .ok table → Pairs text table
  /-- No other table does. -/
  unique : ∀ {table table'}, result = .ok table → Pairs text table' → table' = table
  /-- Otherwise it reports the bracket to blame. -/
  refuses : ∀ {i}, result = .error i ↔ Blamed text i

/-- That pairs do not cross follows from the rest, since pairs with balanced texts in between never
do. -/
theorem pairs_of_opening {table : Array (Option Nat)} (hsize : table.size = text.length)
    (hother : ∀ {i : Nat} {a : α}, text[i]? = some a → Symbol.isBracket a = false →
      table[i]? = some none)
    (hopening : ∀ {i : Nat}, OpensAt text i →
      ∃ j, Encloses text i j ∧ table[i]? = some (some j) ∧ table[j]? = some (some i)) :
    Pairs text table where
  size_eq := hsize
  other := hother
  opening := hopening
  not_crossing := by
    intro i j k l hi hj hk hl
    obtain ⟨j', hij, hj', -⟩ := hopening hi
    obtain ⟨l', hkl, hl', -⟩ := hopening hk
    rw [hj, Option.some.injEq, Option.some.injEq] at hj'
    rw [hl, Option.some.injEq, Option.some.injEq] at hl'
    subst hj' hl'
    exact hij.not_crossing hkl

/-- **Two tables that pair the brackets are equal** if each closing bracket closes something. An
opening bracket has one partner at most, and the entry of a closing one is that of the opening
bracket which encloses a balanced text with it. -/
theorem Pairs.unique {table table' : Array (Option Nat)} (h : Pairs text table)
    (h' : Pairs text table') (hclosing : ∀ j, ClosesAt text j → ∃ i, Encloses text i j) :
    table' = table := by
  refine Array.ext_getElem? fun i => ?_
  rcases hi : text[i]? with _ | a
  · have hlen := List.getElem?_eq_none_iff.mp hi
    rw [Array.getElem?_eq_none (by rw [h'.size_eq]; exact hlen),
      Array.getElem?_eq_none (by rw [h.size_eq]; exact hlen)]
  rcases ha : Symbol.command? a with _ | c
  · have hbracket : Symbol.isBracket a = false := by rw [Symbol.isBracket, ha]; rfl
    rw [h.other hi hbracket, h'.other hi hbracket]
  cases c with
  | act b =>
    have hbracket : Symbol.isBracket a = false := by rw [Symbol.isBracket, ha]; rfl
    rw [h.other hi hbracket, h'.other hi hbracket]
  | opening =>
    obtain ⟨j, hij, hj, -⟩ := h.opening ⟨a, hi, ha⟩
    obtain ⟨j', hij', hj', -⟩ := h'.opening ⟨a, hi, ha⟩
    rw [hj, hj', hij.right_unique hij']
  | closing =>
    -- a table promises something at the opening bracket only, which is the same one for both
    obtain ⟨k, hki⟩ := hclosing i ⟨a, hi, ha⟩
    obtain ⟨j, hkj, -, hj⟩ := h.opening hki.opens
    obtain ⟨j', hkj', -, hj'⟩ := h'.opening hki.opens
    rw [hki.right_unique hkj, hj, ← hki.right_unique hkj, hki.right_unique hkj', hj']

/-! ### Comments read as actions -/

/-- The command that the matcher may take a letter for. Which action stands for a comment does not
matter. -/
def asCommand (a : α) : Command := (Symbol.command? a).getD (.act .right)

theorem asCommand_eq_opening {a : α} :
    asCommand a = .opening ↔ Symbol.command? a = some .opening := by
  rcases ha : Symbol.command? a with _ | c <;> simp [asCommand, ha]

theorem asCommand_eq_closing {a : α} :
    asCommand a = .closing ↔ Symbol.command? a = some .closing := by
  rcases ha : Symbol.command? a with _ | c <;> simp [asCommand, ha]

theorem isBracket_asCommand (a : α) : (asCommand a).isBracket = Symbol.isBracket a := by
  rw [asCommand, Symbol.isBracket]
  cases Symbol.command? a <;> rfl

theorem read_asCommand (m : Matching) (a : α) : m.read (asCommand a) = m.read a := by
  rcases ha : Symbol.command? a with _ | c <;>
    simp only [asCommand, ha, Matching.read, Option.getD_none, Option.getD_some] <;> rfl

theorem partners_map_asCommand (text : List α) :
    partners (text.map asCommand) = partners text := by
  simp only [partners, List.foldlM_map, read_asCommand]

theorem depth_map_asCommand (text : List α) (k : Nat) :
    depth (text.map asCommand) k = depth text k := by
  have hopenings : openings ((text.take k).map asCommand) = openings (text.take k) := by
    rw [openings, List.countP_map]
    exact List.countP_congr fun a _ => by simp [Symbol.command?, asCommand_eq_opening]
  have hclosings : closings ((text.take k).map asCommand) = closings (text.take k) := by
    rw [closings, List.countP_map]
    exact List.countP_congr fun a _ => by simp [Symbol.command?, asCommand_eq_closing]
  rw [depth, ← List.map_take, hopenings, hclosings, depth]

theorem opensAt_map_asCommand : OpensAt (text.map asCommand) i ↔ OpensAt text i := by
  simp [OpensAt, Symbol.command?, asCommand_eq_opening]

theorem closesAt_map_asCommand : ClosesAt (text.map asCommand) i ↔ ClosesAt text i := by
  simp [ClosesAt, Symbol.command?, asCommand_eq_closing]

theorem balanced_map_asCommand : Balanced (text.map asCommand) ↔ Balanced text := by
  simp only [balanced_iff, depth_map_asCommand, List.length_map]

theorem encloses_map_asCommand : Encloses (text.map asCommand) i j ↔ Encloses text i j := by
  have hbetween : between (text.map asCommand) i j = (between text i j).map asCommand := by
    rw [between, between, ← List.map_take, ← List.map_drop]
  constructor
  · rintro ⟨hlt, ho, hc, hb⟩
    exact ⟨hlt, opensAt_map_asCommand.mp ho, closesAt_map_asCommand.mp hc,
      balanced_map_asCommand.mp (hbetween ▸ hb)⟩
  · rintro ⟨hlt, ho, hc, hb⟩
    exact ⟨hlt, opensAt_map_asCommand.mpr ho, closesAt_map_asCommand.mpr hc,
      hbetween ▸ balanced_map_asCommand.mpr hb⟩

theorem blamed_map_asCommand : Blamed (text.map asCommand) i ↔ Blamed text i := by
  simp only [Blamed, First, stray_iff, leftOpen_iff, opensAt_map_asCommand,
    closesAt_map_asCommand, depth_map_asCommand, List.length_map]

end Bracket

namespace Block

open Brainfuck.Bracket

/-! ### The table of a block -/

variable {α : Type} [Symbol α] {text : List α} {b : Block Action} {i j : Nat}

/-- The commands of the plain program of a block. -/
theorem code_plain (b : Block Action) : (b.map (·, 1)).program.code = b.commands := by
  rw [code_program, runs_map_once, List.map_map]
  exact List.map_id _

theorem jumps_plain (b : Block Action) : (b.map (·, 1)).program.jumps = b.partnersAt 0 := by
  rw [jumps_program, partnersAt_map]

/-- **The table of a block pairs the brackets of every text that it is the block of.** -/
theorem pairs_partnersAt (h : text.map asCommand = b.commands) :
    Pairs text (b.partnersAt 0).toArray := by
  have hcompile := b.compile_commands
  have hlen : text.length = b.size := by rw [← length_commands, ← h, List.length_map]
  refine pairs_of_opening (by rw [List.size_toArray, length_partnersAt, hlen]) ?_ ?_
  · intro i a ha hbracket
    have hat : b.commands[i]? = some (asCommand a) := by
      rw [← h, List.getElem?_map, ha, Option.map_some]
    rw [← isBracket_asCommand] at hbracket
    rcases hc : asCommand a with x | _ | _
    · rw [hc, ← code_plain] at hat
      rw [List.getElem?_toArray, ← jumps_plain]
      exact (Program.fits_of_compile hcompile).jumps_act hat
    · rw [hc] at hbracket
      cases hbracket
    · rw [hc] at hbracket
      cases hbracket
  · intro i hi
    rw [← opensAt_map_asCommand, h] at hi
    obtain ⟨a, ha, hopening⟩ := hi
    obtain rfl : a = .opening := Option.some.inj hopening
    rw [← code_plain] at ha
    obtain ⟨j, hij, hj, hi⟩ := Program.exists_encloses_of_opening hcompile ha
    rw [code_plain, ← h, encloses_map_asCommand] at hij
    rw [jumps_plain] at hj hi
    exact ⟨j, hij, by rw [List.getElem?_toArray, hj], by rw [List.getElem?_toArray, hi]⟩

/-- In the text of a block every closing bracket closes something. -/
theorem exists_encloses (h : text.map asCommand = b.commands) (hj : ClosesAt text j) :
    ∃ i, Encloses text i j := by
  rw [← closesAt_map_asCommand, h] at hj
  obtain ⟨a, ha, hclosing⟩ := hj
  obtain rfl : a = .closing := Option.some.inj hclosing
  rw [← code_plain] at ha
  obtain ⟨i, hij, -⟩ := Program.exists_encloses_of_closing b.compile_commands ha
  rw [code_plain, ← h, encloses_map_asCommand] at hij
  exact ⟨i, hij⟩

end Block

namespace Bracket

/-- **The matcher pairs the brackets of the balanced texts, and reports the bracket to blame in the
others.** -/
theorem matched_partners {α : Type} [Symbol α] (text : List α) : Matched text (partners text) := by
  rcases Block.exists_commands_or_broken (text.map asCommand) with ⟨b, hb⟩ | ⟨i, hbroken⟩
  · have hresult : partners text = .ok (b.partnersAt 0).toArray := by
      rw [← partners_map_asCommand, ← hb, Block.partners_commands]
    have hbalanced : Balanced text := by
      rw [← balanced_map_asCommand, ← hb]
      exact b.balanced_commands
    have hpairs := Block.pairs_partnersAt hb.symm
    rw [hresult]
    refine ⟨⟨fun _ => hbalanced, fun _ => ⟨_, rfl⟩⟩, ?_, ?_, ⟨nofun, fun h => ?_⟩⟩
    · rintro table ⟨⟩
      exact hpairs
    · rintro table table' ⟨⟩ h'
      exact hpairs.unique h' fun j hj => Block.exists_encloses hb.symm hj
    · exact absurd h hbalanced.not_blamed
  · have hresult : partners text = .error i := by
      rw [← partners_map_asCommand, hbroken.partners]
    have hblamed := blamed_map_asCommand.mp hbroken.blamed
    rw [hresult]
    refine ⟨⟨nofun, fun h => ?_⟩, nofun, nofun, ⟨?_, fun h => ?_⟩⟩
    · exact absurd (balanced_map_asCommand.mpr h) hbroken.not_balanced
    · rintro ⟨⟩
      exact hblamed
    · rw [hblamed.unique h]

example : partners "a[b]".toList = .ok #[none, some 3, none, some 1] := rfl

example : partners "[[]".toList = .error 0 := rfl

end Bracket

end Brainfuck
