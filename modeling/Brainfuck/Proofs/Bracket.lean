import Brainfuck.Proofs.Block

/-!
# Balanced texts and their blocks

A text is balanced (`Brainfuck.Bracket.Balanced`) when no part at its start closes more
brackets than it opens and the whole closes as many as it opens. This file shows what is known of
a text that is the text of a block: it is balanced (`Brainfuck.Block.balanced_commands`), it is
the text of no other block (`Brainfuck.Block.commands_injective`), and the one-pass matcher finds
the partners that the block has (`Brainfuck.Block.partners_commands`).

The block is read off the text from its *end*
(`Brainfuck.Block.ofSuffix?`): what stands behind a position is a block and, for each
closing bracket whose partner lies before the position, another block. An opening bracket
then takes the first two of these blocks as the body of its loop and as what follows it,
so no position is ever looked at twice.
-/

namespace Brainfuck

namespace Bracket

variable {α : Type} [Symbol α]

/-! ### Counting brackets -/

/-- The number of opening brackets. -/
def openings (text : List α) : Nat := text.countP (Symbol.command? · = some .opening)

/-- The number of closing brackets. -/
def closings (text : List α) : Nat := text.countP (Symbol.command? · = some .closing)

/-- **Balanced brackets**: no part at the start of the text has more closing than opening
brackets, and the whole has as many of both. -/
structure Balanced (text : List α) : Prop where
  /-- No part at the start has more closing than opening brackets. -/
  closings_le : ∀ u v, text = u ++ v → closings u ≤ openings u
  /-- The whole has as many closing as opening brackets. -/
  closings_eq : closings text = openings text

/-- Balance can be checked by looking at every part at the start. -/
instance (text : List α) : Decidable (Balanced text) :=
  decidable_of_iff ((∀ n, n < text.length + 1 →
      closings (text.take n) ≤ openings (text.take n)) ∧ closings text = openings text) <| by
    refine ⟨fun h => ⟨fun u v huv => ?_, h.2⟩, fun h => ⟨fun n _ => ?_, h.closings_eq⟩⟩
    · have hu : text.take u.length = u := by rw [huv, List.take_left]
      have hlt : u.length < text.length + 1 := by
        rw [huv, List.length_append]
        omega
      have hle := h.1 u.length hlt
      rwa [hu] at hle
    · exact h.closings_le _ _ (List.take_append_drop n text).symm

@[simp] theorem openings_nil : openings ([] : List α) = 0 := rfl

@[simp] theorem closings_nil : closings ([] : List α) = 0 := rfl

@[simp] theorem openings_append (u v : List α) : openings (u ++ v) = openings u + openings v :=
  List.countP_append

@[simp] theorem closings_append (u v : List α) : closings (u ++ v) = closings u + closings v :=
  List.countP_append

@[simp] theorem openings_opening (rest : List Command) :
    openings (.opening :: rest) = openings rest + 1 := List.countP_cons_of_pos rfl

@[simp] theorem openings_closing (rest : List Command) :
    openings (.closing :: rest) = openings rest := List.countP_cons_of_neg (by decide)

@[simp] theorem openings_act (a : Action) (rest : List Command) :
    openings (.act a :: rest) = openings rest := List.countP_cons_of_neg (by cases a <;> decide)

@[simp] theorem closings_opening (rest : List Command) :
    closings (.opening :: rest) = closings rest := List.countP_cons_of_neg (by decide)

@[simp] theorem closings_closing (rest : List Command) :
    closings (.closing :: rest) = closings rest + 1 := List.countP_cons_of_pos rfl

@[simp] theorem closings_act (a : Action) (rest : List Command) :
    closings (.act a :: rest) = closings rest := List.countP_cons_of_neg (by cases a <;> decide)

/-! ### Comments do not count -/

theorem openings_filterMap (text : List Char) :
    openings (text.filterMap Command.ofChar?) = openings text := by
  rw [openings, openings, List.countP_filterMap]
  refine List.countP_congr fun a _ => ?_
  rcases hc : Command.ofChar? a with _ | c <;> simp [Symbol.command?, hc]

theorem closings_filterMap (text : List Char) :
    closings (text.filterMap Command.ofChar?) = closings text := by
  rw [closings, closings, List.countP_filterMap]
  refine List.countP_congr fun a _ => ?_
  rcases hc : Command.ofChar? a with _ | c <;> simp [Symbol.command?, hc]

/-- A text is as balanced as its commands are. -/
theorem Balanced.ofText {text : String} (h : Balanced text.toList) :
    Balanced (Command.ofText text) where
  closings_le u v huv := by
    obtain ⟨x, y, hxy, rfl, -⟩ := List.filterMap_eq_append_iff.mp huv
    rw [openings_filterMap, closings_filterMap]
    exact h.closings_le x y hxy
  closings_eq := by
    rw [Command.ofText, openings_filterMap, closings_filterMap]
    exact h.closings_eq

end Bracket

namespace Block

open Brainfuck.Bracket

/-! ### The text of a block -/

@[simp] theorem length_commands (b : Block Action) : b.commands.length = b.size := by
  induction b with
  | nil => rfl
  | act a rest ih => simp [commands, size, ih]
  | loop body rest ihb ihr =>
    simp only [commands, size, List.length_cons, List.length_append, ihb, ihr]
    omega

/-- **The text of a block is balanced.** -/
theorem balanced_commands (b : Block Action) : Balanced b.commands := by
  induction b with
  | nil => exact ⟨fun u v huv => by simp [List.append_eq_nil_iff.mp huv.symm], rfl⟩
  | act a rest ih =>
    refine ⟨fun u v huv => ?_, by simpa [commands] using ih.closings_eq⟩
    rcases u with _ | ⟨x, u⟩
    · simp
    obtain ⟨rfl, hrest⟩ := List.cons.inj huv
    simpa using ih.closings_le u v hrest
  | loop body rest ihb ihr =>
    have hbody := ihb.closings_eq
    have hrest := ihr.closings_eq
    refine ⟨fun u v huv => ?_, by simp [commands]; omega⟩
    rcases u with _ | ⟨x, u⟩
    · simp
    obtain ⟨rfl, htail⟩ := List.cons.inj huv
    -- the part ends in the rest behind the loop, at its closing bracket, or in its body
    rcases List.append_eq_append_iff.mp htail with ⟨w, rfl, hw⟩ | ⟨w, hw, -⟩
    · rcases w with _ | ⟨y, w⟩
      · simp
        omega
      · obtain ⟨rfl, hafter⟩ := List.cons.inj hw
        have hle := ihr.closings_le w v hafter
        simp
        omega
    · have hle := ihb.closings_le u w hw
      simp
      omega

/-! ### Reading a block off a text -/

/-- The block that a text starts with, and the blocks behind its closing brackets without a
partner. Nothing if an opening bracket has no partner. -/
def ofSuffix? : List Command → Option (Block Action × List (Block Action))
  | [] => some (nil, [])
  | .act a :: rest => (ofSuffix? rest).map fun (b, later) => (act a b, later)
  | .closing :: rest => (ofSuffix? rest).map fun (b, later) => (nil, b :: later)
  | .opening :: rest =>
    match ofSuffix? rest with
    | some (body, next :: later) => some (loop body next, later)
    | _ => none

theorem ofSuffix?_append {t : List Command} {c : Block Action} {later : List (Block Action)}
    (h : ofSuffix? t = some (c, later)) (b : Block Action) :
    ofSuffix? (b.commands ++ t) = some (b.append c, later) := by
  induction b generalizing t c later with
  | nil => exact h
  | act a rest ih =>
    rw [commands, List.cons_append, ofSuffix?, ih h]
    rfl
  | loop body rest ihb ihr =>
    have hclosing : ofSuffix? (.closing :: (rest.commands ++ t)) =
        some (nil, rest.append c :: later) := by
      rw [ofSuffix?, ihr h]
      rfl
    rw [commands, List.cons_append, List.append_assoc, List.cons_append, ofSuffix?,
      ihb hclosing, append_nil]
    rfl

/-- A block can be read off its text. -/
theorem ofSuffix?_commands (b : Block Action) : ofSuffix? b.commands = some (b, []) := by
  have h := ofSuffix?_append (show ofSuffix? [] = some (nil, []) from rfl) b
  rwa [List.append_nil, append_nil] at h

/-- **A text has at most one block.** -/
theorem commands_injective {b c : Block Action} (h : b.commands = c.commands) : b = c := by
  have hb := ofSuffix?_commands b
  rw [h, ofSuffix?_commands] at hb
  cases hb
  rfl

/-! ### The matcher -/

@[simp] theorem read_act (m : Matching) (a : Action) :
    m.read (Command.act a) = .ok ⟨m.unclosed, m.partners.push none⟩ := rfl

@[simp] theorem read_opening (m : Matching) :
    m.read Command.opening = .ok ⟨m.partners.size :: m.unclosed, m.partners.push none⟩ := rfl

/-- **The matcher finds the partners of a block**, whatever it has read before it. -/
theorem foldlM_read_commands (b : Block Action) (m : Matching) :
    b.commands.foldlM Matching.read m =
      .ok ⟨m.unclosed, m.partners ++ (b.partnersAt m.partners.size).toArray⟩ := by
  induction b generalizing m with
  | nil =>
    rw [commands, partnersAt, Array.append_empty]
    rfl
  | act a rest ih =>
    rw [commands, List.foldlM_cons, read_act]
    refine (ih _).trans ?_
    rw [Array.size_push, partnersAt]
    simp
  | loop body rest ihb ihr =>
    rw [commands, List.foldlM_cons, read_opening]
    change (body.commands ++ .closing :: rest.commands).foldlM Matching.read _ = _
    rw [List.foldlM_append, ihb, Array.size_push]
    refine (ihr _).trans ?_
    -- both tables, with the entry of the opening bracket filled in behind its back
    have hset : ((m.partners.push none) ++
          (body.partnersAt (m.partners.size + 1)).toArray).setIfInBounds m.partners.size
            (some (m.partners.size + 1 + body.size)) =
        m.partners.push (some (m.partners.size + 1 + body.size)) ++
          (body.partnersAt (m.partners.size + 1)).toArray := by
      apply Array.ext'
      simp
    simp only [Matching.position, Array.size_append, Array.size_push, List.size_toArray,
      length_partnersAt, hset]
    have hpos : m.partners.size + 1 + body.size + 1 = m.partners.size + 2 + body.size := by omega
    rw [partnersAt, hpos]
    congr 2
    apply Array.ext'
    simp

/-- The partners in the text of a block. -/
theorem partners_commands (b : Block Action) :
    Bracket.partners b.commands = .ok (b.partnersAt 0).toArray := by
  rw [Bracket.partners, foldlM_read_commands]
  simp [Matching.empty, Matching.finish, bind, Except.bind]

end Block

end Brainfuck
