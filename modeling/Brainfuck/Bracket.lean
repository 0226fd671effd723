import Brainfuck.Command

/-!
# Brackets

Each opening bracket of a balanced text belongs to the closing bracket at which the
text in between is balanced again. `Brainfuck.Bracket.partners` finds all the pairs in
one pass: it keeps the positions of the brackets that are still open, innermost
first, and a closing bracket belongs to the first of them.

A text is unbalanced for one of two reasons, and either has a position to report: a
closing bracket that arrives while nothing is open, or, at the end of the text, the
outermost of the brackets left open.
-/

namespace Brainfuck

namespace Bracket

variable {α : Type} [Symbol α]

/-- The pairs found in the part of a text that has been read. -/
structure Matching where
  /-- Positions of the opening brackets without a partner yet, innermost first. -/
  unclosed : List Nat
  /-- For each position read, the position of its partner. -/
  partners : Array (Option Nat)

namespace Matching

/-- Nothing has been read. -/
def empty : Matching := ⟨[], #[]⟩

/-- The position of the next letter. -/
def position (m : Matching) : Nat := m.partners.size

/-- Read one letter. A closing bracket needs an open one; the error is its position. -/
def read (m : Matching) (a : α) : Except Nat Matching :=
  match Symbol.command? a with
  | some .opening => .ok ⟨m.position :: m.unclosed, m.partners.push none⟩
  | some .closing =>
    match m.unclosed with
    | [] => .error m.position
    | start :: rest =>
      .ok ⟨rest, (m.partners.setIfInBounds start (some m.position)).push (some start)⟩
  | _ => .ok ⟨m.unclosed, m.partners.push none⟩

/-- The pairs of a text that has been read to its end. The error is the position of the
outermost bracket left open. -/
def finish (m : Matching) : Except Nat (Array (Option Nat)) :=
  match m.unclosed.getLast? with
  | some start => .error start
  | none => .ok m.partners

end Matching

/-- The position of the partner of each bracket, and nothing at the other letters. The
error is the position of a bracket without a partner. -/
def partners (text : List α) : Except Nat (Array (Option Nat)) :=
  text.foldlM Matching.read Matching.empty >>= Matching.finish

end Bracket

end Brainfuck
