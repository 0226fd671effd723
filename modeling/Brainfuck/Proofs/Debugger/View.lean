import Mathlib.Data.List.Nodup
import Brainfuck.Debugger
import Brainfuck.Proofs.Tape.Window

/-!
# What the debugger shows of the tape

The part of the tape that a report shows is as wide as was asked for, or as the tape if that is
shorter. Half of it, rounded down, lies before the current cell; where that would reach over
an end of the tape, the part is moved along so that it ends there. All of its cells are on the tape
and the current cell is among them, at every pointer and every width from one on
(`Brainfuck.Debugger.exists_windowBounds`). In particular neither bound of the window is negative,
so that the bytes in the first row are those of the cells in the last
(`Brainfuck.Debugger.TapeView.exists_around`).

The three rows have an entry for each cell of this part, and exactly one entry of the second row is
a caret (`Brainfuck.Debugger.exists_placed_report`).
-/

namespace Brainfuck

namespace Debugger

/-! ### The part that is shown -/

section Bounds

variable {size pointer : Nat} {width : Int}

/-- **The bounds of the part that is shown**: it is as wide as it can be, it is on the tape, and the
current cell is in it. -/
theorem exists_windowBounds (hwidth : 1 ≤ width) (hp : pointer < size) :
    ∃ start : Nat,
      windowBounds size pointer width =
        ((start : Int), ((start + min width.toNat size : Nat) : Int)) ∧
      start + min width.toNat size ≤ size ∧
      start ≤ pointer ∧ pointer < start + min width.toNat size := by
  have hhalf : Int.fdiv width 2 = width / 2 := Int.fdiv_eq_ediv_of_nonneg width (by decide)
  rw [windowBounds, hhalf]
  -- the part starts half its width before the cell, but no later than the last part of the tape
  refine ⟨(min (max 0 ((pointer : Int) - width / 2)) (max 0 (size - width))).toNat, ?_, ?_, ?_, ?_⟩
  · refine Prod.ext ?_ ?_
    · dsimp only
      split <;> omega
    · dsimp only
      omega
  all_goals omega

/-- The part ends at the end of the tape, and is moved so that it is wide enough. -/
example : windowBounds 6 5 4 = (2, 6) := by decide

end Bounds

/-- The whole numbers of a stretch. -/
theorem positions_natCast (start count : Nat) :
    positions start ((start + count : Nat) : Int) =
      (List.range count).map fun k => ((start + k : Nat) : Int) := by
  have hcount : (((start + count : Nat) : Int) - start).toNat = count := by omega
  rw [positions, hcount]
  exact List.map_congr_left fun k _ => (Int.natCast_add start k).symm

namespace TapeView

variable {t : Tape} {pointer : Nat} {width : Int}

/-- **A view shows neighbouring cells**, with their numbers, and marks the current one. -/
theorem exists_around (hwidth : 1 ≤ width) (hp : pointer < t.size) :
    ∃ start : Nat, start + min width.toNat t.size ≤ t.size ∧
      start ≤ pointer ∧ pointer < start + min width.toNat t.size ∧
      around t pointer width =
        { cells := (List.range (min width.toNat t.size)).map fun k => t.cell (start + k)
          marks := (List.range (min width.toNat t.size)).map fun k => decide (start + k = pointer)
          addresses :=
            (List.range (min width.toNat t.size)).map fun k => ((start + k : Nat) : Int) } := by
  obtain ⟨start, hbounds, hsize, hle, hlt⟩ := exists_windowBounds hwidth hp
  refine ⟨start, hsize, hle, hlt, ?_⟩
  have hmark : ∀ k : Nat, decide (((start + k : Nat) : Int) = pointer) =
      decide (start + k = pointer) := fun k => decide_eq_decide.mpr Int.ofNat_inj
  simp only [around, hbounds, positions_natCast, Tape.window_natCast hsize, List.map_map,
    Function.comp_def, hmark]

end TapeView

/-! ### The rows -/

/-- The entries of the rows that show a part of the tape: the bytes, the carets and the numbers of
the cells. -/
structure Rows where
  /-- The entries of the first row. -/
  memory : List String
  /-- The entries of the second row. -/
  carets : List String
  /-- The entries of the third row. -/
  addresses : List String

/-- The rows as they are printed. -/
def Rows.lines (r : Rows) : List String :=
  ["Memory:   [" ++ "|".intercalate r.memory ++ "]", "Pointer:   " ++ " ".intercalate r.carets,
    "Address:   " ++ " ".intercalate r.addresses]

/-- **Rows are well placed** around a pointer if they show `count` neighbouring cells of the tape
from `start` on, and a caret under the current one alone. -/
structure Rows.Placed (r : Rows) (t : Tape) (pointer count start : Nat) : Prop where
  /-- The cells are on the tape. -/
  le : start + count ≤ t.size
  /-- There is an entry for each cell in every row. -/
  length : r.memory.length = count ∧ r.carets.length = count ∧ r.addresses.length = count
  /-- The numbers of the cells. -/
  address : ∀ k < count, r.addresses[k]? = some (column ((start + k : Nat) : Int))
  /-- The bytes in the cells. -/
  cell : ∀ k < count, r.memory[k]? = some (column (t.cell (start + k)).toNat)
  /-- The caret is under the current cell. -/
  caret : ∀ k < count, r.carets[k]? = some (if start + k = pointer then " ^ " else "   ")
  /-- There is one caret. -/
  one : r.carets.count " ^ " = 1

/-- The entries for a stretch of cells. -/
def Rows.ofStretch (t : Tape) (pointer count start : Nat) : Rows where
  memory := (List.range count).map fun k => column (t.cell (start + k)).toNat
  carets := (List.range count).map fun k => if start + k = pointer then " ^ " else "   "
  addresses := (List.range count).map fun k => column ((start + k : Nat) : Int)

section Rows

variable {t : Tape} {pointer count start : Nat}

/-- A stretch with the current cell in it has one caret. -/
theorem Rows.count_carets (hle : start ≤ pointer) (hlt : pointer < start + count) :
    (ofStretch t pointer count start).carets.count " ^ " = 1 := by
  have hiff : ∀ k : Nat,
      ((if start + k = pointer then " ^ " else "   ") == " ^ ") = (k == pointer - start) := by
    intro k
    by_cases hk : start + k = pointer
    · rw [if_pos hk, beq_self_eq_true, eq_comm, beq_iff_eq]
      omega
    · rw [if_neg hk, show ("   " == " ^ ") = false by decide, eq_comm, beq_eq_false_iff_ne]
      omega
  rw [ofStretch, List.count_eq_countP, List.countP_map]
  simp only [Function.comp_def, hiff]
  rw [← List.count_eq_countP]
  exact List.count_eq_one_of_mem List.nodup_range (List.mem_range.mpr (by omega))

theorem Rows.placed_ofStretch (h : start + count ≤ t.size) (hle : start ≤ pointer)
    (hlt : pointer < start + count) :
    (ofStretch t pointer count start).Placed t pointer count start where
  le := h
  length := by simp [ofStretch]
  address k hk := by simp [ofStretch, hk]
  cell k hk := by simp [ofStretch, hk]
  caret k hk := by simp [ofStretch, hk]
  one := count_carets hle hlt

end Rows

/-- **A report shows a well placed part of the tape**, with as many cells as were asked for, or
all of them. -/
theorem exists_placed_report {s : Session} {width : Int} (hwidth : 1 ≤ width)
    (hp : s.pointer < s.tape.size) (label : String) :
    ∃ (r : Rows) (start : Nat), r.Placed s.tape s.pointer (min width.toNat s.tape.size) start ∧
      report width label s = stateHead label s ++ r.lines ++
        ["Output:   " ++
          if s.output.visible.isEmpty then "(empty)" else outputText s.output.visible] := by
  obtain ⟨start, hsize, hle, hlt, haround⟩ := TapeView.exists_around hwidth hp
  refine ⟨_, start, Rows.placed_ofStretch hsize hle hlt, ?_⟩
  have hrows : (TapeView.around s.tape s.pointer width).rows =
      (Rows.ofStretch s.tape s.pointer (min width.toNat s.tape.size) start).lines := by
    rw [haround, TapeView.rows, Rows.lines, Rows.ofStretch, List.map_map, List.map_map,
      List.map_map]
    simp only [Function.comp_def, decide_eq_true_eq]
  rw [report, hrows]

/-- The last cell of a tape, with an odd width, and with a width that is more than the tape. -/
theorem exists_placed_report_last :
    ∃ s : Session, s.tape.size = 6 ∧ s.pointer = 5 ∧
      (∃ (r : Rows) (start : Nat), r.Placed s.tape s.pointer 3 start ∧
        report 3 "INITIAL" s = stateHead "INITIAL" s ++ r.lines ++ ["Output:   " ++ "(empty)"]) ∧
      ∃ (r : Rows) (start : Nat), r.Placed s.tape s.pointer 6 start ∧
        report 9 "INITIAL" s = stateHead "INITIAL" s ++ r.lines ++ ["Output:   " ++ "(empty)"] := by
  let s : Session :=
    { Session.idle (Tape.blank ⟨6, by decide⟩) none .empty (.buffer #[]) .keep with pointer := 5 }
  have hodd : (1 : Int) ≤ 3 := by decide
  have hwide : (1 : Int) ≤ 9 := by decide
  have hp : s.pointer < s.tape.size := by decide
  exact ⟨s, rfl, rfl, exists_placed_report hodd hp "INITIAL",
    exists_placed_report hwide hp "INITIAL"⟩

end Debugger

end Brainfuck
