import Brainfuck.Proofs.Tape

/-!
# What a window shows

A window is asked for by two bounds, which may lie outside of the tape. What is asked for are
the cells on the tape from the first bound up to the second (`Brainfuck.Tape.between`), and
neighbouring parts of a tape that are asked for so make up one part
(`Brainfuck.Tape.between_append`).

A window shows them if its second bound is not negative. A negative one is no bound below all cells
but counts back from the end of the tape, so that cells are shown although none were asked for
(`Brainfuck.Tape.window_eq`). `Brainfuck.Tape.windowed` tells which windows are as they should be,
which windows join, and which are empty: a negative bound does no harm only where it leaves
nothing to show.
-/

namespace Brainfuck

namespace Tape

variable {t : Tape} {a b c start stop : Int}

/-- **The cells from one number up to another**: the bytes of the cells on the tape whose numbers
are at least `start` and less than `stop`, in the order of their numbers. -/
def between (t : Tape) (start stop : Int) : List UInt8 :=
  ((List.range t.size).filter fun i : Nat => start ≤ i ∧ i < stop).map t.cell

/-! ### Stretches of numbers -/

/-- The numbers below `n` between two bounds are consecutive. -/
theorem filter_range (n : Nat) (start stop : Int) :
    ((List.range n).filter fun i : Nat => start ≤ i ∧ i < stop) =
      List.range' start.toNat (min stop.toNat n - start.toNat) := by
  induction n with
  | zero => rw [Nat.min_zero, Nat.zero_sub, List.range'_zero, List.range_zero, List.filter_nil]
  | succ n ih =>
    rw [List.range_succ, List.filter_append, ih]
    by_cases hn : start ≤ n ∧ n < stop
    · -- the last number is the next one of the stretch
      have hlen : min stop.toNat (n + 1) - start.toNat
          = min stop.toNat n - start.toNat + 1 := by omega
      have hlast : start.toNat + (min stop.toNat n - start.toNat) = n := by omega
      rw [hlen, List.range'_1_concat, hlast, List.filter_cons_of_pos (by simpa using hn),
        List.filter_nil]
    · have hlen : min stop.toNat (n + 1) - start.toNat = min stop.toNat n - start.toNat := by omega
      rw [hlen, List.filter_cons_of_neg (by simpa using hn), List.filter_nil, List.append_nil]

/-- A stretch of the cells, by their numbers. -/
theorem between_eq (t : Tape) (start stop : Int) :
    t.between start stop =
      (List.range' start.toNat (min stop.toNat t.size - start.toNat)).map t.cell := by
  rw [between, filter_range]

theorem length_between (t : Tape) (start stop : Int) :
    (t.between start stop).length = min stop.toNat t.size - start.toNat := by
  rw [between_eq, List.length_map, List.length_range']

/-- There is a cell between two bounds unless the second bound, or the end of the tape, is not
behind the first. -/
theorem between_eq_nil_iff :
    t.between start stop = [] ↔ min stop t.size ≤ max 0 start := by
  rw [← List.length_eq_zero_iff, length_between]
  omega

/-- **Neighbouring parts of a tape make up one part.** -/
theorem between_append (hab : a ≤ b) (hbc : b ≤ c) :
    t.between a b ++ t.between b c = t.between a c := by
  rw [between_eq, between_eq, between_eq, ← List.map_append]
  rcases Nat.lt_or_ge t.size b.toNat with hb | hb
  · -- the second part starts behind the end of the tape
    have hsecond : min c.toNat t.size - b.toNat = 0 := by omega
    have hwhole : min c.toNat t.size = min b.toNat t.size := by omega
    rw [hsecond, List.range'_zero, List.append_nil, hwhole]
  · have hmiddle : b.toNat = a.toNat + (min b.toNat t.size - a.toNat) := by omega
    have hlen : min c.toNat t.size - a.toNat =
        min b.toNat t.size - a.toNat + (min c.toNat t.size - b.toNat) := by omega
    rw [hlen, ← List.range'_append_1, ← hmiddle]

/-! ### Windows -/

/-- **What a window shows**: a negative bound counts back from the end. -/
theorem window_eq (t : Tape) (start stop : Int) :
    t.window start stop = t.between start (if stop < 0 then stop + t.size else stop) := by
  have hpos : 0 < t.size := t.size_pos
  have hfirst : (max 0 start).toNat = start.toNat := by omega
  rw [window, toList_extract, between_eq, hfirst]
  -- the tape bounds both stretches, and no negative bound is beyond its end
  congr 3
  split <;> split <;> omega

theorem window_of_nonneg (h : 0 ≤ stop) : t.window start stop = t.between start stop := by
  rw [window_eq, if_neg (Int.not_lt.mpr h)]

theorem window_of_neg (h : stop < 0) :
    t.window start stop = t.between start (stop + t.size) := by
  rw [window_eq, if_pos h]

/-- A window on a stretch of the tape shows each of its cells. -/
theorem window_natCast {start count : Nat} (h : start + count ≤ t.size) :
    t.window start ((start + count : Nat) : Int) =
      (List.range count).map fun k => t.cell (start + k) := by
  have hcount : min (start + count) t.size - start = count := by omega
  rw [window_of_nonneg (Int.natCast_nonneg _), between_eq, Int.toNat_natCast, Int.toNat_natCast,
    hcount, List.range'_eq_map_range, List.map_map]
  rfl

/-- Before a bound that is not positive there is nothing on the tape. -/
theorem between_of_nonpos (h : stop ≤ 0) : t.between start stop = [] :=
  between_eq_nil_iff.mpr (by omega)

/-- A window with a negative bound is empty if the bound is as far from the end of the tape as
the start. -/
theorem window_eq_nil_of_neg_iff (h : stop < 0) :
    t.window start stop = [] ↔ stop + t.size ≤ max 0 start := by
  rw [window_of_neg h, between_eq_nil_iff]
  omega

/-- Windows that start before the tape start with the tape. -/
theorem window_of_start_nonpos (h : start ≤ 0) : t.window start stop = t.window 0 stop := by
  have hstart : start.toNat = (0 : Int).toNat := by omega
  rw [window_eq, window_eq, between_eq, between_eq, hstart]

/-- **Which windows are as they should be.** -/
structure Windowed (t : Tape) : Prop where
  /-- Up to a bound that is not negative, a window shows the cells that are asked for. -/
  forward : ∀ start stop, 0 ≤ stop → t.window start stop = t.between start stop
  /-- Up to a negative bound, it shows the cells up to that bound counted from the end. -/
  backward : ∀ start stop, stop < 0 → t.window start stop = t.between start (stop + t.size)
  /-- The cells that are asked for are shown just if the bound is not negative, or lies before the
  start even if it is counted from the end. -/
  shown : ∀ start stop, t.window start stop = t.between start stop ↔
    0 ≤ stop ∨ stop + t.size ≤ max 0 start
  /-- Neighbouring windows make up one window just if the first one is as it should be. -/
  joined : ∀ a b c, a ≤ b → b ≤ c →
    (t.window a b ++ t.window b c = t.window a c ↔ 0 ≤ b ∨ b + t.size ≤ 0)
  /-- A bound that is not positive leaves nothing to show just if it is zero, or lies before the
  start even if it is counted from the end. -/
  empty : ∀ start stop, stop ≤ 0 →
    (t.window start stop = [] ↔ stop = 0 ∨ stop + t.size ≤ max 0 start)

/-- **A window shows the cells that are asked for** if its second bound is not negative, and only
then if there is something to show. -/
theorem windowed (t : Tape) : t.Windowed where
  forward _ _ h := window_of_nonneg h
  backward _ _ h := window_of_neg h
  shown start stop := by
    rcases Int.lt_or_le stop 0 with hneg | hpos
    · rw [between_of_nonpos (Int.le_of_lt hneg), window_eq_nil_of_neg_iff hneg]
      exact ⟨Or.inr, fun h => h.resolve_left (Int.not_le.mpr hneg)⟩
    · exact iff_of_true (window_of_nonneg hpos) (Or.inl hpos)
  joined a b c hab hbc := by
    rcases Int.lt_or_le b 0 with hneg | hpos
    · -- both windows start with the tape, so that the first one has to be empty
      have ha : a ≤ 0 := Int.le_trans hab (Int.le_of_lt hneg)
      have hnil : t.window 0 b = [] ↔ 0 ≤ b ∨ b + t.size ≤ 0 := by
        rw [window_eq_nil_of_neg_iff hneg, Int.max_self]
        exact ⟨Or.inr, fun h => h.resolve_left (Int.not_le.mpr hneg)⟩
      rw [window_of_start_nonpos ha, window_of_start_nonpos ha,
        window_of_start_nonpos (Int.le_of_lt hneg), List.append_left_eq_self, hnil]
    · have hjoin : t.window a b ++ t.window b c = t.window a c := by
        rw [window_of_nonneg hpos, window_of_nonneg (Int.le_trans hpos hbc),
          window_of_nonneg (Int.le_trans hpos hbc), between_append hab hbc]
      exact iff_of_true hjoin (Or.inl hpos)
  empty start stop h := by
    rcases Int.lt_or_eq_of_le h with hneg | rfl
    · rw [window_eq_nil_of_neg_iff hneg]
      exact ⟨Or.inr, fun h => h.resolve_left (Int.ne_of_lt hneg)⟩
    · have hnil : t.window start 0 = [] := by
        rw [window_of_nonneg (Int.le_refl 0), between_of_nonpos (Int.le_refl 0)]
      exact iff_of_true hnil (Or.inl rfl)

/-- On a tape of three cells, the window from the first cell up to minus one shows two cells,
although none are asked for, and it makes up no window with the one that starts there. -/
theorem window_misplaced :
    (⟨#[7, 8, 9], by decide⟩ : Tape).window 0 (-1) = [7, 8] ∧
      (⟨#[7, 8, 9], by decide⟩ : Tape).between 0 (-1) = [] ∧
      (⟨#[7, 8, 9], by decide⟩ : Tape).window (-2) (-1) ++
          (⟨#[7, 8, 9], by decide⟩ : Tape).window (-1) 3 = [7, 8, 7, 8, 9] ∧
      (⟨#[7, 8, 9], by decide⟩ : Tape).window (-2) 3 = [7, 8, 9] := by
  refine ⟨?_, ?_, ?_, ?_⟩ <;> rfl

end Tape

end Brainfuck
