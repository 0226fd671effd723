import Brainfuck.Proofs.Session.Lockstep

/-!
# Longer tapes

A tape is a circle, and a pointer that moves far enough comes upon cells from the other side. On a
line that is wound around the circle it would not: there its position is the sum of all moves
(`Brainfuck.Session.unwrapped`), and a run visits no more than the strip between the lowest and the
highest of these positions. As long as the strip is shorter than the circle, no two of its cells
come to lie on each other (`Brainfuck.eq_of_wind_eq`), and the run is the same on every longer tape
(`Brainfuck.Session.exists_stretched`).

The cells of a strip lie at different places of the two tapes, those below zero at opposite ends.
What a step keeps is therefore stated on the line: both tapes have the same strip on them and
nothing beside it (`Brainfuck.Tape.Strip`), and both pointers are at the same position of it
(`Brainfuck.Session.Stretched`).
-/

namespace Brainfuck

/-! ### The line around a circle -/

/-- Where a position on the line comes to lie on a circle of `n` cells. -/
def wind (n : Nat) (x : Int) : Nat := (x % n).toNat

section Wind

variable {n : Nat} {x y : Int}

theorem natCast_wind (hn : 0 < n) (x : Int) : (wind n x : Int) = x % n :=
  Int.toNat_of_nonneg (Int.emod_nonneg x (by omega))

theorem wind_lt (hn : 0 < n) (x : Int) : wind n x < n := by
  have hlt := Int.emod_lt_of_pos x (Int.natCast_pos.mpr hn)
  rw [← natCast_wind hn] at hlt
  exact Int.ofNat_lt.mp hlt

/-- The field says so of the cells. Here it is the length itself that has to be rewritten with. -/
theorem Tape.zero_lt_size (t : Tape) : 0 < t.size := t.size_pos

/-- Moving along the line is moving around the circle. -/
theorem shift_wind (t : Tape) (x d : Int) :
    t.shift (wind t.size x) d = wind t.size (x + d) := by
  rw [Tape.shift, natCast_wind t.zero_lt_size, Int.emod_add_emod, wind]

/-- **Positions less than a length apart come to lie on different cells.** -/
theorem eq_of_wind_eq (hn : 0 < n) (h : wind n x = wind n y) (hxy : x - y < n) (hyx : y - x < n) :
    x = y := by
  have hmod : x % n = y % n := by rw [← natCast_wind hn, ← natCast_wind hn, h]
  obtain ⟨k, hk⟩ := Int.dvd_of_emod_eq_zero (Int.emod_eq_emod_iff_emod_sub_eq_zero.mp hmod)
  -- a multiple of the length that is less than one length away from zero
  have hnonneg : (0 : Int) ≤ n := Int.natCast_nonneg n
  rcases Int.lt_trichotomy k 0 with hneg | rfl | hgt
  · have hle : (n : Int) * k ≤ n * (-1) := Int.mul_le_mul_of_nonneg_left (by omega) hnonneg
    omega
  · omega
  · have hle : (n : Int) * 1 ≤ n * k := Int.mul_le_mul_of_nonneg_left (by omega) hnonneg
    omega

end Wind

/-! ### A strip of the line on two tapes -/

/-- **The same strip of the line lies on two tapes**, of which the second one is at least as long,
and there is nothing beside it. -/
structure Tape.Strip (low high : Int) (t u : Tape) : Prop where
  /-- The strip is shorter than the first tape. -/
  fits : high - low < t.size
  /-- The second tape is not shorter. -/
  size_le : t.size ≤ u.size
  /-- The cells of the strip are the same on both. -/
  same : ∀ x, low ≤ x → x ≤ high → u.cell (wind u.size x) = t.cell (wind t.size x)
  /-- Any other cell of the first tape is zero. -/
  blank : ∀ p, (∀ x, low ≤ x → x ≤ high → wind t.size x ≠ p) → t.cell p = 0
  /-- Any other cell of the second tape is zero. -/
  blank' : ∀ p, (∀ x, low ≤ x → x ≤ high → wind u.size x ≠ p) → u.cell p = 0

namespace Tape

section Strip

variable {low high x : Int} {t u : Tape}

theorem strip_blank {length length' : TapeLength} (hfits : high - low < length.val)
    (hle : length.val ≤ length'.val) : Strip low high (blank length) (blank length') where
  fits := by rwa [size_blank]
  size_le := by rwa [size_blank, size_blank]
  same x _ _ := by rw [cell_blank, cell_blank]
  blank p _ := cell_blank length p
  blank' p _ := cell_blank length' p

/-- **Storing in a cell of the strip** keeps it the same on both tapes. -/
theorem Strip.put (h : Strip low high t u) (hlow : low ≤ x) (hhigh : x ≤ high) (b : UInt8) :
    Strip low high (t.put (wind t.size x) b) (u.put (wind u.size x) b) where
  fits := by
    rw [size_put]
    exact h.fits
  size_le := by
    rw [size_put, size_put]
    exact h.size_le
  same y hy hy' := by
    have hfits := h.fits
    have hle := h.size_le
    rw [size_put, size_put]
    by_cases hyx : y = x
    · subst hyx
      rw [cell_put (wind_lt u.zero_lt_size y), cell_put (wind_lt t.zero_lt_size y)]
    · -- the strip is shorter than either tape, so that the other cells of it are left alone
      have ht : wind t.size y ≠ wind t.size x := fun heq =>
        hyx (eq_of_wind_eq t.zero_lt_size heq (by omega) (by omega))
      have hu : wind u.size y ≠ wind u.size x := fun heq =>
        hyx (eq_of_wind_eq u.zero_lt_size heq (by omega) (by omega))
      rw [cell_put_of_ne hu, cell_put_of_ne ht]
      exact h.same y hy hy'
  blank p hp := by
    rw [size_put] at hp
    rw [cell_put_of_ne (hp x hlow hhigh).symm]
    exact h.blank p hp
  blank' p hp := by
    rw [size_put] at hp
    rw [cell_put_of_ne (hp x hlow hhigh).symm]
    exact h.blank' p hp

/-- Adding to a cell of the strip keeps it the same on both tapes. -/
theorem Strip.bump (h : Strip low high t u) (hlow : low ≤ x) (hhigh : x ≤ high) (n : Int) :
    Strip low high (t.bump (wind t.size x) n) (u.bump (wind u.size x) n) := by
  have hput := h.put hlow hhigh (t.cell (wind t.size x) + UInt8.ofInt n)
  rw [Tape.bump, Tape.bump, h.same x hlow hhigh]
  exact hput

end Strip

end Tape

/-! ### Sessions on a strip -/

/-- The distance by which an instruction moves the pointer, to the right or, below zero, to the
left. -/
def Instruction.displacement : Instruction → Int
  | perform .right times => times
  | perform .left times => -times
  | perform .increment _ | perform .decrement _ | perform .write _ | perform .read _ => 0
  | opening _ | closing _ => 0

namespace Session

/-- The distance by which the next step moves the pointer. -/
def displacement (s : Session) : Int := (s.program.at? s.pc).elim 0 Instruction.displacement

/-- **The unwrapped position** of the pointer after so many steps: the sum of their moves. -/
def unwrapped : Session → Nat → Int
  | _, 0 => 0
  | s, n + 1 => s.displacement + s.step.2.unwrapped n

/-- The least of the unwrapped positions after up to so many steps. -/
def lowest (s : Session) : Nat → Int
  | 0 => 0
  | n + 1 => min (s.lowest n) (s.unwrapped (n + 1))

/-- The greatest of the unwrapped positions after up to so many steps. -/
def highest (s : Session) : Nat → Int
  | 0 => 0
  | n + 1 => max (s.highest n) (s.unwrapped (n + 1))

theorem lowest_le (s : Session) {k n : Nat} (h : k ≤ n) : s.lowest n ≤ s.unwrapped k := by
  induction h with
  | refl =>
    cases k with
    | zero => exact Int.le_refl 0
    | succ k => exact Int.min_le_right _ _
  | step _ ih => exact Int.le_trans (Int.min_le_left _ _) ih

theorem le_highest (s : Session) {k n : Nat} (h : k ≤ n) : s.unwrapped k ≤ s.highest n := by
  induction h with
  | refl =>
    cases k with
    | zero => exact Int.le_refl 0
    | succ k => exact Int.le_max_right _ _
  | step _ ih => exact Int.le_trans ih (Int.le_max_left _ _)

/-- The session with another tape, and at another cell of it. -/
def onTape (s : Session) (tape : Tape) (pointer : Nat) : Session := { s with tape, pointer }

/-- **Sessions at the same position of the same strip**, on two tapes. -/
structure Stretched (low high q : Int) (s u : Session) : Prop where
  /-- Nothing is another but the tape and the place of the pointer on it. -/
  same : u = s.onTape u.tape u.pointer
  /-- The position is in the strip. -/
  low_le : low ≤ q
  /-- The position is in the strip. -/
  le_high : q ≤ high
  /-- Where the first pointer is. -/
  pointer : s.pointer = wind s.tape.size q
  /-- Where the second pointer is. -/
  pointer' : u.pointer = wind u.tape.size q
  /-- The tapes. -/
  strip : s.tape.Strip low high u.tape

section Stretched

variable {low high q : Int} {s u : Session}

theorem Stretched.exists_onTape (h : Stretched low high q s u) :
    ∃ tape pointer, u = s.onTape tape pointer := ⟨_, _, h.same⟩

theorem Stretched.cell (h : Stretched low high q s u) : u.cell = s.cell := by
  rw [Session.cell, Session.cell, h.pointer, h.pointer']
  exact h.strip.same q h.low_le h.le_high

/-- What leaves the tape and the pointer alone leaves the sessions at the same position. -/
theorem Stretched.onTape (h : Stretched low high q s u) {t : Session} (htape : t.tape = s.tape)
    (hpointer : t.pointer = s.pointer) :
    Stretched low high q t (t.onTape u.tape u.pointer) where
  same := rfl
  low_le := h.low_le
  le_high := h.le_high
  pointer := by rw [hpointer, htape, h.pointer]
  pointer' := h.pointer'
  strip := htape ▸ h.strip

/-- A byte is stored in the current cell of both tapes. -/
theorem Stretched.put (h : Stretched low high q s u) {t : Session} (b : UInt8)
    (htape : t.tape = s.tape.put s.pointer b) (hpointer : t.pointer = s.pointer) :
    Stretched low high q t (t.onTape (u.tape.put u.pointer b) u.pointer) where
  same := rfl
  low_le := h.low_le
  le_high := h.le_high
  pointer := by rw [hpointer, htape, Tape.size_put, h.pointer]
  pointer' := h.pointer'.trans (congrArg (wind · q) (Tape.size_put _ _ _).symm)
  strip := by
    rw [htape, h.pointer, h.pointer']
    exact h.strip.put h.low_le h.le_high b

/-- A number is added to the current cell of both tapes. -/
theorem Stretched.bump (h : Stretched low high q s u) {t : Session} (n : Int)
    (htape : t.tape = s.tape.bump s.pointer n) (hpointer : t.pointer = s.pointer) :
    Stretched low high q t (t.onTape (u.tape.bump u.pointer n) u.pointer) := by
  have hcell : u.tape.cell u.pointer = s.tape.cell s.pointer := h.cell
  rw [Tape.bump] at htape ⊢
  rw [hcell]
  exact h.put _ htape hpointer

/-- Both pointers are moved by the same distance. -/
theorem Stretched.shift (h : Stretched low high q s u) {t : Session} {d : Int}
    (hlow : low ≤ q + d) (hhigh : q + d ≤ high) (htape : t.tape = s.tape)
    (hpointer : t.pointer = s.tape.shift s.pointer d) :
    Stretched low high (q + d) t (t.onTape u.tape (u.tape.shift u.pointer d)) where
  same := rfl
  low_le := hlow
  le_high := hhigh
  pointer := by rw [hpointer, htape, h.pointer, shift_wind]
  pointer' := by
    have hshift := shift_wind u.tape q d
    rw [← h.pointer'] at hshift
    exact hshift
  strip := htape ▸ h.strip

/-- The tapes make no difference outside of instructions. -/
theorem lockstep_stretched (low high q : Int) : Lockstep (Stretched low high q) where
  error h := by rw [h.same]; rfl
  at? h := by rw [h.same]; rfl
  cell h := h.cell
  exceedsCap h := by rw [h.same]; rfl
  advance h := by
    obtain ⟨tape, pointer, rfl⟩ := h.exists_onTape
    exact h.onTape rfl rfl
  cutOff h := by
    obtain ⟨tape, pointer, rfl⟩ := h.exists_onTape
    exact h.onTape rfl rfl

/-- **Reads do the same on both tapes.** -/
theorem Stretched.readInput (h : Stretched low high q s u) (total left : Nat) :
    Alongside (Stretched low high q) (s.readInput total left) (u.readInput total left) := by
  induction left generalizing s u with
  | zero => exact ⟨rfl, h⟩
  | succ left ih =>
    obtain ⟨tape, pointer, rfl⟩ := h.exists_onTape
    rcases hread : s.input.read with ⟨f | ⟨_ | byte⟩, input⟩
    · rw [readInput_failed hread, readInput_failed (s := s.onTape tape pointer) hread]
      exact ⟨rfl, h.onTape rfl rfl⟩
    · cases heof : s.eof with
      | keep =>
        rw [readInput_keep hread heof, readInput_keep (s := s.onTape tape pointer) hread heof]
        exact ih (h.onTape rfl rfl)
      | zero =>
        rw [readInput_zero hread heof, readInput_zero (s := s.onTape tape pointer) hread heof]
        exact ih (h.put 0 rfl rfl)
      | error =>
        rw [readInput_end hread heof, readInput_end (s := s.onTape tape pointer) hread heof]
        exact ⟨rfl, h.onTape rfl rfl⟩
    · rw [readInput_byte hread, readInput_byte (s := s.onTape tape pointer) hread]
      exact ih (h.put byte rfl rfl)

/-- **Instructions do the same on both tapes**, as long as they stay on the strip. -/
theorem Stretched.execute (h : Stretched low high q s u) {i : Instruction}
    (hlow : low ≤ q + i.displacement) (hhigh : q + i.displacement ≤ high) :
    Alongside (Stretched low high (q + i.displacement)) (s.execute i) (u.execute i) := by
  have hcell := h.cell
  obtain ⟨tape, pointer, rfl⟩ := h.exists_onTape
  cases i with
  | perform action times =>
    cases action with
    | right | left => exact ⟨rfl, h.shift hlow hhigh rfl rfl⟩
    | increment | decrement =>
      rw [Instruction.displacement, Int.add_zero]
      exact ⟨rfl, h.bump _ rfl rfl⟩
    | write =>
      rw [Instruction.displacement, Int.add_zero, Session.execute, perform, Session.execute,
        perform, hcell]
      exact ⟨rfl, h.onTape rfl rfl⟩
    | read =>
      have hforget : Stretched low high q s.forgetReads (s.forgetReads.onTape tape pointer) :=
        h.onTape rfl rfl
      rw [Instruction.displacement, Int.add_zero]
      exact hforget.readInput times (times - s.readsDone)
  | opening partner | closing partner =>
    rw [Instruction.displacement, Int.add_zero, Session.execute, Session.execute, hcell]
    refine ⟨rfl, ?_⟩
    split <;> exact h.onTape rfl rfl

/-- **A step that is done on the one tape is done on the other**, as long as it stays on the
strip. -/
theorem Stretched.step (h : Stretched low high q s u) {t : Session} {c : UInt8}
    (hstep : s.step = (.value c, t)) (hlow : low ≤ q + s.displacement)
    (hhigh : q + s.displacement ≤ high) :
    ∃ v, u.step = (.value c, v) ∧ Stretched low high (q + s.displacement) t v := by
  obtain ⟨herr, i, -, hi, -⟩ := step_value hstep
  have hd : s.displacement = i.displacement := by rw [Session.displacement, hi]; rfl
  rw [hd] at hlow hhigh ⊢
  have hlock := lockstep_stretched low high q
  exact ((lockstep_stretched low high (q + i.displacement)).step_of_execute herr
    ((hlock.error h).trans herr) hi ((hlock.at? h).trans hi) (h.execute hlow hhigh)).exists_right
      hstep

/-- **A walk on the one tape is a walk on the other**, as long as it stays on the strip. -/
theorem Stretched.walk (h : Stretched low high q s u) {n : Nat} {t : Session} (hwalk : Walk n s t)
    (hstrip : ∀ k ≤ n, low ≤ q + s.unwrapped k ∧ q + s.unwrapped k ≤ high) :
    ∃ v, Walk n u v ∧ Stretched low high (q + s.unwrapped n) t v := by
  induction hwalk generalizing q u with
  | refl =>
    rw [unwrapped, Int.add_zero]
    exact ⟨u, .refl, h⟩
  | @step n s t w c hstep _ ih =>
    have hsnd : s.step.2 = t := by rw [hstep]
    -- the positions of what is left of the walk are counted from where the first step leads
    have hrest : ∀ k, q + s.unwrapped (k + 1) = q + s.displacement + t.unwrapped k := by
      intro k
      rw [unwrapped, hsnd, Int.add_assoc]
    have hfirst := hstrip 1 (by omega)
    rw [hrest, unwrapped, Int.add_zero] at hfirst
    obtain ⟨v, hv, hrel⟩ := h.step hstep hfirst.1 hfirst.2
    obtain ⟨v', hv', hrel'⟩ := ih hrel fun k hk => by
      rw [← hrest]
      exact hstrip (k + 1) (by omega)
    refine ⟨v', .step hv hv', ?_⟩
    rw [hrest]
    exact hrel'

end Stretched

/-! ### Fresh sessions -/

section Fresh

variable {commands : List Command} {optimize : Bool} {length length' : TapeLength}
  {cap : Option Cap} {mode : EndMode} {input : List UInt8} {output : Sink}

/-- Fresh sessions differ in their tapes only. -/
theorem fresh_onTape :
    fresh commands optimize length' cap mode input output =
      (fresh commands optimize length cap mode input output).onTape (.blank length') 0 := by
  simp only [fresh, load]
  split <;> simp only [reset, idle, onTape, Tape.reset_blank]

theorem tape_fresh :
    (fresh commands optimize length cap mode input output).tape = .blank length := by
  simp only [fresh, load]
  split <;> simp only [reset, idle, Tape.reset_blank]

theorem pointer_fresh : (fresh commands optimize length cap mode input output).pointer = 0 := by
  simp only [fresh, load]
  split <;> rfl

/-- Fresh sessions are at the start of every strip that is short enough. -/
theorem stretched_fresh {low high : Int} (hle : length.val ≤ length'.val) (hlow : low ≤ 0)
    (hhigh : 0 ≤ high) (hfits : high - low < length.val) :
    Stretched low high 0 (fresh commands optimize length cap mode input output)
      (fresh commands optimize length' cap mode input output) where
  same := by
    rw [tape_fresh, pointer_fresh]
    exact fresh_onTape
  low_le := hlow
  le_high := hhigh
  pointer := by
    rw [pointer_fresh, wind, Int.zero_emod]
    rfl
  pointer' := by
    rw [pointer_fresh, wind, Int.zero_emod]
    rfl
  strip := by
    rw [tape_fresh, tape_fresh]
    exact Tape.strip_blank hfits hle

/-- **A longer tape does not change a run that never wraps.** Take some first steps of the run of a
program on a tape. If the unwrapped positions of the pointer are less than the length of the tape
apart, then as many steps can be taken on every longer tape. After them the sessions are the same
but for the tapes, on which the same strip lies, from the lowest to the highest of the positions,
and the two pointers are at the same position of it. -/
theorem exists_stretched {n : Nat} {s t u : Session}
    (hs : s = fresh commands optimize length cap mode input output)
    (hu : u = fresh commands optimize length' cap mode input output)
    (hle : length.val ≤ length'.val) (hwalk : Walk n s t)
    (hspan : s.highest n - s.lowest n < length.val) :
    ∃ v, Walk n u v ∧ t.tape.size = length.val ∧ v.tape.size = length'.val ∧
      Stretched (s.lowest n) (s.highest n) (s.unwrapped n) t v := by
  have hstart : Stretched (s.lowest n) (s.highest n) 0 s u := by
    rw [hs] at hspan ⊢
    rw [hu]
    exact stretched_fresh hle (lowest_le _ (Nat.zero_le n)) (le_highest _ (Nat.zero_le n)) hspan
  have hsize : s.tape.size = length.val := by rw [hs, tape_fresh, Tape.size_blank]
  have hsize' : u.tape.size = length'.val := by rw [hu, tape_fresh, Tape.size_blank]
  obtain ⟨v, hv, hrel⟩ := hstart.walk hwalk fun k hk => by
    rw [Int.zero_add]
    exact ⟨s.lowest_le hk, s.le_highest hk⟩
  rw [Int.zero_add] at hrel
  exact ⟨v, hv, hwalk.keeps.1.size.trans hsize, hv.keeps.1.size.trans hsize', hrel⟩

/-- A folded move to the left of the start, and a loop that goes there and back, on tapes of three
and of seven cells. -/
theorem exists_stretched_leftwards :
    ∃ s t u v,
      s = fresh (Command.ofText "<<++[>,.<-]") true ⟨3, by decide⟩ none .error [5, 6]
        (.buffer #[]) ∧
      u = fresh (Command.ofText "<<++[>,.<-]") true ⟨7, by decide⟩ none .error [5, 6]
        (.buffer #[]) ∧
      Walk 12 s t ∧ s.highest 12 - s.lowest 12 < 3 ∧ Walk 12 u v ∧ t.tape.size = 3 ∧
      v.tape.size = 7 ∧ Stretched (s.lowest 12) (s.highest 12) (s.unwrapped 12) t v := by
  have hwalk : Walk 12 (fresh (Command.ofText "<<++[>,.<-]") true ⟨3, by decide⟩ none .error [5, 6]
      (.buffer #[])) _ :=
    .step rfl (.step rfl (.step rfl (.step rfl (.step rfl (.step rfl (.step rfl (.step rfl
      (.step rfl (.step rfl (.step rfl (.step rfl .refl)))))))))))
  have hspan : (fresh (Command.ofText "<<++[>,.<-]") true ⟨3, by decide⟩ none .error [5, 6]
      (.buffer #[])).highest 12 - (fresh (Command.ofText "<<++[>,.<-]") true ⟨3, by decide⟩ none
        .error [5, 6] (.buffer #[])).lowest 12 < 3 := by
    decide
  have hlonger : fresh (Command.ofText "<<++[>,.<-]") true ⟨7, by decide⟩ none .error [5, 6]
      (.buffer #[]) = fresh (Command.ofText "<<++[>,.<-]") true ⟨7, by decide⟩ none .error [5, 6]
        (.buffer #[]) := rfl
  obtain ⟨v, hv, hstretched⟩ := exists_stretched rfl hlonger (by decide) hwalk hspan
  exact ⟨_, _, _, v, rfl, hlonger, hwalk, hspan, hv, hstretched⟩

end Fresh

end Session

end Brainfuck
