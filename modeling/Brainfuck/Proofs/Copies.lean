import Brainfuck.Proofs.Builder

/-!
# Copies of a configuration

A configuration does not keep the arguments that it was made of, but what they mean: the program
without its comments, and no bound in place of one that is not positive. A copy with changes is made
of that, and yet it is the configuration that the arguments themselves make when the changes are
laid over them, and it is refused for the same reason (`Brainfuck.Config.copied_of_ok`).

The reason is that what an option means stands for itself (`Brainfuck.Config.Checked.again`). The
checks of the options that are not changed succeed either way, so that the first check to fail is
that of a change. For copies of copies the changes add up, and only the last value for each option
counts (`Brainfuck.Arguments.latest`). Configurations are values: the one that is copied stays what
it is.
-/

namespace Brainfuck

namespace Arguments

/-- **The last values of several layers**: for each option, that of the last layer that names it. -/
def latest (layers : List Arguments) : Arguments where
  source := layers.reverse.findSome? source
  tapeLength := layers.reverse.findSome? tapeLength
  optimize := layers.reverse.findSome? optimize
  maxIterations := layers.reverse.findSome? maxIterations
  input := layers.reverse.findSome? input
  output := layers.reverse.findSome? output
  eof := layers.reverse.findSome? eof
  unknown := layers.reverse.flatMap unknown

theorem latest_singleton (layer : Arguments) : latest [layer] = layer := by
  simp only [latest, List.reverse_singleton, List.findSome?_singleton, List.flatMap_singleton]

/-- Later layers lie over earlier ones. -/
theorem latest_append (before after : List Arguments) :
    latest (before ++ after) = (latest after).onto (latest before) := by
  simp only [latest, onto, List.reverse_append, List.findSome?_append, List.flatMap_append,
    Option.orElse_eq_orElse, Option.orElse_eq_or]

end Arguments

namespace Config

/-! ### A configuration and its arguments -/

/-- A bound that a configuration can have stands for itself. -/
theorem boundOfValue_elim {bound : Option Nat} (hpos : ∀ n, bound = some n → 1 ≤ n) :
    boundOfValue (bound.elim .null fun n => .int n) = .ok bound := by
  rcases bound with _ | n
  · rfl
  · have hlt : (0 : Int) < n := Int.natCast_pos.mpr (hpos n rfl)
    rw [Option.elim_some, boundOfValue, if_pos hlt, Int.toNat_natCast]

section Checked

variable {a : Arguments} {c : Config}

/-- **What a configuration stands for makes it again.** -/
theorem Checked.again (h : Checked a c) : Checked c.arguments c where
  unknown := rfl
  source := commandsOfValue_toText c.source
  tapeLength := TapeLength.ofValue_val c.tapeLength
  maxIterations := by
    refine boundOfValue_elim fun n hn => pos_of_bound (v := a.maxIterationsValue) ?_
    rw [h.maxIterations, hn]
  eof := EndMode.ofValue_name c.eof
  optimize := rfl
  input := rfl
  output := rfl

/-- What is laid over two options that are alike is alike. -/
theorem eq_of_orElse {α β : Type} {f : α → β} {x y z : Option α} {d : α}
    (h : f (y.getD d) = f (z.getD d)) : f ((x <|> y).getD d) = f ((x <|> z).getD d) := by
  rcases x with _ | v
  · exact h
  · rfl

/-- **Changes make of two arguments that are accepted alike the same configuration**, or are refused
alike. -/
theorem Checked.ofArguments_onto {b : Arguments} (ha : Checked a c) (hb : Checked b c)
    (changes : Arguments) :
    Config.ofArguments (changes.onto a) = Config.ofArguments (changes.onto b) := by
  refine ofArguments_congr ?_ ?_ ?_ ?_ ?_ ?_ ?_ ?_
  · simp only [Arguments.checkNames, Arguments.onto, ha.unknown, hb.unknown]
  · exact eq_of_orElse (ha.source.trans hb.source.symm)
  · exact eq_of_orElse (ha.tapeLength.trans hb.tapeLength.symm)
  · exact eq_of_orElse (f := id) (ha.optimize.symm.trans hb.optimize)
  · exact eq_of_orElse (ha.maxIterations.trans hb.maxIterations.symm)
  · exact eq_of_orElse (f := id) (ha.input.symm.trans hb.input)
  · exact eq_of_orElse (f := id) (ha.output.symm.trans hb.output)
  · exact eq_of_orElse (ha.eof.trans hb.eof.symm)

end Checked

/-! ### Copies -/

/-- A copy of a copy and so on, with changes each time. -/
def copies (c : Config) (changes : List Arguments) : Except Failure Config :=
  changes.foldlM withArguments c

section Copies

variable {a : Arguments} {c d : Config} {changes : List Arguments}

/-- **A copy is made, or refused, like the configuration of the arguments** under the changes. -/
theorem withArguments_eq (h : ofArguments a = .ok c) (changes : Arguments) :
    c.withArguments changes = ofArguments (changes.onto a) :=
  (checked_of_ok h).again.ofArguments_onto (checked_of_ok h) changes

theorem withArguments_empty (h : ofArguments a = .ok c) : c.withArguments .empty = .ok c := by
  rw [withArguments_eq h, Arguments.empty_onto, h]

/-- **Copies of copies** are made of the arguments under all changes. -/
theorem ofArguments_latest (h : ofArguments a = .ok c) (hd : c.copies changes = .ok d) :
    ofArguments ((Arguments.latest changes).onto a) = .ok d := by
  induction changes generalizing a c with
  | nil =>
    cases hd
    exact h
  | cons first changes ih =>
    rw [copies, List.foldlM_cons] at hd
    obtain ⟨c', hc', hd⟩ := exists_of_bind hd
    rw [withArguments_eq h] at hc'
    have hlatest : Arguments.latest (first :: changes) = (Arguments.latest changes).onto first := by
      rw [← List.singleton_append, Arguments.latest_append, Arguments.latest_singleton]
    rw [hlatest, Arguments.onto_assoc]
    exact ih hc' hd

/-- **The copies of a configuration** that arguments make. -/
structure Copied (a : Arguments) (c : Config) : Prop where
  /-- Without changes the copy is the same. -/
  same : c.withArguments .empty = .ok c
  /-- With changes it is the configuration that the arguments make under them, and it is refused
  for the same reason. -/
  changed : ∀ changes, c.withArguments changes = ofArguments (changes.onto a)
  /-- So is a copy of a copy, with the last value that was given for each option. -/
  copies : ∀ changes d, c.copies changes = .ok d →
    ofArguments ((Arguments.latest changes).onto a) = .ok d ∧
      ∀ last, d.withArguments last = ofArguments ((Arguments.latest (changes ++ [last])).onto a)
  /-- Nothing but these values matters. -/
  latest : ∀ changes changes' d d', c.copies changes = .ok d → c.copies changes' = .ok d' →
    Arguments.latest changes' = Arguments.latest changes → d' = d

/-- **A copy of a configuration is made as if from the start.** -/
theorem copied_of_ok (h : ofArguments a = .ok c) : Copied a c where
  same := withArguments_empty h
  changed := withArguments_eq h
  copies changes d hd := by
    have hlatest := ofArguments_latest h hd
    refine ⟨hlatest, fun last => ?_⟩
    rw [withArguments_eq hlatest, Arguments.latest_append, Arguments.latest_singleton,
      Arguments.onto_assoc]
  latest changes changes' d d' hd hd' heq := by
    have hlatest := ofArguments_latest h hd
    have hlatest' := ofArguments_latest h hd'
    rw [heq, hlatest] at hlatest'
    exact (Except.ok.inj hlatest').symm

/-- A program with a comment, and a bound that is none. -/
theorem copied_of_ok_unbounded :
    ofArguments { Arguments.empty with
        source := some (.text "+ a comment [.-]"), maxIterations := some (.int (-4)) } =
      .ok ⟨Command.ofText "+[.-]", .standard, .bool false, none, .none, .none, .keep⟩ ∧
    Copied { Arguments.empty with
        source := some (.text "+ a comment [.-]"), maxIterations := some (.int (-4)) }
      ⟨Command.ofText "+[.-]", .standard, .bool false, none, .none, .none, .keep⟩ :=
  ⟨by rfl, copied_of_ok (by rfl)⟩

/-- Of two bounds the last one counts, although the first copy has none. -/
example : Arguments.latest [{ Arguments.empty with maxIterations := some (.int 0) },
    { Arguments.empty with eof := some (.text "zero"), maxIterations := some (.int 7) }] =
      { Arguments.empty with eof := some (.text "zero"), maxIterations := some (.int 7) } := by
  rfl

end Copies

end Config

end Brainfuck
