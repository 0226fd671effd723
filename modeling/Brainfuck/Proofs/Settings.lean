import Mathlib.Data.Option.Basic
import Mathlib.Logic.Function.Basic
import Brainfuck.Proofs.Setting
import Brainfuck.Settings.File

/-!
# What settings mean

A setting is read in the same way wherever it comes from (`Brainfuck.Setting.read`). The settings of
a mapping set each option to what the value given for it is read as (`Brainfuck.given?`), and no
others; an environment is the mapping of those of its variables that name an option.

What cannot be read is refused, and the reason is one that can be told, with three exceptions
(`Brainfuck.Settings.Flaw`): a document can have keys that are no texts, numbers that are
infinite, and values that cannot be written. An environment, where everything is a text, has none
of them.
-/

namespace Brainfuck

/-! ### Options and their values -/

namespace Setting

/-- The value of an option that is not named. -/
def standard : Setting → Value
  | tapeLength => .int 30000
  | optimize => .bool false
  | maxIterations => .null
  | eof => .text "keep"

end Setting

namespace Arguments

/-- The value that is named for an option. -/
def setting? (a : Arguments) : Setting → Option Value
  | .tapeLength => a.tapeLength
  | .optimize => a.optimize
  | .maxIterations => a.maxIterations
  | .eof => a.eof

/-- The value of an option. -/
def setting (a : Arguments) (option : Setting) : Value := (a.setting? option).getD option.standard

theorem setting?_onto (upper lower : Arguments) (option : Setting) :
    (upper.onto lower).setting? option = (upper.setting? option <|> lower.setting? option) := by
  cases option <;> rfl

end Arguments

/-- **The value that a mapping gives an option**: that of the last entry whose key names it. -/
def given? (entries : List (Value × Value)) (option : Setting) : Option Value :=
  match entries with
  | [] => none
  | (key, v) :: rest =>
    given? rest option <|> if Settings.settingOfKey? key = some option then some v else none

theorem settingOfKey?_name (option : Setting) :
    Settings.settingOfKey? (.text option.name) = some option := by
  cases option <;> decide

/-- The entries for a list of options give each option on the list its value. -/
theorem given?_filterMap (options : List Setting) (f : Setting → Option Value) (option : Setting) :
    given? (options.filterMap fun o => (f o).map fun v => (.text o.name, v)) option =
      if option ∈ options then f option else none := by
  induction options with
  | nil => rfl
  | cons o options ih =>
    rcases hf : f o with _ | v
    · rw [List.filterMap_cons_none (by rw [hf]; rfl), ih]
      by_cases ho : option = o
      · simp [ho, hf]
      · simp [ho]
    · rw [List.filterMap_cons_some (b := (.text o.name, v)) (by rw [hf]; rfl), given?, ih,
        settingOfKey?_name]
      by_cases ho : option = o
      -- if the option comes again, it is with the same value
      · rw [ho, hf]
        by_cases hmem : o ∈ options <;> simp [hmem]
      · simp [ho, Ne.symm ho]

/-- What is looked up in a list whose values have been changed. -/
theorem lookup_mapSnd {α β γ : Type} [BEq α] (l : List (α × β)) (f : β → γ) (a : α) :
    (l.map fun x => (x.1, f x.2)).lookup a = (l.lookup a).map f := by
  induction l with
  | nil => rfl
  | cons x l ih =>
    rw [List.map_cons, List.lookup_cons, List.lookup_cons, ih]
    split <;> rfl

/-- A list that cannot be mapped has a member that cannot. -/
theorem exists_of_mapM_none {α β : Type} {g : α → Option β} {l : List α} (h : l.mapM g = none) :
    ∃ x ∈ l, g x = none := by
  induction l with
  | nil => cases h
  | cons x l ih =>
    rcases hx : g x with _ | y
    · exact ⟨x, List.mem_cons_self, hx⟩
    · have hl : l.mapM g = none := by
        rcases hl : l.mapM g with _ | ys
        · rfl
        · simp [List.mapM_cons, hx, hl] at h
      obtain ⟨x', hmem, hx'⟩ := ih hl
      exact ⟨x', List.mem_cons_of_mem x hmem, hx'⟩

namespace Settings

/-! ### Setting one option -/

/-- Two ways to go on from a result that come to the same. -/
theorem map_bind_eq_map {α β γ δ : Type} (x : Except Failure α) {k : α → β} {g : β → γ}
    {k' : α → δ} {g' : δ → γ} (h : ∀ a, g (k a) = g' (k' a)) :
    (x >>= fun a => pure (k a)).map g = (x >>= fun a => pure (k' a)).map g' := by
  rcases x with f | a
  · rfl
  · exact congrArg Except.ok (h a)

/-- **Setting an option** sets it to what the value is read as, and no other option. -/
theorem put_eq (s : Settings) (option : Setting) (v : Value) :
    (s.put option v).map (fun t => t.arguments.setting?) =
      (option.read v).map fun w => Function.update s.arguments.setting? option (some w) := by
  cases option with
  | tapeLength =>
    exact map_bind_eq_map (readInt _ v) fun n => funext fun o => by cases o <;> rfl
  | optimize =>
    exact map_bind_eq_map (readBool _ v) fun b => funext fun o => by cases o <;> rfl
  | maxIterations =>
    cases v with
    | null => exact congrArg Except.ok (funext fun o => by cases o <;> rfl)
    | bool | int | float | text | bytes | date | moment | list | pair | set | mapping | again
    | deep =>
      exact map_bind_eq_map (readInt _ _) fun n => funext fun o => by cases o <;> rfl
  | eof =>
    exact map_bind_eq_map (readWord _ v) fun word => funext fun o => by cases o <;> rfl

section Put

variable {s t : Settings} {option : Setting} {v : Value} {f : Failure}

theorem exists_of_put (h : s.put option v = .ok t) :
    ∃ w, option.read v = .ok w ∧
      t.arguments.setting? = Function.update s.arguments.setting? option (some w) := by
  have heq := put_eq s option v
  rw [h] at heq
  rcases hread : option.read v with f | w <;> rw [hread] at heq
  · cases heq
  · exact ⟨w, rfl, Except.ok.inj heq⟩

theorem put_eq_error_iff : s.put option v = .error f ↔ option.read v = .error f := by
  have heq := put_eq s option v
  rcases hput : s.put option v with g | t <;> rcases hread : option.read v with g' | w <;>
    rw [hput, hread] at heq
  · obtain rfl : g = g' := Except.error.inj heq
    rw [Except.error.injEq, Except.error.injEq]
  · cases heq
  · cases heq
  · exact ⟨nofun, nofun⟩

end Put

/-- The settings of two layers. -/
theorem setting?_layers (upper lower : Settings) (option : Setting) :
    (upper.onto lower).arguments.setting? option =
      (upper.arguments.setting? option <|> lower.arguments.setting? option) := by
  have hmap : ∀ {α : Type} (g : α → Value) (a b : Option α),
      (a <|> b).map g = (a.map g <|> b.map g) := by
    intro α g a b
    rcases a with _ | x <;> rfl
  cases option <;> exact hmap _ _ _

/-! ### All entries of a mapping -/

section Entries

variable {s t : Settings} {entries : List (Value × Value)} {option : Setting} {f : Failure}

/-- Setting the options of a mapping begins with its first entry, which names an option. -/
theorem exists_of_putEntries_cons {e : Value × Value} (h : s.putEntries (e :: entries) = .ok t) :
    ∃ (o : Setting) (u : Settings) (w : Value), settingOfKey? e.1 = some o ∧ o.read e.2 = .ok w ∧
      u.arguments.setting? = Function.update s.arguments.setting? o (some w) ∧
      u.putEntries entries = .ok t := by
  rw [putEntries] at h
  split at h
  next o hkey =>
    obtain ⟨u, hu, h⟩ := exists_of_bind h
    obtain ⟨w, hw, hset⟩ := exists_of_put hu
    exact ⟨o, u, w, hkey, hw, hset, h⟩
  · cases h

/-- An option that is given no value is left as it is. -/
theorem setting?_of_given?_none (h : s.putEntries entries = .ok t)
    (hgiven : given? entries option = none) :
    t.arguments.setting? option = s.arguments.setting? option := by
  induction entries generalizing s with
  | nil =>
    cases h
    rfl
  | cons e rest ih =>
    obtain ⟨o, u, w, hkey, -, hset, h⟩ := exists_of_putEntries_cons h
    rw [given?, Option.orElse_eq_none] at hgiven
    -- so the first entry is for another option
    have ho : option ≠ o := by
      rintro rfl
      simp [hkey] at hgiven
    rw [ih h hgiven.1, hset, Function.update_of_ne ho]

/-- **An option that is given a value** is set to what that is read as. -/
theorem exists_of_given? {v : Value} (h : s.putEntries entries = .ok t)
    (hgiven : given? entries option = some v) :
    ∃ w, option.read v = .ok w ∧ t.arguments.setting? option = some w := by
  induction entries generalizing s with
  | nil => cases hgiven
  | cons e rest ih =>
    obtain ⟨o, u, w, hkey, hw, hset, h⟩ := exists_of_putEntries_cons h
    rw [given?] at hgiven
    rcases hrest : given? rest option with _ | v' <;> rw [hrest] at hgiven
    -- the entry is the last one for its own option
    · by_cases ho : o = option
      · subst ho
        simp [hkey] at hgiven
        subst hgiven
        refine ⟨w, hw, ?_⟩
        rw [setting?_of_given?_none h hrest, hset, Function.update_self]
      · simp [hkey, ho] at hgiven
    · cases hgiven
      exact ih h hrest

/-- **The settings of a mapping** lie over those that were there before. -/
theorem setting?_putEntries (h : s.putEntries entries = .ok t) (option : Setting) :
    t.arguments.setting? option =
      ((given? entries option).bind option.read? <|> s.arguments.setting? option) := by
  rcases hgiven : given? entries option with _ | v
  · exact setting?_of_given?_none h hgiven
  · obtain ⟨w, hw, ht⟩ := exists_of_given? h hgiven
    rw [ht, Option.bind_some, Setting.read?, hw]
    rfl

/-- All values in a mapping whose options have been set can be read. -/
theorem exists_of_mem {e : Value × Value} (h : s.putEntries entries = .ok t) (he : e ∈ entries) :
    ∃ o w, settingOfKey? e.1 = some o ∧ o.read e.2 = .ok w := by
  induction entries generalizing s with
  | nil => cases he
  | cons e' rest ih =>
    obtain ⟨o, u, w, hkey, hw, -, h⟩ := exists_of_putEntries_cons h
    rcases List.mem_cons.mp he with rfl | he
    · exact ⟨o, w, hkey, hw⟩
    · exact ih h he

/-- **A mapping whose options cannot be set** has a first value that cannot be read. -/
theorem exists_of_putEntries_error (hkeys : ∀ e ∈ entries, (settingOfKey? e.1).isSome)
    (h : s.putEntries entries = .error f) :
    ∃ before e after o, entries = before ++ e :: after ∧
      (∀ e' ∈ before, ∃ o' w, settingOfKey? e'.1 = some o' ∧ o'.read e'.2 = .ok w) ∧
      settingOfKey? e.1 = some o ∧ o.read e.2 = .error f := by
  induction entries generalizing s with
  | nil => cases h
  | cons e rest ih =>
    obtain ⟨o, hkey⟩ := Option.isSome_iff_exists.mp (hkeys e List.mem_cons_self)
    rw [putEntries, hkey] at h
    rcases exists_of_bind_error h with h | ⟨u, hu, h⟩
    · exact ⟨[], e, rest, o, rfl, List.forall_mem_nil _, hkey, put_eq_error_iff.mp h⟩
    · obtain ⟨w, hw, -⟩ := exists_of_put hu
      obtain ⟨before, e', after, o', rfl, hbefore, h⟩ :=
        ih (fun e' he' => hkeys e' (List.mem_cons_of_mem e he')) h
      exact ⟨e :: before, e', after, o', rfl,
        List.forall_mem_cons.mpr ⟨⟨o, w, hkey, hw⟩, hbefore⟩, h⟩

end Entries

/-! ### Documents -/

section Documents

variable {s : Settings} {v : Value} {entries : List (Value × Value)} {f : Failure}

/-- If all keys name options, nothing but the values can be refused. -/
theorem ofValue_of_isSome (hkeys : ∀ e ∈ entries, (settingOfKey? e.1).isSome) :
    ofValue (.mapping entries) = empty.putEntries entries := by
  have hempty : ((entries.map Prod.fst).filter fun k => (settingOfKey? k).isNone).isEmpty := by
    simpa [List.filter_eq_nil_iff, Option.isSome_iff_ne_none] using hkeys
  rw [ofValue, if_pos hempty]

theorem putEntries_of_ofValue (h : ofValue (.mapping entries) = .ok s) :
    empty.putEntries entries = .ok s := by
  rw [ofValue] at h
  split at h
  · exact h
  · cases h

/-- **The settings of a document.** -/
theorem setting?_ofValue (h : ofValue (.mapping entries) = .ok s) (option : Setting) :
    s.arguments.setting? option = (given? entries option).bind option.read? := by
  have hempty : empty.arguments.setting? option = none := by cases option <;> rfl
  rw [setting?_putEntries (putEntries_of_ofValue h) option, hempty]
  rcases (given? entries option).bind option.read? with _ | w <;> rfl

/-- **What no message can be made of** in a document: a key that is no text, or a value for an
option that is infinite or cannot be written. -/
inductive Flaw (entries : List (Value × Value)) : Failure → Prop
  /-- A key that is no text. -/
  | key {e : Value × Value} : e ∈ entries → textOfKey? e.1 = none → Flaw entries .wrongKind
  /-- An infinite number. -/
  | infinite {e : Value × Value} {option : Setting} : e ∈ entries →
    settingOfKey? e.1 = some option → Infinite option e.2 → Flaw entries .tooLarge
  /-- A value that cannot be read, in which something occurs that is never written. -/
  | unwritten {e : Value × Value} {option : Setting} {w : Value} {f : Failure} : e ∈ entries →
    settingOfKey? e.1 = some option → (∀ w, ¬option.Reads e.2 w) → w.Within e.2 → w.Endless f →
    Flaw entries f

/-- **A document that is refused** is no mapping, names an option that does not exist, has a value
that is not of the type of its option, or is flawed. -/
theorem exists_of_ofValue_error (h : ofValue v = .error f) :
    (∃ e, f = .option e) ∨ ∃ entries, v = .mapping entries ∧ Flaw entries f := by
  rw [ofValue.eq_def] at h
  split at h
  next entries =>
    dsimp only at h
    split at h
    next hempty =>
      have hkeys : ∀ e ∈ entries, (settingOfKey? e.1).isSome := by
        simpa [List.filter_eq_nil_iff, Option.isSome_iff_ne_none] using hempty
      obtain ⟨before, e, after, o, rfl, -, ho, hread⟩ := exists_of_putEntries_error hkeys h
      have hunread := Setting.exists_read_error_iff.mp ⟨f, hread⟩
      rcases Setting.cause_of_read_error hread with ⟨hinfinite, rfl⟩ | ⟨-, rfl⟩
      · exact Or.inr ⟨_, rfl, .infinite List.mem_append_cons_self ho hinfinite⟩
      rcases Failure.about_cases e.2 fun text => .option (o.refusal text) with
        ⟨text, -, habout⟩ | hunwritten
      · exact Or.inl ⟨_, habout⟩
      · obtain ⟨w, hw, hend⟩ := Value.exists_within_of_literal_error hunwritten
        exact Or.inr ⟨_, rfl, .unwritten List.mem_append_cons_self ho hunread hw hend⟩
    next hunknown =>
      rw [Except.error.injEq, unknownKeys] at h
      split at h
      · exact Or.inl ⟨_, h.symm⟩
      next hnone =>
        obtain ⟨key, hkey, hnone⟩ := exists_of_mapM_none hnone
        obtain ⟨e, he, rfl⟩ := List.mem_map.mp (List.mem_filter.mp hkey).1
        exact Or.inr ⟨entries, rfl, h ▸ .key he hnone⟩
  · cases h
    exact Or.inl ⟨_, rfl⟩

end Documents

/-! ### The environment -/

section Environment

variable {environment : List (String × Value)} {s : Settings} {option : Setting} {v : Value}
  {f : Failure}

/-- The entries of the mapping that an environment is read as. -/
def entriesOf (environment : List (String × Value)) : List (Value × Value) :=
  Setting.all.filterMap fun option =>
    (environment.lookup option.environmentName).map fun v => (.text option.name, v)

theorem mem_all (option : Setting) : option ∈ Setting.all := by
  cases option <;> decide

theorem given?_entriesOf (environment : List (String × Value)) (option : Setting) :
    given? (entriesOf environment) option = environment.lookup option.environmentName := by
  rw [entriesOf, given?_filterMap, if_pos (mem_all option)]

/-- The entries are those of the variables that name an option. -/
theorem mem_entriesOf {e : Value × Value} :
    e ∈ entriesOf environment ↔
      ∃ o : Setting, e.1 = .text o.name ∧ environment.lookup o.environmentName = some e.2 := by
  rw [entriesOf, List.mem_filterMap]
  constructor
  · rintro ⟨o, -, ho⟩
    obtain ⟨v, hv, rfl⟩ := Option.map_eq_some_iff.mp ho
    exact ⟨o, rfl, hv⟩
  · rintro ⟨o, hkey, hv⟩
    refine ⟨o, mem_all o, ?_⟩
    rw [hv, ← hkey]
    rfl

/-- **The settings in an environment.** -/
theorem setting?_ofEnvironment (h : ofEnvironment environment = .ok s) (option : Setting) :
    s.arguments.setting? option =
      (environment.lookup option.environmentName).bind option.read? := by
  rw [← given?_entriesOf]
  exact setting?_ofValue h option

/-- **An environment that is refused** has a variable that cannot be read. -/
theorem exists_of_ofEnvironment_error (h : ofEnvironment environment = .error f) :
    ∃ (option : Setting) (v : Value),
      environment.lookup option.environmentName = some v ∧ option.read v = .error f := by
  have hkeys : ∀ e ∈ entriesOf environment, (settingOfKey? e.1).isSome := by
    intro e he
    obtain ⟨o, hkey, -⟩ := mem_entriesOf.mp he
    rw [hkey, settingOfKey?_name]
    rfl
  have hput : empty.putEntries (entriesOf environment) = .error f :=
    (ofValue_of_isSome hkeys).symm.trans h
  obtain ⟨before, e, after, o, heq, -, ho, hread⟩ := exists_of_putEntries_error hkeys hput
  have he : e ∈ entriesOf environment := by
    rw [heq]
    exact List.mem_append_cons_self
  obtain ⟨o', hkey, hv⟩ := mem_entriesOf.mp he
  rw [hkey, settingOfKey?_name, Option.some.injEq] at ho
  exact ⟨o', e.2, hv, ho ▸ hread⟩

/-- **A variable that cannot be read** is enough for an environment to be refused. -/
theorem exists_ofEnvironment_error (hv : environment.lookup option.environmentName = some v)
    (hread : option.read v = .error f) : ∃ g, ofEnvironment environment = .error g := by
  rcases h : ofEnvironment environment with g | s
  · exact ⟨g, rfl⟩
  · have hmem : (.text option.name, v) ∈ entriesOf environment :=
      mem_entriesOf.mpr ⟨option, rfl, hv⟩
    obtain ⟨o, w, hkey, hw⟩ := exists_of_mem (putEntries_of_ofValue h) hmem
    rw [settingOfKey?_name, Option.some.injEq] at hkey
    rw [← hkey, hread] at hw
    cases hw

/-- Nothing else in an environment matters. -/
theorem ofEnvironment_congr {other : List (String × Value)}
    (h : ∀ option : Setting,
      other.lookup option.environmentName = environment.lookup option.environmentName) :
    ofEnvironment other = ofEnvironment environment := by
  simp only [ofEnvironment, h]

end Environment

end Settings

end Brainfuck
