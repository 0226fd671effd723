import Mathlib.Data.List.Perm.Basic
import Brainfuck.Proofs.Settings

/-!
# Which settings are refused

Settings can be read from a mapping whose keys name options and whose values can be read as these
(`Brainfuck.Settings.Admissible`), and from nothing else. Which failure another value meets is
settled by the first of three things that is wrong with it (`Brainfuck.Settings.Refused`): it is no
mapping, it has keys that name no option, or, in the order of its entries, a value that cannot be
read.

Such a failure is an error with a message that shows what is wrong, but for the flaws of a document
(`Brainfuck.Settings.Flaw`). A key that is no text cannot be put into a list of names, an infinite
number has no whole number next to it, and a message cannot show what cannot be written. A document
in a file can have these flaws, whatever the reader of documents; an environment cannot
(`Brainfuck.Settings.screened`).
-/

namespace Brainfuck

namespace Settings

/-! ### Keys -/

/-- **A key that names an option.** -/
def NamesOption (key : Value) : Prop := ∃ option : Setting, key = .text option.name

theorem settingOfKey?_eq_some_iff {key : Value} {option : Setting} :
    settingOfKey? key = some option ↔ key = .text option.name := by
  constructor
  · intro h
    rw [settingOfKey?.eq_def] at h
    split at h
    next s =>
      rw [Setting.ofName?] at h
      have hname := List.find?_some h
      rw [eq_of_beq hname]
    · cases h
  · rintro rfl
    exact settingOfKey?_name option

theorem isSome_settingOfKey?_iff {key : Value} :
    (settingOfKey? key).isSome = true ↔ NamesOption key := by
  rw [Option.isSome_iff_exists]
  exact exists_congr fun option => settingOfKey?_eq_some_iff

instance : DecidablePred NamesOption := fun _ => decidable_of_iff _ isSome_settingOfKey?_iff

/-- The keys of a mapping that name no option. -/
def strangers (entries : List (Value × Value)) : List Value :=
  (entries.map Prod.fst).filter fun key => ¬NamesOption key

section Keys

variable {entries : List (Value × Value)} {keys : List Value} {key : Value} {names : List String}

theorem strangers_eq_nil_iff : strangers entries = [] ↔ ∀ e ∈ entries, NamesOption e.1 := by
  simp only [strangers, List.filter_eq_nil_iff, List.mem_map, decide_not, Bool.not_eq_true',
    decide_eq_false_iff_not, not_not, forall_exists_index, and_imp, forall_apply_eq_imp_iff₂]

/-- A key that is no text names no option. -/
theorem mem_strangers {e : Value × Value} (he : e ∈ entries) (htext : ∀ s, e.1 ≠ .text s) :
    e.1 ∈ strangers entries := by
  have hnames : ¬NamesOption e.1 := fun ⟨option, hkey⟩ => htext option.name hkey
  exact List.mem_filter.mpr ⟨List.mem_map_of_mem he, decide_eq_true hnames⟩

/-- The values are looked at only if all keys name options. -/
theorem ofValue_mapping (entries : List (Value × Value)) :
    ofValue (.mapping entries) =
      if strangers entries = [] then empty.putEntries entries
      else .error (unknownKeys (strangers entries)) := by
  have hstrangers : (entries.map Prod.fst).filter (fun key => (settingOfKey? key).isNone) =
      strangers entries := by
    refine List.filter_congr fun key _ => ?_
    rw [← Option.not_isSome, Bool.eq_iff_iff, Bool.not_eq_true', ← Bool.not_eq_true,
      isSome_settingOfKey?_iff, decide_eq_true_iff]
  simp only [ofValue, hstrangers, List.isEmpty_iff]

/-- Keys can be listed if they are texts. -/
theorem mapM_textOfKey?_eq_some_iff :
    keys.mapM textOfKey? = some names ↔ keys = names.map .text := by
  constructor
  · intro h
    induction keys generalizing names with
    | nil =>
      cases h
      rfl
    | cons key keys ih =>
      rw [List.mapM_cons] at h
      obtain ⟨s, hs, h⟩ := Option.bind_eq_some_iff.mp h
      obtain ⟨rest, hrest, h⟩ := Option.bind_eq_some_iff.mp h
      cases h
      rw [textOfKey?.eq_def] at hs
      split at hs <;> cases hs
      rw [ih hrest, List.map_cons]
  · rintro rfl
    induction names with
    | nil => rfl
    | cons s names ih =>
      rw [List.map_cons, List.mapM_cons, ih]
      rfl

/-- A key that is no text cannot be listed. -/
theorem unknownKeys_of_ne (hkey : key ∈ keys) (htext : ∀ s, key ≠ .text s) :
    unknownKeys keys = .wrongKind := by
  rcases hnames : keys.mapM textOfKey? with _ | names
  · rw [unknownKeys, hnames]
  · obtain rfl := mapM_textOfKey?_eq_some_iff.mp hnames
    obtain ⟨s, -, hs⟩ := List.mem_map.mp hkey
    exact absurd hs.symm (htext s)

theorem sorted_mergeSort (names : List String) :
    (names.mergeSort fun a b => decide (a ≤ b)).Pairwise (· ≤ ·) := by
  have h := @List.pairwise_mergeSort _ (fun a b : String => decide (a ≤ b))
    (fun a b c hab hbc => decide_eq_true
      (String.le_trans (of_decide_eq_true hab) (of_decide_eq_true hbc)))
    (fun a b => by simpa using String.le_total a b) names
  exact h.imp of_decide_eq_true

/-- **Keys that are texts are listed in order.** -/
theorem unknownKeys_of_perm (hsorted : names.Pairwise (· ≤ ·))
    (hperm : keys.Perm (names.map .text)) : unknownKeys keys = .option (.unknown names) := by
  rcases hlisted : keys.mapM textOfKey? with _ | listed
  · obtain ⟨key, hkey, hnone⟩ := exists_of_mapM_none hlisted
    obtain ⟨s, -, rfl⟩ := List.mem_map.mp (hperm.mem_iff.mp hkey)
    cases hnone
  · rw [mapM_textOfKey?_eq_some_iff.mp hlisted,
      List.map_perm_map_iff fun _ _ => Value.text.inj] at hperm
    have heq := List.Perm.eq_of_pairwise (fun _ _ _ _ => String.le_antisymm)
      (sorted_mergeSort listed) hsorted ((List.mergeSort_perm listed _).trans hperm)
    rw [unknownKeys, hlisted, ← heq]

end Keys

/-! ### Values -/

/-- **An entry that sets an option.** -/
def Fits (e : Value × Value) : Prop :=
  ∃ (option : Setting) (w : Value), e.1 = .text option.name ∧ option.Reads e.2 w

/-- **What settings can be read from**: a mapping all of whose entries set options. -/
def Admissible (v : Value) : Prop := ∃ entries, v = .mapping entries ∧ ∀ e ∈ entries, Fits e

/-- **The first value of a mapping that cannot be read**, where all keys name options. -/
structure Misfit (entries : List (Value × Value)) (option : Setting) (v : Value) : Prop where
  /-- All keys name options. -/
  keys : ∀ e ∈ entries, NamesOption e.1
  /-- The entries before the first one set options. -/
  first : ∃ before after, entries = before ++ (.text option.name, v) :: after ∧
    ∀ e ∈ before, Fits e
  /-- It cannot be read. -/
  unread : ∀ w, ¬option.Reads v w

/-- **Why a value is refused.** -/
inductive Refused : Value → Failure → Prop
  /-- It is no mapping. -/
  | notMapping {v : Value} : (∀ entries, v ≠ .mapping entries) → Refused v (.option .notMapping)
  /-- It has keys that name no option. They are listed in order. -/
  | unknown {entries : List (Value × Value)} {names : List String} : names ≠ [] →
    names.Pairwise (· ≤ ·) → (strangers entries).Perm (names.map .text) →
    Refused (.mapping entries) (.option (.unknown names))
  /-- It has a key that is no text. -/
  | key {entries : List (Value × Value)} {e : Value × Value} : e ∈ entries →
    (∀ s, e.1 ≠ .text s) → Refused (.mapping entries) .wrongKind
  /-- It has a value that cannot be read. The first such value is shown. -/
  | value {entries : List (Value × Value)} {option : Setting} {v : Value} {text : String} :
    Misfit entries option v → ¬Infinite option v → v.literal = .ok text →
    Refused (.mapping entries) (.option (option.refusal text))
  /-- The first value that cannot be read cannot be written, either. -/
  | unwritten {entries : List (Value × Value)} {option : Setting} {v : Value} {f : Failure} :
    Misfit entries option v → v.literal = .error f → Refused (.mapping entries) f
  /-- The first value that cannot be read is infinite. -/
  | infinite {entries : List (Value × Value)} {option : Setting} {v : Value} :
    Misfit entries option v → Infinite option v → Refused (.mapping entries) .tooLarge

section Values

variable {s t : Settings} {entries before after : List (Value × Value)} {e : Value × Value}
  {option : Setting} {v : Value} {f : Failure}

theorem fits_of_read {w : Value} (hkey : settingOfKey? e.1 = some option)
    (hread : option.read e.2 = .ok w) : Fits e :=
  ⟨option, w, settingOfKey?_eq_some_iff.mp hkey, Setting.read_eq_ok_iff.mp hread⟩

theorem Fits.namesOption (h : Fits e) : NamesOption e.1 := by
  obtain ⟨option, w, hkey, -⟩ := h
  exact ⟨option, hkey⟩

/-- Options that cannot be set are found in the order of the entries. -/
theorem misfit_of_putEntries_error (hkeys : ∀ e ∈ entries, NamesOption e.1)
    (h : s.putEntries entries = .error f) :
    ∃ option v, Misfit entries option v ∧ option.read v = .error f := by
  obtain ⟨before, ⟨key, v⟩, after, option, rfl, hbefore, hkey, hread⟩ :=
    exists_of_putEntries_error (fun e he => isSome_settingOfKey?_iff.mpr (hkeys e he)) h
  obtain rfl : key = .text option.name := settingOfKey?_eq_some_iff.mp hkey
  refine ⟨option, v, ⟨hkeys, ⟨before, after, rfl, fun e he => ?_⟩, ?_⟩, hread⟩
  · obtain ⟨o, w, ho, hw⟩ := hbefore e he
    exact fits_of_read ho hw
  · exact Setting.exists_read_error_iff.mp ⟨f, hread⟩

/-- **Entries that set options can be set.** -/
theorem exists_putEntries (h : ∀ e ∈ entries, Fits e) (s : Settings) :
    ∃ t, s.putEntries entries = .ok t := by
  rcases hput : s.putEntries entries with f | t
  · obtain ⟨option, v, hmisfit, -⟩ :=
      misfit_of_putEntries_error (fun e he => (h e he).namesOption) hput
    obtain ⟨before, after, rfl, -⟩ := hmisfit.first
    obtain ⟨option', w, hkey, hw⟩ := h _ List.mem_append_cons_self
    rw [← settingOfKey?_eq_some_iff, settingOfKey?_name] at hkey
    cases hkey
    exact absurd hw (hmisfit.unread w)
  · exact ⟨t, rfl⟩

theorem putEntries_append (s : Settings) (before after : List (Value × Value)) :
    s.putEntries (before ++ after) = (do (← s.putEntries before).putEntries after) := by
  induction before generalizing s with
  | nil => rfl
  | cons e before ih =>
    rw [List.cons_append, putEntries, putEntries]
    rcases settingOfKey? e.1 with _ | o
    · rfl
    · change (s.put o e.2 >>= fun u => u.putEntries (before ++ after)) = _
      rw [bind_assoc]
      exact bind_congr ih

/-- **The first value that cannot be read decides.** -/
theorem Misfit.ofValue_eq (h : Misfit entries option v) (hread : option.read v = .error f) :
    ofValue (.mapping entries) = .error f := by
  rw [ofValue_mapping, if_pos (strangers_eq_nil_iff.mpr h.keys)]
  obtain ⟨before, after, rfl, hbefore⟩ := h.first
  obtain ⟨t, ht⟩ := exists_putEntries hbefore empty
  have hput : t.put option v = .error f := put_eq_error_iff.mpr hread
  rw [putEntries_append, ht]
  change t.putEntries _ = _
  rw [putEntries, settingOfKey?_name]
  change (t.put option v >>= _) = _
  rw [hput]
  rfl

/-! ### Mappings -/

/-- **Settings can be read from what is admissible**, and from nothing else. -/
theorem exists_ofValue_iff : (∃ s, ofValue v = .ok s) ↔ Admissible v := by
  constructor
  · rintro ⟨s, h⟩
    rw [ofValue.eq_def] at h
    split at h
    next entries =>
      refine ⟨entries, rfl, fun e he => ?_⟩
      obtain ⟨o, w, hkey, hw⟩ := exists_of_mem (putEntries_of_ofValue h) he
      exact fits_of_read hkey hw
    · cases h
  · rintro ⟨entries, rfl, hfits⟩
    have hkeys : strangers entries = [] :=
      strangers_eq_nil_iff.mpr fun e he => (hfits e he).namesOption
    rw [ofValue_mapping, if_pos hkeys]
    exact exists_putEntries hfits empty

theorem refused_of_ofValue_error (h : ofValue v = .error f) : Refused v f := by
  by_cases hmapping : ∃ entries, v = .mapping entries
  · obtain ⟨entries, rfl⟩ := hmapping
    rw [ofValue_mapping] at h
    by_cases hkeys : strangers entries = []
    · rw [if_pos hkeys] at h
      obtain ⟨option, v, hmisfit, hread⟩ :=
        misfit_of_putEntries_error (strangers_eq_nil_iff.mp hkeys) h
      rcases Setting.cause_of_read_error hread with ⟨hinfinite, rfl⟩ | ⟨hfinite, rfl⟩
      · exact .infinite hmisfit hinfinite
      rcases Failure.about_cases v fun text => .option (option.refusal text) with
        ⟨text, htext, habout⟩ | hunwritten
      · rw [habout]
        exact .value hmisfit hfinite htext
      · exact .unwritten hmisfit hunwritten
    · rw [if_neg hkeys, Except.error.injEq, unknownKeys] at h
      rcases hnames : (strangers entries).mapM textOfKey? with _ | names <;> rw [hnames] at h <;>
        subst h
      · obtain ⟨key, hkey, hnone⟩ := exists_of_mapM_none hnames
        obtain ⟨e, he, rfl⟩ := List.mem_map.mp (List.mem_filter.mp hkey).1
        refine .key he fun s hs => ?_
        rw [hs] at hnone
        cases hnone
      · have heq := mapM_textOfKey?_eq_some_iff.mp hnames
        have hperm := List.mergeSort_perm names fun a b => decide (a ≤ b)
        refine .unknown ?_ (sorted_mergeSort names) ?_
        · intro hnil
          rw [hnil, List.nil_perm] at hperm
          exact hkeys (by rw [heq, hperm, List.map_nil])
        · rw [heq]
          exact (hperm.map _).symm
  · rw [ofValue.eq_def] at h
    split at h
    · exact absurd ⟨_, rfl⟩ hmapping
    · cases h
      exact .notMapping fun entries hv => hmapping ⟨entries, hv⟩

/-- **The failure that a value meets.** -/
theorem ofValue_eq_error_iff : ofValue v = .error f ↔ Refused v f := by
  refine ⟨refused_of_ofValue_error, fun h => ?_⟩
  cases h with
  | notMapping hmapping =>
    rw [ofValue.eq_def]
    split
    · exact absurd rfl (hmapping _)
    · rfl
  | unknown hnames hsorted hperm =>
    rw [ofValue_mapping, if_neg, unknownKeys_of_perm hsorted hperm]
    intro hnil
    rw [hnil, List.nil_perm, List.map_eq_nil_iff] at hperm
    exact hnames hperm
  | key he htext =>
    have hmem := mem_strangers he htext
    rw [ofValue_mapping, if_neg (List.ne_nil_of_mem hmem), unknownKeys_of_ne hmem htext]
  | value hmisfit hfinite htext =>
    obtain ⟨g, hread⟩ := Setting.exists_read_error_iff.mpr hmisfit.unread
    rcases Setting.cause_of_read_error hread with ⟨hinfinite, -⟩ | ⟨-, rfl⟩
    · exact absurd hinfinite hfinite
    · rw [hmisfit.ofValue_eq hread, Failure.about_of_literal htext]
  | unwritten hmisfit hunwritten =>
    obtain ⟨g, hread⟩ := Setting.exists_read_error_iff.mpr hmisfit.unread
    rcases Setting.cause_of_read_error hread with ⟨hinfinite, -⟩ | ⟨-, rfl⟩
    -- an infinite number can be written
    · obtain ⟨x, negative, rfl, -⟩ := hinfinite.infinite
      cases hunwritten
    · rw [hmisfit.ofValue_eq hread, Failure.about_of_literal_error hunwritten]
  | infinite hmisfit hinfinite =>
    obtain ⟨g, hread⟩ := Setting.exists_read_error_iff.mpr hmisfit.unread
    rcases Setting.cause_of_read_error hread with ⟨-, rfl⟩ | ⟨hfinite, -⟩
    · exact hmisfit.ofValue_eq hread
    · exact absurd hinfinite hfinite

end Values

/-! ### Environments -/

/-- The settings in an environment, in which all values are texts. -/
def ofVariables (environment : List (String × String)) : Except Failure Settings :=
  ofEnvironment (environment.map fun x => (x.1, .text x.2))

section Variables

variable {environment : List (String × String)} {s : Settings} {option : Setting} {text : String}
  {f : Failure}

/-- **A variable is read** as the value of its option. -/
theorem reads_of_ofVariables (h : ofVariables environment = .ok s)
    (htext : environment.lookup option.environmentName = some text) :
    ∃ w, option.Reads (.text text) w ∧ s.arguments.setting? option = some w := by
  have hlookup : (environment.map fun x => (x.1, Value.text x.2)).lookup option.environmentName =
      some (.text text) := by
    rw [lookup_mapSnd, htext]
    rfl
  rcases hread : option.read (.text text) with f | w
  · obtain ⟨g, hg⟩ := exists_ofEnvironment_error hlookup hread
    cases hg.symm.trans h
  · refine ⟨w, Setting.read_eq_ok_iff.mp hread, ?_⟩
    rw [setting?_ofEnvironment h, hlookup, Option.bind_some, Setting.read?, hread]
    rfl

/-- An option without a variable is not set. -/
theorem setting?_eq_none_of_ofVariables (h : ofVariables environment = .ok s)
    (hnone : environment.lookup option.environmentName = none) :
    s.arguments.setting? option = none := by
  rw [setting?_ofEnvironment h, lookup_mapSnd, hnone]
  rfl

/-- **An environment that is refused** has a variable that cannot be read. -/
theorem exists_of_ofVariables_error (h : ofVariables environment = .error f) :
    ∃ (option : Setting) (text : String),
      environment.lookup option.environmentName = some text ∧
        (∀ w, ¬option.Reads (.text text) w) ∧
        f = .option (option.refusal (Text.quoted text)) := by
  obtain ⟨option, v, hv, hread⟩ := exists_of_ofEnvironment_error h
  rw [lookup_mapSnd] at hv
  obtain ⟨text, htext, rfl⟩ := Option.map_eq_some_iff.mp hv
  exact ⟨option, text, htext, Setting.exists_read_error_iff.mp ⟨f, hread⟩,
    Setting.eq_of_read_text_error hread⟩

end Variables

/-! ### Wherever settings come from -/

/-- **What becomes of a value** that settings are read from. -/
structure Screened (v : Value) (result : Except Failure Settings) : Prop where
  /-- They can be read from what is admissible. -/
  accepted : (∃ s, result = .ok s) ↔ Admissible v
  /-- Everything else is refused, for one reason. -/
  refused : ∀ f, result = .error f ↔ Refused v f
  /-- The reason is an error with a message, unless the value is a flawed mapping. -/
  told : ∀ f, result = .error f →
    (∃ e, f = .option e) ∨ ∃ entries, v = .mapping entries ∧ Flaw entries f

/-- **What becomes of an environment.** -/
structure ScreenedVariables (environment : List (String × String))
    (result : Except Failure Settings) : Prop where
  /-- Settings can be read if all variables for options can be read. -/
  accepted : (∃ s, result = .ok s) ↔ ∀ (option : Setting) (text : String),
    environment.lookup option.environmentName = some text → ∃ w, option.Reads (.text text) w
  /-- Otherwise one of those that cannot be read is shown in a message. -/
  refused : ∀ f, result = .error f → ∃ (option : Setting) (text : String),
    environment.lookup option.environmentName = some text ∧
      (∀ w, ¬option.Reads (.text text) w) ∧ f = .option (option.refusal (Text.quoted text))

theorem screened_ofValue (v : Value) : Screened v (ofValue v) :=
  ⟨exists_ofValue_iff, fun _ => ofValue_eq_error_iff, fun _ => exists_of_ofValue_error⟩

theorem screenedVariables_ofVariables (environment : List (String × String)) :
    ScreenedVariables environment (ofVariables environment) where
  accepted := by
    constructor
    · rintro ⟨s, hs⟩ option text htext
      obtain ⟨w, hw, -⟩ := reads_of_ofVariables hs htext
      exact ⟨w, hw⟩
    · intro h
      rcases hresult : ofVariables environment with f | s
      · obtain ⟨option, text, htext, hunread, -⟩ := exists_of_ofVariables_error hresult
        obtain ⟨w, hw⟩ := h option text htext
        exact absurd hw (hunread w)
      · exact ⟨s, rfl⟩
  refused _ := exists_of_ofVariables_error

/-- The settings in a file that holds a document with a value. -/
theorem ofFile_eq {read : Reader} {name text : String} {entry : FileEntry} {v : Value}
    (htext : entry.read? name = .ok text) (hv : read text = .ok v) (hnull : v ≠ .null) :
    ofFile read name entry = ofValue v := by
  rw [ofFile, htext]
  change ofDocument read text = _
  rw [ofDocument, hv]
  cases v with
  | null => exact absurd rfl hnull
  | bool | int | float | text | bytes | date | moment | list | pair | set | mapping | again
  | deep => rfl

/-- **Whether settings are accepted or refused, and how**: those from a value, those from an
environment, and those from a file that holds a document. A document without a value sets
nothing. -/
theorem screened (v : Value) (environment : List (String × String)) (read : Reader) (name : String)
    (entry : FileEntry) :
    Screened v (ofValue v) ∧ ScreenedVariables environment (ofVariables environment) ∧
      ∀ (text : String) (w : Value), entry.read? name = .ok text → read text = .ok w →
        (w = .null → ofFile read name entry = .ok empty) ∧
          (w ≠ .null → Screened w (ofFile read name entry)) := by
  refine ⟨screened_ofValue v, screenedVariables_ofVariables environment, ?_⟩
  intro text w htext hw
  constructor
  · rintro rfl
    rw [ofFile, htext]
    change ofDocument read text = _
    rw [ofDocument, hw]
    rfl
  · intro hnull
    rw [ofFile_eq htext hw hnull]
    exact screened_ofValue w

/-- **Flaws**: an infinite length, an infinite bound, keys that are no texts, alone or beside
others, and a number that is no truth value and too long to be shown. -/
theorem ofValue_flawed :
    ofValue (.mapping [(.text "tape_length", .float (1.0 / 0.0))]) = .error .tooLarge ∧
      ofValue (.mapping [(.text "max_iterations", .float (-1.0 / 0.0))]) = .error .tooLarge ∧
      ofValue (.mapping [(.int 1, .int 2)]) = .error .wrongKind ∧
      ofValue (.mapping [(.text "size", .int 1), (.bool true, .int 2)]) = .error .wrongKind ∧
      ofValue (.mapping [(.text "optimize", .int (Int.pow 16 3600))]) = .error .badValue := by
  have hlong : Decimal.numeralLimit ≤ (Int.pow 16 3600).natAbs := by decide +kernel
  refine ⟨rfl, rfl, rfl, rfl, ?_⟩
  exact congrArg Except.error (Failure.about_int_of_le hlong)

end Settings

end Brainfuck
