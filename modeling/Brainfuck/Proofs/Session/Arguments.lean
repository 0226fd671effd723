import Brainfuck.Proofs.Session.Operation
import Brainfuck.Proofs.Session.Run

/-!
# What the arguments of a session mean

A session can be made from arguments exactly if each of them means something
(`Brainfuck.Arguments.Means`). The session is then the idle one with these options, and the
program text is loaded into it as into any other session
(`Brainfuck.Arguments.Means.ofArguments`).
-/

namespace Brainfuck

section Memory

variable [Memory] {length : TapeLength} {f : Failure}

/-- There is a tape of every length that there is room for, and it is blank. -/
theorem Tape.eq_blank_of_blank? {t : Tape} (h : Tape.blank? length = .ok t) :
    t = .blank length := by
  rw [Tape.blank?] at h
  split at h
  · cases h
    rfl
  · cases h

theorem Tape.blank?_of_room (h : Memory.refusal? length = none) :
    Tape.blank? length = .ok (.blank length) := by
  rw [Tape.blank?, h]

theorem Tape.blank?_error (h : Tape.blank? length = .error f) :
    f = .outOfMemory ∨ f = .badValue := by
  rw [Tape.blank?] at h
  split at h
  next => cases h
  next hrefused =>
    cases h
    exact Memory.refusal_cases hrefused

theorem Tape.isReported_of_blank? (h : Tape.blank? length = .error f) : f.isReported = false := by
  rcases Tape.blank?_error h with rfl | rfl <;> rfl

end Memory

theorem Input.isReported_of_toSource {i : Input} {f : Failure} (h : i.toSource = .error f) :
    f.isReported = false := by
  rw [Input.toSource.eq_def] at h
  split at h
  · cases h
  · cases h
  split at h
  · cases h
  · rw [Data.toBytes] at h
    split at h <;> cases h
    rfl
  · cases h
  · cases h
    rfl

theorem TapeLength.ofValue_val (length : TapeLength) : ofValue (.int length.val) = .ok length := by
  have hpos : (0 : Int) < length.val := Int.natCast_pos.mpr length.pos
  rw [ofValue, dif_pos hpos]
  rfl

theorem EndMode.ofValue_name (mode : EndMode) : ofValue (.text mode.name) = .ok mode := by
  have h : ofName? mode.name = some mode := by cases mode <;> decide
  rw [ofValue, h]

/-- A positive whole number bounds the steps by itself. -/
theorem Cap.ofValue_natCast {limit : Nat} (hpos : 1 ≤ limit) :
    ofValue (.int limit) = .ok (some ⟨.int limit, some limit⟩) := by
  have hlt : (0 : Int) < limit := Int.natCast_pos.mpr hpos
  have htruthy : (Value.int limit).isTruthy = true := bne_iff_ne.mpr (Int.ne_of_gt hlt)
  simp only [ofValue, htruthy, Bool.not_true, Bool.false_eq_true, if_false, if_pos hlt,
    Int.toNat_natCast]

namespace Arguments

theorem checkNames_of_unknown {a : Arguments} (h : a.unknown = []) : a.checkNames = .ok () := by
  rw [checkNames, h]
  rfl

theorem unknown_of_checkNames {a : Arguments} {u : Unit} (h : a.checkNames = .ok u) :
    a.unknown = [] := by
  rw [checkNames] at h
  split at h
  next hempty => exact List.isEmpty_iff.mp hempty
  · cases h

/-- **What arguments mean**, the program text and the optimization apart. -/
structure Means [Memory] (a : Arguments) (length : TapeLength) (cap : Option Cap) (mode : EndMode)
    (input : Source) (output : Sink) : Prop where
  /-- All options that are named exist. -/
  unknown : a.unknown = []
  /-- What to do at the end of the input. -/
  eof : EndMode.ofValue a.eofValue = .ok mode
  /-- The length of the tape. -/
  tapeLength : TapeLength.ofValue a.tapeLengthValue = .ok length
  /-- There can be a tape that long. -/
  tape : Tape.blank? length = .ok (.blank length)
  /-- The bound on the number of steps. -/
  cap : Cap.ofValue a.maxIterationsValue = .ok cap
  /-- Where input comes from. -/
  input : a.inputValue.toSource = .ok input
  /-- Where output goes to. -/
  output : a.outputValue.toSink = .ok output

section Means

variable [Memory] {a : Arguments} {length : TapeLength} {cap : Option Cap} {mode : EndMode}
  {input : Source} {output : Sink}

/-- **The session that arguments ask for** is the idle one with these options and the program. -/
theorem Means.ofArguments (h : a.Means length cap mode input output) :
    Session.ofArguments a = Failure.resolve ((Session.idle (.blank length) cap input output
      mode).loadValue a.sourceValue a.optimizeValue) := by
  simp only [Session.ofArguments, checkNames_of_unknown h.unknown, h.eof, h.tapeLength, h.tape,
    h.cap, h.input, h.output, bind, Except.bind]

/-- **Only arguments that mean something make a session.** -/
theorem exists_means {s : Session} (h : Session.ofArguments a = .ok s) :
    ∃ length cap mode input output, a.Means length cap mode input output ∧
      (Session.idle (.blank length) cap input output mode).loadValue a.sourceValue
        a.optimizeValue = (none, s) := by
  obtain ⟨_, hnames, h⟩ := exists_of_bind h
  obtain ⟨mode, hmode, h⟩ := exists_of_bind h
  obtain ⟨length, hlength, h⟩ := exists_of_bind h
  obtain ⟨tape, htape, h⟩ := exists_of_bind h
  obtain ⟨cap, hcap, h⟩ := exists_of_bind h
  obtain ⟨input, hinput, h⟩ := exists_of_bind h
  obtain ⟨output, houtput, h⟩ := exists_of_bind h
  obtain rfl := Tape.eq_blank_of_blank? htape
  exact ⟨length, cap, mode, input, output,
    ⟨unknown_of_checkNames hnames, hmode, hlength, htape, hcap, hinput, houtput⟩,
    Failure.eq_of_resolve h⟩

/-- No session is made if there can be no tape that long. -/
theorem ofArguments_of_blank?_error {f : Failure} (hunknown : a.unknown = [])
    (heof : EndMode.ofValue a.eofValue = .ok mode)
    (hlength : TapeLength.ofValue a.tapeLengthValue = .ok length)
    (htape : Tape.blank? length = .error f) : Session.ofArguments a = .error f := by
  simp only [Session.ofArguments, checkNames_of_unknown hunknown, heof, hlength, htape, bind,
    Except.bind]

/-- **Why a session cannot be made** although its options mean something: there may be no tape that
long, and the input may be of no use. -/
theorem cause_of_ofArguments {commands : List Command} {f : Failure}
    (hunknown : a.unknown = []) (heof : EndMode.ofValue a.eofValue = .ok mode)
    (hlength : TapeLength.ofValue a.tapeLengthValue = .ok length)
    (hcap : Cap.ofValue a.maxIterationsValue = .ok cap)
    (houtput : a.outputValue.toSink = .ok output)
    (hsource : commandsOfValue a.sourceValue = .ok commands)
    (h : Session.ofArguments a = .error f) :
    Tape.blank? length = .error f ∨ a.inputValue.toSource = .error f := by
  simp only [Session.ofArguments, checkNames_of_unknown hunknown, heof, hlength, bind,
    Except.bind] at h
  rcases htape : Tape.blank? length with g | tape <;> rw [htape] at h
  · cases h
    exact Or.inl rfl
  simp only [hcap] at h
  rcases hinput : a.inputValue.toSource with g | input <;> rw [hinput] at h
  · cases h
    exact Or.inr rfl
  · simp only [houtput, Session.loadValue, hsource, Failure.resolve] at h
    cases h

/-- **No such failure is reported.** -/
theorem isReported_of_ofArguments {commands : List Command} {f : Failure}
    (hunknown : a.unknown = []) (heof : EndMode.ofValue a.eofValue = .ok mode)
    (hlength : TapeLength.ofValue a.tapeLengthValue = .ok length)
    (hcap : Cap.ofValue a.maxIterationsValue = .ok cap)
    (houtput : a.outputValue.toSink = .ok output)
    (hsource : commandsOfValue a.sourceValue = .ok commands)
    (h : Session.ofArguments a = .error f) : f.isReported = false := by
  rcases cause_of_ofArguments hunknown heof hlength hcap houtput hsource h with htape | hinput
  · exact Tape.isReported_of_blank? htape
  · exact Input.isReported_of_toSource hinput

/-- **Arguments that stand for the same** ask for the same session, and are refused alike. -/
theorem ofArguments_congr {b : Arguments} (hnames : a.checkNames = b.checkNames)
    (heof : EndMode.ofValue a.eofValue = EndMode.ofValue b.eofValue)
    (hlength : TapeLength.ofValue a.tapeLengthValue = TapeLength.ofValue b.tapeLengthValue)
    (hcap : Cap.ofValue a.maxIterationsValue = Cap.ofValue b.maxIterationsValue)
    (hinput : a.inputValue.toSource = b.inputValue.toSource)
    (houtput : a.outputValue.toSink = b.outputValue.toSink)
    (hsource : commandsOfValue a.sourceValue = commandsOfValue b.sourceValue)
    (hoptimize : a.optimizeValue = b.optimizeValue) :
    Session.ofArguments a = Session.ofArguments b := by
  simp only [Session.ofArguments, Session.loadValue, hnames, heof, hlength, hcap, hinput, houtput,
    hsource, hoptimize]

end Means

end Arguments

/-! ### The sink that is asked for -/

namespace Session

/-- A change to a session that loading does not get in the way of. -/
theorem resolve_loadValue_comm {g : Session → Session} {s : Session} {optimize : Value}
    (h : ∀ commands, (g s).load commands optimize = g (s.load commands optimize))
    (source : Value) :
    Failure.resolve ((g s).loadValue source optimize) =
      g <$> Failure.resolve (s.loadValue source optimize) := by
  rw [loadValue, loadValue]
  rcases commandsOfValue source with f | commands
  · rfl
  · exact congrArg Except.ok (h commands)

theorem load_output (s : Session) (commands : List Command) (optimize : Value) (output : Sink) :
    load { s with output } commands optimize = { s.load commands optimize with output } := by
  rw [load, load]
  split <;> rfl

/-- **Sessions that are asked for with other sinks** differ in nothing else. -/
theorem ofArguments_sink [Memory] (a : Arguments) (sink output : Sink) :
    ofArguments { a with output := some (.sink output) } =
      (fun s => { s with output }) <$> ofArguments { a with output := some (.sink sink) } := by
  simp only [ofArguments, map_bind]
  refine bind_congr fun _ => bind_congr fun mode => bind_congr fun length => bind_congr fun tape =>
    bind_congr fun cap => bind_congr fun input => ?_
  exact resolve_loadValue_comm (g := fun s => { s with output })
    (s := .idle tape cap input sink mode) (fun commands => load_output _ commands _ output)
    a.sourceValue

theorem output_of_ofArguments [Memory] {a : Arguments} {s : Session} {sink : Sink}
    (h : ofArguments { a with output := some (.sink sink) } = .ok s) : s.output = sink := by
  have hsame := ofArguments_sink a sink sink
  rw [h] at hsame
  exact congrArg Session.output (Except.ok.inj hsame)

/-! ### The bound that is asked for -/

theorem load_cap (s : Session) (commands : List Command) (optimize : Value) (cap : Option Cap) :
    load { s with cap } commands optimize = { s.load commands optimize with cap } := by
  rw [load, load]
  split <;> rfl

/-- **Without the bound on its steps** that is asked for, a session differs in nothing else. -/
theorem ofArguments_uncapped [Memory] {a : Arguments} {cap : Option Cap}
    (h : Cap.ofValue a.maxIterationsValue = .ok cap) :
    ofArguments { a with maxIterations := none } =
      (fun s => { s with cap := none }) <$> ofArguments a := by
  simp only [ofArguments, map_bind]
  refine bind_congr fun _ => bind_congr fun mode => bind_congr fun length =>
    bind_congr fun tape => ?_
  -- both bounds can be read, so that neither session is refused for its bound
  rw [h]
  refine bind_congr (x := a.inputValue.toSource) fun input => bind_congr fun output => ?_
  exact resolve_loadValue_comm (g := fun s => { s with cap := none })
    (s := .idle tape cap input output mode) (fun commands => load_cap _ commands _ none)
    a.sourceValue

end Session

/-! ### Fresh sessions -/

section Fresh

variable [Memory] {a : Arguments} {source : String} {optimize : Bool} {length : TapeLength}
  {cap : Option Cap} {mode : EndMode} {input : List UInt8} {output : Sink}

/-- With its input in memory, the session that is asked for is the fresh one. -/
theorem Arguments.Means.ofArguments_fresh
    (h : a.Means length cap mode (.buffer (.ofList input)) output)
    (hsource : a.sourceValue = .text source) (hoptimize : a.optimizeValue = .bool optimize) :
    Session.ofArguments a =
      .ok (Session.fresh (Command.ofText source) optimize length cap mode input output) := by
  rw [h.ofArguments, hsource, hoptimize]
  rfl

/-- The session that is asked for with these options is the fresh one, if there is room for
its tape. -/
theorem Session.ofArguments_fresh (source : String) (optimize : Bool) (length : TapeLength)
    (hroom : Memory.refusal? length = none) (mode : EndMode) (input : List UInt8)
    (output : Sink) :
    ofArguments
        { source := some (.text source), tapeLength := some (.int length.val),
          optimize := some (.bool optimize), maxIterations := none,
          input := some (.source (.buffer (.ofList input))), output := some (.sink output),
          eof := some (.text mode.name), unknown := [] } =
      .ok (fresh (Command.ofText source) optimize length none mode input output) := by
  have htape := Tape.blank?_of_room hroom
  exact Arguments.Means.ofArguments_fresh
    ⟨rfl, EndMode.ofValue_name mode, TapeLength.ofValue_val length, htape, rfl, rfl, rfl⟩ rfl rfl

end Fresh

end Brainfuck
