import Brainfuck.Proofs.Endpoints

/-!
# The source in memory is a queue

A source in memory is read and fed in any order (`Brainfuck.Source.Call`), and both may come to
nothing: a read finds no byte, and data to be fed may stand for no bytes. Feeding forgets the bytes
that have been read, so that the place of a byte in memory moves all the time. What stays is the
sequence: the bytes that were read so far and then those that are left are the bytes that there were
at first and then those that were fed. One call keeps it (`Brainfuck.Source.exists_buffer_apply`),
and so does a history (`Brainfuck.Source.exists_buffer_applyAll`).

Together with the laws of the next call this tells everything about the source
(`Brainfuck.Source.exists_queued`). The end of a source in memory is not final: a read that finds
nothing changes nothing, and the next read after a feeding gets the first byte that was fed.
-/

namespace Brainfuck

namespace Source

/-- Something that is done with a source in memory. -/
inductive Call where
  /-- Read a byte. -/
  | read
  /-- Feed data. -/
  | feed (data : Data)

/-- The bytes that a call puts into a source. Data that stand for no bytes put none into it. -/
def Call.bytesFed : Call → List UInt8
  | read => []
  | feed data =>
    match data.toBytes with
    | .ok bytes => bytes
    | .error _ => []

/-- What a call is answered with: a read with a byte, if there is one, and feeding with nothing. -/
def answer (s : Source) : Call → Except Failure (Option UInt8)
  | .read => s.read.1
  | .feed data =>
    match (s.feed data).1 with
    | some failure => .error failure
    | .none => .ok .none

/-- The source after a call, whether that has failed or not. -/
def apply (s : Source) : Call → Source
  | .read => s.read.2
  | .feed data => (s.feed data).2

/-- The source after a history of calls. -/
def applyAll (s : Source) (calls : List Call) : Source := calls.foldl apply s

/-- The byte that a call gets from a source. -/
def bytesGot (s : Source) : Call → List UInt8
  | .read =>
    match s.read.1 with
    | .ok (some byte) => [byte]
    | _ => []
  | .feed _ => []

/-- The bytes that the calls of a history get, in order. -/
def bytesRead (s : Source) : List Call → List UInt8
  | [] => []
  | c :: calls => s.bytesGot c ++ (s.apply c).bytesRead calls

/-! ### One call -/

section Call

variable {b : Buffer} {data : Data} {bytes : List UInt8}

/-- **One call keeps the sequence**: what it gets and what is left then are what was left before and
what it puts in. -/
theorem exists_buffer_apply (b : Buffer) (c : Call) :
    ∃ b', (buffer b).apply c = buffer b' ∧
      (buffer b).bytesGot c ++ b'.unread = b.unread ++ c.bytesFed := by
  cases c with
  | read =>
    rw [Call.bytesFed, List.append_nil]
    rcases hleft : b.unread with _ | ⟨byte, rest⟩
    · have hread := Buffer.read_of_unread_nil hleft
      refine ⟨b, by rw [apply, read, hread], ?_⟩
      rw [bytesGot, read, hread]
      exact hleft
    · obtain ⟨b', hread, hrest⟩ := Buffer.read_of_unread_cons hleft
      refine ⟨b', by rw [apply, read, hread], ?_⟩
      rw [bytesGot, read, hread, hrest]
      rfl
  | feed data =>
    rcases hdata : data.toBytes with failure | bytes
    · refine ⟨b, by rw [apply, feed_buffer_error hdata], ?_⟩
      rw [Call.bytesFed, hdata, List.append_nil]
      rfl
    · refine ⟨b.feed bytes, by rw [apply, feed_buffer hdata], ?_⟩
      rw [Call.bytesFed, hdata, Buffer.unread_feed]
      rfl

end Call

/-- **A history of calls keeps the sequence.** -/
theorem exists_buffer_applyAll (b : Buffer) (calls : List Call) :
    ∃ b', (buffer b).applyAll calls = buffer b' ∧
      (buffer b).bytesRead calls ++ b'.unread = b.unread ++ calls.flatMap Call.bytesFed := by
  induction calls generalizing b with
  | nil => exact ⟨b, rfl, (List.append_nil _).symm⟩
  | cons c calls ih =>
    obtain ⟨b₁, happly, hcall⟩ := exists_buffer_apply b c
    obtain ⟨b₂, happlyAll, hcalls⟩ := ih b₁
    refine ⟨b₂, by rw [applyAll, List.foldl_cons, happly, ← applyAll, happlyAll], ?_⟩
    calc (buffer b).bytesRead (c :: calls) ++ b₂.unread
        = (buffer b).bytesGot c ++ ((buffer b₁).bytesRead calls ++ b₂.unread) := by
          rw [bytesRead, happly, List.append_assoc]
      _ = (buffer b).bytesGot c ++ b₁.unread ++ calls.flatMap Call.bytesFed := by
          rw [hcalls, List.append_assoc]
      _ = b.unread ++ (c :: calls).flatMap Call.bytesFed := by
          rw [hcall, List.flatMap_cons, List.append_assoc]

/-! ### The queue -/

section Queue

variable {b : Buffer} {data : Data} {bytes : List UInt8}

/-- A text is fed as the bytes that are its code points. -/
theorem toBytes_text_eq_ok_iff {text : String} :
    (Data.value (.text text)).toBytes = .ok bytes ↔
      text.toList.map Char.toNat = bytes.map UInt8.toNat := by
  rw [← Text.bytesOf?_eq_some_iff, Data.toBytes]
  rcases Text.bytesOf? text with _ | bs <;> simp

/-- A text of which a code point is no byte is not fed. -/
theorem answer_feed_text_eq_error_iff {text : String} :
    (buffer b).answer (.feed (.value (.text text))) = .error .unencodable ↔
      ∃ c ∈ text.toList, 0xFF < c.toNat := by
  rw [← Text.bytesOf?_eq_none_iff]
  rcases htext : Text.bytesOf? text with _ | bytes
  · have hdata : (Data.value (.text text)).toBytes = .error .unencodable := by
      rw [Data.toBytes, htext]
    rw [answer, feed_buffer_error hdata]
    exact iff_of_true rfl rfl
  · have hdata : (Data.value (.text text)).toBytes = .ok bytes := by rw [Data.toBytes, htext]
    rw [answer, feed_buffer hdata]
    simp

theorem length_unread (b : Buffer) : b.unread.length = b.remaining := by
  rw [Buffer.unread, List.length_drop, Array.length_toList, Buffer.remaining]

theorem unread_of_remaining (h : b.remaining = 0) : b.unread = [] :=
  List.length_eq_zero_iff.mp ((length_unread b).trans h)

/-- A read gets nothing just if nothing is left. -/
theorem answer_read_eq_none_iff : (buffer b).answer .read = .ok none ↔ b.remaining = 0 := by
  rw [← length_unread, answer, read]
  rcases hleft : b.unread with _ | ⟨byte, rest⟩
  · rw [Buffer.read_of_unread_nil hleft]
    exact iff_of_true rfl rfl
  · obtain ⟨b', hread, -⟩ := Buffer.read_of_unread_cons hleft
    simp [hread]

/-- A read that gets nothing changes nothing. -/
theorem apply_read_of_remaining (h : b.remaining = 0) : (buffer b).apply .read = buffer b := by
  rw [apply, read, Buffer.read_of_unread_nil (unread_of_remaining h)]

/-- A read gets the first byte that is left. -/
theorem exists_read_of_unread {byte : UInt8} {rest : List UInt8} (h : b.unread = byte :: rest) :
    ∃ b', (buffer b).answer .read = .ok (some byte) ∧ (buffer b).apply .read = buffer b' ∧
      b'.unread = rest := by
  obtain ⟨b', hread, hrest⟩ := Buffer.read_of_unread_cons h
  exact ⟨b', by rw [answer, read, hread], by rw [apply, read, hread], hrest⟩

/-- After the end, the first byte that is fed is the next one. -/
theorem answer_read_of_fed {byte : UInt8} {rest : List UInt8} (h : b.remaining = 0)
    (hdata : data.toBytes = .ok (byte :: rest)) :
    ((buffer b).applyAll [.read, .feed data]).answer .read = .ok (some byte) := by
  have happly : (buffer b).applyAll [.read, .feed data] = buffer (b.feed (byte :: rest)) := by
    rw [applyAll, List.foldl_cons, List.foldl_cons, apply_read_of_remaining h, List.foldl_nil,
      apply, feed_buffer hdata]
  have hfed : (b.feed (byte :: rest)).unread = byte :: rest := by
    rw [Buffer.unread_feed, unread_of_remaining h, List.nil_append]
  obtain ⟨b', hread, -⟩ := exists_read_of_unread hfed
  rw [happly, hread]

/-- **A source in memory after a history of calls**, if it held `initial` at first. -/
structure Queued (initial : List UInt8) (calls : List Call) (b : Buffer) : Prop where
  /-- The source is made of bytes, -/
  ofBytes : ∀ mutable,
    (Input.data (.bytes mutable initial)).toSource = .ok (buffer (.ofList initial))
  /-- or of a text with these code points. -/
  ofText : ∀ text, text.toList.map Char.toNat = initial.map UInt8.toNat →
    (Input.data (.value (.text text))).toSource = .ok (buffer (.ofList initial))
  /-- Nothing is lost, repeated or exchanged. -/
  lossless : (buffer (.ofList initial)).bytesRead calls ++ b.unread =
    initial ++ calls.flatMap Call.bytesFed
  /-- The next byte is in memory or would be right behind it. -/
  position_le : b.position ≤ b.data.size
  /-- The number of bytes that are left. -/
  remaining : (buffer b).remaining? = some (b.data.size - b.position) ∧
    b.unread.length = b.data.size - b.position
  /-- A read gets nothing just if nothing is left, -/
  ended : (buffer b).answer .read = .ok none ↔ b.remaining = 0
  /-- and it changes nothing then. -/
  unchanged : b.remaining = 0 → (buffer b).apply .read = buffer b
  /-- Otherwise it gets the first byte that is left. -/
  next : ∀ byte rest, b.unread = byte :: rest →
    ∃ b', (buffer b).answer .read = .ok (some byte) ∧ (buffer b).apply .read = buffer b' ∧
      b'.unread = rest
  /-- What is fed is put behind what is left. -/
  fed : ∀ data bytes, data.toBytes = .ok bytes →
    ∃ b', (buffer b).answer (.feed data) = .ok none ∧ (buffer b).apply (.feed data) = buffer b' ∧
      b'.unread = b.unread ++ bytes
  /-- Data that stand for no bytes are refused and change nothing. -/
  refused : ∀ data failure, data.toBytes = .error failure →
    (buffer b).answer (.feed data) = .error failure ∧ (buffer b).apply (.feed data) = buffer b
  /-- A text stands for its code points, -/
  encoded : ∀ text bytes, (Data.value (.text text)).toBytes = .ok bytes ↔
    text.toList.map Char.toNat = bytes.map UInt8.toNat
  /-- and it is refused just if one of them is no byte. -/
  wide : ∀ text, (buffer b).answer (.feed (.value (.text text))) = .error .unencodable ↔
    ∃ c ∈ text.toList, 0xFF < c.toNat
  /-- The end is not final. -/
  resumed : ∀ data byte rest, b.remaining = 0 → data.toBytes = .ok (byte :: rest) →
    ((buffer b).applyAll [.read, .feed data]).answer .read = .ok (some byte)

/-- **A source in memory is a lossless queue**, however it is read and fed, whether it is made of
bytes or of a text. -/
theorem exists_queued (initial : List UInt8) (calls : List Call) :
    ∃ b, (buffer (.ofList initial)).applyAll calls = buffer b ∧ Queued initial calls b := by
  obtain ⟨b, happly, hsequence⟩ := exists_buffer_applyAll (.ofList initial) calls
  refine ⟨b, happly, ?_⟩
  exact {
    ofBytes := fun _ => rfl
    ofText := fun text htext => by
      rw [Input.toSource, toBytes_text_eq_ok_iff.mpr htext]
      rfl
    lossless := hsequence
    position_le := b.position_le
    remaining := ⟨rfl, length_unread b⟩
    ended := answer_read_eq_none_iff
    unchanged := apply_read_of_remaining
    next := fun _ _ => exists_read_of_unread
    fed := fun data bytes hdata =>
      ⟨b.feed bytes, by rw [answer, feed_buffer hdata], by rw [apply, feed_buffer hdata],
        b.unread_feed bytes⟩
    refused := fun data failure hdata =>
      ⟨by rw [answer, feed_buffer_error hdata], by rw [apply, feed_buffer_error hdata]⟩
    encoded := fun _ _ => toBytes_text_eq_ok_iff
    wide := fun _ => answer_feed_text_eq_error_iff
    resumed := fun _ _ _ => answer_read_of_fed }

/-- A read at the end, a text that is refused, and reads that go on. -/
example : (buffer (.ofList [7])).bytesRead
    [.read, .read, .feed (.bytes false [8, 9]), .read, .feed (.value (.text "aĀ")),
      .feed (.bytes true [10]), .read] = [7, 8, 9] := by
  rfl

end Queue

end Source

end Brainfuck
