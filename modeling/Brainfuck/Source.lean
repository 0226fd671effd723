import Brainfuck.Data

/-!
# Where input comes from

A source gives one byte at a time until it is at its end. The source in memory
(`Brainfuck.Buffer`) can be fed more bytes at any time, also after its end was reached,
and so is a queue: what has been taken from it, followed by what it still holds, is all
that was ever put into it.

A text is read character by character, and a character that stands for no byte is only
noticed when its turn comes. It is used up by the attempt.
-/

namespace Brainfuck

/-- Bytes in memory, of which an initial part has been taken. -/
structure Buffer where
  /-- The bytes, those taken since the last feeding included. -/
  data : Array UInt8
  /-- The number of bytes taken from `data`. -/
  position : Nat
  /-- No more bytes are taken than there are. -/
  position_le : position ≤ data.size

namespace Buffer

/-- A buffer from which nothing has been taken. -/
def ofList (bytes : List UInt8) : Buffer := ⟨bytes.toArray, 0, Nat.zero_le _⟩

/-- The number of bytes left. -/
def remaining (b : Buffer) : Nat := b.data.size - b.position

/-- The bytes left. -/
def unread (b : Buffer) : List UInt8 := b.data.toList.drop b.position

/-- Take the next byte, if there is one. -/
def read (b : Buffer) : Option UInt8 × Buffer :=
  if h : b.position < b.data.size then (some b.data[b.position], ⟨b.data, b.position + 1, h⟩)
  else (none, b)

/-- Put bytes behind those left, and forget those taken. -/
def feed (b : Buffer) (bytes : List UInt8) : Buffer :=
  ⟨b.data.extract b.position b.data.size ++ bytes.toArray, 0, Nat.zero_le _⟩

end Buffer

/-- Where a session takes its input from. -/
inductive Source where
  /-- A source that is always at its end. -/
  | empty
  /-- Bytes in memory. -/
  | buffer (buffer : Buffer)
  /-- The bytes of a file that are left. -/
  | stream (rest : List UInt8)
  /-- The characters of a text file that are left. -/
  | text (rest : List Char)

namespace Source

/-- Take the next byte; nothing at the end. -/
def read : Source → Except Failure (Option UInt8) × Source
  | empty => (.ok none, empty)
  | buffer b =>
    let (byte, b) := b.read
    (.ok byte, buffer b)
  | stream [] => (.ok none, stream [])
  | stream (byte :: rest) => (.ok (some byte), stream rest)
  | text [] => (.ok none, text [])
  | text (c :: rest) =>
    match Text.byteOf? c with
    | some byte => (.ok (some byte), text rest)
    | none => (.error .unencodable, text rest)

/-- Take so many bytes, ends included. The first read that fails is the last. -/
def readMany : Nat → Source → Except Failure (List (Option UInt8)) × Source
  | 0, s => (.ok [], s)
  | n + 1, s =>
    match s.read with
    | (.error failure, s) => (.error failure, s)
    | (.ok byte, s) =>
      let (bytes, s) := readMany n s
      (bytes.map (byte :: ·), s)

/-- Put more bytes into a source in memory. -/
def feed (s : Source) (data : Data) : Option Failure × Source :=
  match s with
  | buffer b =>
    match data.toBytes with
    | .ok bytes => (none, buffer (b.feed bytes))
    | .error failure => (some failure, buffer b)
  | s => (some .noSuchOperation, s)

/-- The number of bytes left in a source in memory. -/
def remaining? : Source → Option Nat
  | buffer b => some b.remaining
  | _ => none

end Source

/-- What a caller names as input: a source, or data to make one from. -/
inductive Input where
  /-- A source. -/
  | source (source : Source)
  /-- Data. -/
  | data (data : Data)

namespace Input

/-- No input. -/
def none : Input := data (.value .null)

/-- The source that a caller named. No value is the empty source, bytes and texts become a
source in memory, and nothing else will do. -/
def toSource : Input → Except Failure Source
  | source s => .ok s
  | data (.value .null) => .ok .empty
  | data d =>
    match d with
    | .bytes _ _ | .value (.text _) | .value (.bytes _) => do
      let bytes ← d.toBytes
      return .buffer (.ofList bytes)
    | _ => .error (.unusableInput d.kindName)

/-- What the same input is for the next session, given the source that a session has left. A
source goes on where it was left; data starts anew. -/
def afterUse (i : Input) (left : Source) : Input :=
  match i with
  | source _ => source left
  | data d => data d

end Input

end Brainfuck
