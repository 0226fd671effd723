import Brainfuck.Data

/-!
# Where output goes to

A sink takes bytes and always takes them all. All sinks but the one that discards its
output collect the bytes; they differ in who may look at them. Only the collecting buffer
can be emptied, and what a file collects is not shown by the debugger.
-/

namespace Brainfuck

/-- Where a session writes its output to. -/
inductive Sink where
  /-- Forget everything. -/
  | discard
  /-- Collect the bytes, to be looked at and emptied. -/
  | buffer (bytes : Array UInt8)
  /-- Collect the bytes in a file in memory, which can be looked at. -/
  | memory (bytes : Array UInt8)
  /-- Pass the bytes on to a file. -/
  | stream (bytes : Array UInt8)

namespace Sink

/-- Take bytes. -/
def write : Sink → List UInt8 → Sink
  | discard, _ => discard
  | buffer bytes, new => buffer (bytes ++ new)
  | memory bytes, new => memory (bytes ++ new)
  | stream bytes, new => stream (bytes ++ new)

/-- Take data, and tell how many bytes that are. The collecting buffer also takes lists of small
numbers. What discards its output looks at nothing but the number of members. -/
def writeData (s : Sink) (data : Data) : Except Failure Nat × Sink :=
  let taken :=
    match data.toBytes with
    | .ok bytes => (.ok bytes.length, s.write bytes)
    | .error failure => (.error failure, s)
  match data, s with
  | .bytes _ _, _ | .value (.text _), _ | .value (.bytes _), _ => taken
  | .value (.list items), discard => (.ok items.length, s)
  | .value (.mapping entries), discard => (.ok entries.length, s)
  | .value (.list _), buffer _ | .value (.mapping _), buffer _ => taken
  | _, _ => (.error .wrongKind, s)

/-- All bytes collected. -/
def collected? : Sink → Option (Array UInt8)
  | discard => none
  | buffer bytes => some bytes
  | memory bytes => some bytes
  | stream bytes => some bytes

/-- The bytes that can be looked at while the program runs. -/
def visible : Sink → Array UInt8
  | discard => #[]
  | buffer bytes => bytes
  | memory bytes => bytes
  | stream _ => #[]

/-- The collecting buffer as a text. -/
def text? : Sink → Except Failure String
  | buffer bytes => .ok (Text.ofBytes bytes.toList)
  | _ => .error .noSuchOperation

/-- Empty the collecting buffer. -/
def clear? : Sink → Option Failure × Sink
  | buffer _ => (none, buffer #[])
  | s => (some .noSuchOperation, s)

end Sink

/-- What a caller names as output: a sink, or some other data. -/
inductive Output where
  /-- A sink. -/
  | sink (sink : Sink)
  /-- Data, of which only the missing value will do. -/
  | data (data : Data)

namespace Output

/-- No output. -/
def none : Output := data (.value .null)

/-- The sink that a caller named. No value discards the output. -/
def toSink : Output → Except Failure Sink
  | sink s => .ok s
  | data (.value .null) => .ok .discard
  | data d => .error (.unusableOutput d.kindName)

end Output

end Brainfuck
