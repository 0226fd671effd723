import Brainfuck.Error
import Brainfuck.Value
import Brainfuck.Text.SingleByte

/-!
# Data

What a caller may hand over where bytes are wanted: a text, each character of which
stands for a byte, a byte string, or any other value. Of the other values a count stands
for so many zero bytes and a list of small numbers for those bytes.
-/

namespace Brainfuck

/-- What is handed over where bytes are wanted. -/
inductive Data where
  /-- A byte string, of the kind that can be changed in place or not. -/
  | bytes (mutable : Bool) (bytes : List UInt8)
  /-- Any other value, a text among them. -/
  | value (v : Value)

namespace Data

/-- The name of the kind of data, as messages give it. -/
def kindName : Data → String
  | bytes mutable _ => if mutable then "bytearray" else "bytes"
  | value v => v.kindName

/-- The least count of bytes that is beyond every size. -/
def countLimit : Nat := Nat.pow 2 63

/-- A member of a list of bytes. -/
def byteOfValue : Value → Except Failure UInt8
  | .int n => if 0 ≤ n ∧ n < 256 then .ok (UInt8.ofInt n) else .error .badValue
  | .bool b => .ok (if b then 1 else 0)
  | _ => .error .wrongKind

/-- So many zero bytes. -/
def zeros (n : Int) : Except Failure (List UInt8) :=
  if n < -countLimit ∨ countLimit ≤ n then .error .tooLarge
  else if n < 0 then .error .badValue
  else .ok (List.replicate n.toNat 0)

/-- The bytes that data stand for. -/
def toBytes : Data → Except Failure (List UInt8)
  | bytes _ bs => .ok bs
  | value (.text s) =>
    match Text.bytesOf? s with
    | some bs => .ok bs
    | none => .error .unencodable
  | value (.bytes bs) => .ok bs
  | value (.bool b) => zeros (if b then 1 else 0)
  | value (.int n) => zeros n
  | value (.list items) => items.mapM byteOfValue
  | value (.set members) => members.mapM byteOfValue
  | value (.mapping entries) => entries.mapM fun e => byteOfValue e.1
  | value _ => .error .wrongKind

end Data

end Brainfuck
