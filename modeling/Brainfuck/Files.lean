import Brainfuck.Error

/-!
# Files

What is found under the name of a file (`Brainfuck.FileEntry`) is its bytes, or a reason
why there are none. A text file holds the code of a text.
-/

namespace Brainfuck

/-- What is found under the name of a file: its bytes, or why there are none. -/
abbrev FileEntry := Except FileError (List UInt8)

namespace FileEntry

/-- The bytes of the file of a given name. A name with a null character is not even looked
for. -/
def open? (name : String) (entry : FileEntry) : Except Failure (List UInt8) :=
  if '\x00' ∈ name.toList then .error .badValue else entry.mapError fun e => .file e name

/-- The text whose code a file of a given name holds. -/
def read? (name : String) (entry : FileEntry) : Except Failure String := do
  let bytes ← entry.open? name
  match String.fromUTF8? ⟨bytes.toArray⟩ with
  | some text => return text
  | none => throw .undecodable

end FileEntry

end Brainfuck
