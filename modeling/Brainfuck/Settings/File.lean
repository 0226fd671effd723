import Brainfuck.Files
import Brainfuck.Settings

/-!
# Settings in a file

A file of settings is a document with one mapping. A document without a value sets
nothing. The reader of documents is not part of this: it is handed over, and all it
does is to give the value of a text or a failure.
-/

namespace Brainfuck

/-- A reader of documents: it gives the value of a text. -/
abbrev Reader := String → Except Failure Value

/-- The settings in a document. -/
def Settings.ofDocument (read : Reader) (text : String) : Except Failure Settings := do
  match ← read text with
  | .null => return empty
  | v => ofValue v

/-- The settings in the file of a given name. -/
def Settings.ofFile (read : Reader) (name : String) (entry : FileEntry) :
    Except Failure Settings := do
  ofDocument read (← entry.read? name)

end Brainfuck
