import Brainfuck.Error

/-!
# Tokens of a document

A document is first cut into tokens. Indentation shows up as tokens too: a collection in
block style begins with a start token and ends where its indentation does, with a token
that no character stands for. The key of a mapping is marked even where only the colon
after it tells that it is one.

What cannot be cut into tokens is the last token. It only matters to who gets that far: an
error before it is found first.
-/

namespace Brainfuck

namespace Yaml

/-- A directive at the head of a document. -/
inductive Directive where
  /-- The version of the format. -/
  | version (major minor : Nat)
  /-- An abbreviation for the beginning of tags. -/
  | handle (handle : String) (expansion : String)
  /-- Any other directive, which is ignored. -/
  | other

/-- A token. -/
inductive Token where
  /-- A directive. -/
  | directive (directive : Directive)
  /-- The mark before a document. -/
  | documentStart
  /-- The mark after a document. -/
  | documentEnd
  /-- The end of the text. -/
  | streamEnd
  /-- The start of a list in block style. -/
  | blockSequenceStart
  /-- The start of a mapping in block style. -/
  | blockMappingStart
  /-- The end of a collection in block style. -/
  | blockEnd
  /-- A left square bracket. -/
  | flowSequenceStart
  /-- A right square bracket. -/
  | flowSequenceEnd
  /-- A left curly bracket. -/
  | flowMappingStart
  /-- A right curly bracket. -/
  | flowMappingEnd
  /-- A comma between the members of a collection. -/
  | flowEntry
  /-- A dash before a member of a list. -/
  | blockEntry
  /-- A key follows. -/
  | key
  /-- A value follows. -/
  | value
  /-- A reference to a node. -/
  | reference (name : String)
  /-- A name for the node that follows. -/
  | anchor (name : String)
  /-- A tag for the node that follows: an abbreviation, if it begins with one, and the rest. -/
  | tag (handle : Option String) (suffix : String)
  /-- A text; whether it stands there without quotes or other marks. -/
  | scalar (plain : Bool) (text : String)
  /-- Something that is no token. -/
  | invalid (failure : Failure)

end Yaml

end Brainfuck
