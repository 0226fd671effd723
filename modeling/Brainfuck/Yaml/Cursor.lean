import Brainfuck.Error

/-!
# A place in a document

Reading a document needs the characters still to come and the line and column reached.
Lines end with a line feed, the next-line control or one of the two separators of
Unicode; the first two count as the same line break, the others are kept in folded text.
-/

namespace Brainfuck

namespace Yaml

/-- Whether a character ends a line. -/
def isBreak (c : Char) : Bool := c == '\n' || c == '\x85' || c == '\u2028' || c == '\u2029'

/-- Whether a character is a space or a tab. -/
def isSpaceOrTab (c : Char) : Bool := c == ' ' || c == '\t'

/-- Whether a place is at the end of a line or of the document. -/
def endsLine : Option Char → Bool
  | none => true
  | some c => isBreak c

/-- Whether a place is at a space or at the end of a line or of the document. -/
def endsProperty (c : Option Char) : Bool := c == some ' ' || endsLine c

/-- Whether a place is at a space, a tab, or the end of a line or of the document. -/
def endsWord (c : Option Char) : Bool := c == some '\t' || endsProperty c

/-- A place in a document. -/
structure Cursor where
  /-- The characters still to come. -/
  rest : List Char
  /-- The number of characters before. -/
  index : Nat
  /-- The number of line breaks before. -/
  line : Nat
  /-- The number of characters since the last line break. -/
  column : Nat

namespace Cursor

/-- The start of a document. -/
def start (text : List Char) : Cursor := ⟨text, 0, 0, 0⟩

/-- The next character. -/
def peek (c : Cursor) : Option Char := c.rest.head?

/-- The character `n` places ahead. -/
def peekAt (c : Cursor) (n : Nat) : Option Char := c.rest[n]?

/-- Go past one character. A byte order mark takes no column. -/
def next (c : Cursor) : Cursor :=
  match c.rest with
  | [] => c
  | x :: rest =>
    if isBreak x then ⟨rest, c.index + 1, c.line + 1, 0⟩
    else ⟨rest, c.index + 1, c.line, if x = '\uFEFF' then c.column else c.column + 1⟩

/-- Go past so many characters. -/
def skip : Nat → Cursor → Cursor
  | 0, c => c
  | n + 1, c => skip n c.next

/-- The characters that satisfy `p`, and the place after them. -/
def takeWhile (c : Cursor) (p : Char → Bool) : List Char × Cursor :=
  let taken := c.rest.takeWhile p
  (taken, c.skip taken.length)

/-- The place after the characters that satisfy `p`. -/
def dropWhile (c : Cursor) (p : Char → Bool) : Cursor := (c.takeWhile p).2

/-- Go past spaces. -/
def dropSpaces (c : Cursor) : Cursor := c.dropWhile (· == ' ')

/-- Go to the end of the line. -/
def dropLine (c : Cursor) : Cursor := c.dropWhile fun x => !isBreak x

/-- Go past spaces until a column is reached. -/
def dropIndent (c : Cursor) (indent : Nat) : Cursor :=
  c.skip ((c.rest.take (indent - c.column)).takeWhile (· == ' ')).length

/-- The line break at a place, as it appears in text, and the place after it. -/
def lineBreak? (c : Cursor) : Option (Char × Cursor) :=
  match c.peek with
  | some x => if isBreak x then some (if x == '\x85' then '\n' else x, c.next) else none
  | none => none

/-- Go past a line break, if there is one. -/
def dropBreak (c : Cursor) : Cursor :=
  match c.lineBreak? with
  | some (_, c) => c
  | none => c

/-- Whether three characters and the end of a word follow. -/
def startsWith (c : Cursor) (mark : List Char) : Bool :=
  c.rest.take 3 == mark && endsWord (c.peekAt 3)

/-- Whether the start or the end of a document is marked at a place. -/
def atSeparator (c : Cursor) : Bool :=
  c.startsWith ['-', '-', '-'] || c.startsWith ['.', '.', '.']

/-- Go past spaces and a comment, which must be all that is left of the line, and past its
end. -/
def dropRestOfLine (c : Cursor) : Except Failure Cursor :=
  let c := c.dropSpaces
  let c := if c.peek == some '#' then c.dropLine else c
  if endsLine c.peek then .ok c.dropBreak else .error .malformedDocument

end Cursor

end Yaml

end Brainfuck
