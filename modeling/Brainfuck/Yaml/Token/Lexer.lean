import Brainfuck.Yaml.Text

/-!
# Cutting a document into tokens

Two things make this more than a matter of looking at characters.

* **Indentation.** Outside of flow style the columns of the open collections are kept as
  a stack. A token in a smaller column closes the collections of greater columns before
  it is put out.
* **Keys without a mark.** A text, a reference or a collection in flow style may turn out
  to be a key, which is only known when the colon after it is reached. So the place of
  its token is remembered, one place for each level of flow style, and the mark for a key
  is put there when the colon comes. A place is forgotten when the line ends or 1024
  characters have passed; where only a key can stand, that is an error.
-/

namespace Brainfuck

namespace Yaml

/-- A place where a key may have started. -/
structure PossibleKey where
  /-- The level of flow style. -/
  level : Nat
  /-- The number of tokens before it. -/
  position : Nat
  /-- Whether nothing else than a key can stand there. -/
  required : Bool
  /-- The number of characters before it. -/
  index : Nat
  /-- The line it is on. -/
  line : Nat
  /-- The column it is in. -/
  column : Nat

/-- The lexer between two tokens. -/
structure Lexer where
  /-- The place reached. -/
  cursor : Cursor
  /-- The tokens so far. -/
  tokens : Array Token
  /-- The number of open collections in flow style. -/
  level : Nat
  /-- The column of the innermost open collection in block style; -1 without one. -/
  indent : Int
  /-- The columns of the collections around it, the inner ones first. -/
  indents : List Int
  /-- Whether a key without a mark may start here. -/
  keyAllowed : Bool
  /-- The places where a key may have started. -/
  possibleKeys : List PossibleKey

namespace Lexer

/-- The lexer before a text. -/
def start (text : List Char) : Lexer := ⟨.start text, #[], 0, -1, [], true, []⟩

/-- The next character. -/
def peek (s : Lexer) : Option Char := s.cursor.peek

/-- Put out a token. -/
def push (s : Lexer) (t : Token) : Lexer := { s with tokens := s.tokens.push t }

/-- Whether the lexer is inside a collection in flow style. -/
def inFlow (s : Lexer) : Bool := 0 < s.level

/-- Whether a place is on an earlier line or too far back to hold a key. -/
def isStale (s : Lexer) (k : PossibleKey) : Bool :=
  k.line != s.cursor.line || 1024 < s.cursor.index - k.index

/-- Forget the places that are on an earlier line or too far back. -/
def dropStaleKeys (s : Lexer) : Except Failure Lexer :=
  if s.possibleKeys.any fun k => s.isStale k && k.required then .error .malformedDocument
  else .ok { s with possibleKeys := s.possibleKeys.filter fun k => !s.isStale k }

/-- The place where a key may have started on the present level. -/
def possibleKey? (s : Lexer) : Option PossibleKey :=
  s.possibleKeys.find? (·.level == s.level)

/-- The places on the other levels. -/
def otherKeys (s : Lexer) : List PossibleKey := s.possibleKeys.filter (·.level != s.level)

/-- Forget the place on the present level, at which there must not have been a key. -/
def dropKey (s : Lexer) : Except Failure Lexer :=
  if s.possibleKey?.any (·.required) then .error .malformedDocument
  else .ok { s with possibleKeys := s.otherKeys }

/-- Remember that a key may start here. -/
def saveKey (s : Lexer) : Except Failure Lexer :=
  if s.keyAllowed then do
    let s ← s.dropKey
    let required := !s.inFlow && s.indent == s.cursor.column
    return { s with possibleKeys := s.possibleKeys ++
      [⟨s.level, s.tokens.size, required, s.cursor.index, s.cursor.line, s.cursor.column⟩] }
  else .ok s

/-- Close the collections among those given that are in a greater column. -/
def closeDeeper (column : Int) (tokens : Array Token) :
    (indent : Int) → List Int → Array Token × Int × List Int
  | indent, [] => (tokens, indent, [])
  | indent, outer :: rest =>
    if column < indent then closeDeeper column (tokens.push .blockEnd) outer rest
    else (tokens, indent, outer :: rest)

/-- Close the collections in block style that are in a greater column. -/
def unwind (s : Lexer) (column : Int) : Lexer :=
  if s.inFlow then s
  else
    let (tokens, indent, indents) := closeDeeper column s.tokens s.indent s.indents
    { s with tokens, indent, indents }

/-- Open a collection in block style in a column, its start being the token at a position;
nothing happens if one is open there. -/
def openBlock (s : Lexer) (column : Nat) (position : Nat) (t : Token) : Lexer :=
  if s.indent < column then
    { s with
      indents := s.indent :: s.indents, indent := column,
      tokens := s.tokens.insertIdxIfInBounds position t }
  else s

/-- Go past spaces, comments and empty lines. Outside of flow style a key may start on a new
line. -/
def skipBlanks : (fuel : Nat) → Lexer → Lexer
  | 0, s => s
  | fuel + 1, s =>
    let c := s.cursor.dropSpaces
    let c := if c.peek == some '#' then c.dropLine else c
    match c.lineBreak? with
    | some (_, c) => skipBlanks fuel { s with cursor := c, keyAllowed := s.keyAllowed || !s.inFlow }
    | none => { s with cursor := c }

/-! ### The tokens -/

/-- A mark of so many characters before which all collections end. -/
def boundary (s : Lexer) (length : Nat) (t : Token) : Except Failure Lexer := do
  let s ← (s.unwind (-1)).dropKey
  return { s with keyAllowed := false, cursor := s.cursor.skip length }.push t

/-- A directive. -/
def directive (s : Lexer) : Except Failure Lexer := do
  let s ← (s.unwind (-1)).dropKey
  let (t, cursor) ← s.cursor.directive
  return { s with keyAllowed := false, cursor }.push t

/-- The start of a collection in flow style. -/
def flowStart (s : Lexer) (t : Token) : Except Failure Lexer := do
  let s ← s.saveKey
  return { s with level := s.level + 1, keyAllowed := true, cursor := s.cursor.next }.push t

/-- The end of a collection in flow style, of which there must be one. -/
def flowEnd (s : Lexer) (t : Token) : Except Failure Lexer := do
  let s ← s.dropKey
  if s.level = 0 then throw .malformedDocument
  return { s with level := s.level - 1, keyAllowed := false, cursor := s.cursor.next }.push t

/-- A comma in flow style. -/
def flowEntry (s : Lexer) : Except Failure Lexer := do
  let s ← s.dropKey
  return { s with keyAllowed := true, cursor := s.cursor.next }.push .flowEntry

/-- A dash before a member of a list. -/
def blockEntry (s : Lexer) : Except Failure Lexer := do
  if !s.inFlow && !s.keyAllowed then throw .malformedDocument
  let s := if s.inFlow then s
    else s.openBlock s.cursor.column s.tokens.size .blockSequenceStart
  let s ← s.dropKey
  return { s with keyAllowed := true, cursor := s.cursor.next }.push .blockEntry

/-- A question mark before a key. -/
def markedKey (s : Lexer) : Except Failure Lexer := do
  if !s.inFlow && !s.keyAllowed then throw .malformedDocument
  let s := if s.inFlow then s
    else s.openBlock s.cursor.column s.tokens.size .blockMappingStart
  let s ← s.dropKey
  return { s with keyAllowed := !s.inFlow, cursor := s.cursor.next }.push .key

/-- A colon before a value. -/
def value (s : Lexer) : Except Failure Lexer := do
  match s.possibleKey? with
  | some k =>
    let s := { s with
      possibleKeys := s.otherKeys, keyAllowed := false,
      tokens := s.tokens.insertIdxIfInBounds k.position .key }
    let s := if s.inFlow then s else s.openBlock k.column k.position .blockMappingStart
    return { s with cursor := s.cursor.next }.push .value
  | none =>
    if !s.inFlow && !s.keyAllowed then throw .malformedDocument
    let s := if s.inFlow then s
      else s.openBlock s.cursor.column s.tokens.size .blockMappingStart
    let s ← { s with keyAllowed := !s.inFlow }.dropKey
    return { s with cursor := s.cursor.next }.push .value

/-- A token that may be a key or the beginning of one. -/
def keyLike (s : Lexer) (read : Cursor → Except Failure (Token × Cursor)) :
    Except Failure Lexer := do
  let s ← s.saveKey
  let (t, cursor) ← read s.cursor
  return { s with keyAllowed := false, cursor }.push t

/-- A block text. -/
def block (s : Lexer) (fold : Bool) : Except Failure Lexer := do
  let s ← s.dropKey
  let (text, cursor) ← s.cursor.block fold s.indent
  return { s with keyAllowed := true, cursor }.push (.scalar false text)

/-- A plain text. -/
def plain (s : Lexer) : Except Failure Lexer := do
  let s ← s.saveKey
  let (text, cursor, newLine) := s.cursor.plain s.inFlow (s.indent + 1)
  return { s with keyAllowed := newLine, cursor }.push (.scalar true text)

/-- Whether a plain text can start with a character, given the character after it. -/
def startsPlain (s : Lexer) (c : Char) (after : Option Char) : Bool :=
  !(endsWord (some c) || c ∈ ['-', '?', ':', ',', '[', ']', '\x7b', '\x7d', '#', '&', '*', '!', '|',
    '>', '\'', '"', '%', '@', '\x60']) ||
  (!endsWord after && (c == '-' || (!s.inFlow && (c == '?' || c == ':'))))

/-- The next token, or more than one where collections end. -/
def token (s : Lexer) (c : Char) : Except Failure Lexer :=
  let after := s.cursor.peekAt 1
  let atStart := s.cursor.column = 0
  let marks := s.inFlow || endsWord after
  if c == '%' && atStart then s.directive
  else if atStart && s.cursor.startsWith ['-', '-', '-'] then s.boundary 3 .documentStart
  else if atStart && s.cursor.startsWith ['.', '.', '.'] then s.boundary 3 .documentEnd
  else if c == '[' then s.flowStart .flowSequenceStart
  else if c == '\x7b' then s.flowStart .flowMappingStart
  else if c == ']' then s.flowEnd .flowSequenceEnd
  else if c == '\x7d' then s.flowEnd .flowMappingEnd
  else if c == ',' then s.flowEntry
  else if c == '-' && endsWord after then s.blockEntry
  else if c == '?' && marks then s.markedKey
  else if c == ':' && marks then s.value
  else if c == '*' then s.keyLike fun c => return ((← c.name).map .reference id)
  else if c == '&' then s.keyLike fun c => return ((← c.name).map .anchor id)
  else if c == '!' then s.keyLike Cursor.tag
  else if c == '|' && !s.inFlow then s.block false
  else if c == '>' && !s.inFlow then s.block true
  else if c == '\'' then s.keyLike fun c => return ((← c.quoted false).map (.scalar false) id)
  else if c == '"' then s.keyLike fun c => return ((← c.quoted true).map (.scalar false) id)
  else if s.startsPlain c after then s.plain
  else .error .malformedDocument

/-- Go on to the next token, or put out the end of the text. -/
def advance (s : Lexer) : Except Failure Lexer := do
  let s ← (s.skipBlanks (s.cursor.rest.length + 1)).dropStaleKeys
  let s := s.unwind s.cursor.column
  match s.peek with
  | none => s.boundary 0 .streamEnd
  | some c => s.token c

/-- The tokens up to where it cannot go on. A token that may still turn out to be a key has not
been put out for good, nor have those after it. -/
def interrupted (s : Lexer) (failure : Failure) : Array Token :=
  let undecided := (s.possibleKeys.filter fun k => !s.isStale k).map (·.position)
  (s.tokens.extract 0 (undecided.foldl min s.tokens.size)).push (.invalid failure)

/-- Whether the end of the text has been put out. -/
def ended (s : Lexer) : Bool := s.tokens.back?.any (· matches .streamEnd)

/-- All tokens from here on. -/
def run : (fuel : Nat) → Lexer → Array Token
  | 0, s => s.tokens
  | fuel + 1, s =>
    match s.advance with
    | .error failure => s.interrupted failure
    | .ok next => if next.ended then next.tokens else run fuel next

end Lexer

/-- Whether a character may occur in a document at all. -/
def isAllowed (c : Char) : Bool :=
  let n := c.toNat
  n = 0x9 || n = 0xa || n = 0xd || (0x20 ≤ n && n ≤ 0x7e) || n = 0x85 || (0xa0 ≤ n && n ≤ 0xd7ff) ||
    (0xe000 ≤ n && n ≤ 0xfffd) || 0x10000 ≤ n

/-- The tokens of a document. A byte order mark at its start is ignored. -/
def tokens (text : List Char) : Array Token :=
  if text.all isAllowed then
    let s := Lexer.start text
    let s := if s.peek == some '\uFEFF' then { s with cursor := s.cursor.next } else s
    s.run (text.length + 1)
  else #[.invalid .malformedDocument]

end Yaml

end Brainfuck
