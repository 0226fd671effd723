import Brainfuck.Yaml.Property

/-!
# Texts in a document

A text is written in one of five ways: plain, between single or double quotes, or as a
block below its indicator, literal or folded.

In all but the literal style, lines are folded: a single line break between two words is
a space, and of several line breaks all but the first are kept. A line break that is one
of the separators of Unicode is always kept.
-/

namespace Brainfuck

namespace Yaml

namespace Cursor

/-! ### Plain texts -/

/-- Whether a character ends a word of a plain text, given the character after it. Inside a
collection in flow style so do the marks of such collections. -/
def endsPlain (inFlow : Bool) (c : Char) (after : Option Char) : Bool :=
  endsWord (some c) ||
  (c == ':' && (endsWord after ||
    (inFlow && after.any (· ∈ [',', '[', ']', '\x7b', '\x7d'])))) ||
  (inFlow && c ∈ [',', '?', '[', ']', '\x7b', '\x7d'])

/-- The first word of a plain text. -/
def plainWord (inFlow : Bool) : List Char → List Char
  | [] => []
  | c :: rest => if endsPlain inFlow c rest.head? then [] else c :: plainWord inFlow rest

/-- What stands between two words. -/
structure Gap where
  /-- The characters that the gap stands for; none if the text ends here. -/
  text : List Char
  /-- The place after the gap. -/
  after : Cursor
  /-- Whether the gap goes over the end of a line. -/
  newLine : Bool

/-- Lines are folded: what a line break and the line breaks after it stand for. -/
def folded (first : Char) (more : List Char) : List Char :=
  (if first != '\n' then [first] else if more.isEmpty then [' '] else []) ++ more

/-- The line breaks after the first one, with the spaces between them; nothing at the start or
end of a document. -/
def plainBreaks : (fuel : Nat) → Cursor → Option (List Char) × Cursor
  | 0, c => (some [], c)
  | fuel + 1, c =>
    if c.peek == some ' ' then plainBreaks fuel c.next
    else match c.lineBreak? with
      | none => (some [], c)
      | some (x, c) =>
        if c.atSeparator then (none, c)
        else
          let (more, c) := plainBreaks fuel c
          (more.map (x :: ·), c)

/-- The gap after a word of a plain text. -/
def plainGap (c : Cursor) : Gap :=
  let (spaces, c) := c.takeWhile (· == ' ')
  match c.lineBreak? with
  | none => ⟨spaces, c, false⟩
  | some (x, c) =>
    if c.atSeparator then ⟨[], c, true⟩
    else
      let (more, c) := plainBreaks c.rest.length c
      ⟨(more.map (folded x)).getD [], c, true⟩

/-- The words of a plain text that follow a gap. Outside of flow style every line must be
indented by at least `indent`. The last component tells whether the text was left at the
end of a line. -/
def plainWords (inFlow : Bool) (indent : Int) :
    (fuel : Nat) → Gap → List Char × Cursor × Bool
  | 0, gap => ([], gap.after, gap.newLine)
  | fuel + 1, gap =>
    let c := gap.after
    let word := plainWord inFlow c.rest
    if c.peek == some '#' || word.isEmpty then ([], c, gap.newLine)
    else
      let next := (c.skip word.length).plainGap
      let ends := next.text.isEmpty || next.after.peek == some '#' ||
        (!inFlow && decide ((next.after.column : Int) < indent))
      let (more, c, newLine) :=
        if ends then ([], next.after, next.newLine) else plainWords inFlow indent fuel next
      (gap.text ++ word ++ more, c, newLine)

/-- A plain text. -/
def plain (c : Cursor) (inFlow : Bool) (indent : Int) : String × Cursor × Bool :=
  let (cs, c, newLine) := plainWords inFlow indent (c.rest.length + 1) ⟨[], c, false⟩
  (String.ofList cs, c, newLine)

/-! ### Quoted texts -/

/-- The character that a letter after a backslash stands for. -/
def escaped? : Char → Option Char
  | '0' => some '\x00'
  | 'a' => some '\x07'
  | 'b' => some '\x08'
  | 't' => some '\t'
  | '\t' => some '\t'
  | 'n' => some '\n'
  | 'v' => some '\x0b'
  | 'f' => some '\x0c'
  | 'r' => some '\r'
  | 'e' => some '\x1b'
  | ' ' => some ' '
  | '"' => some '"'
  | '\\' => some '\\'
  | '/' => some '/'
  | 'N' => some '\x85'
  | '_' => some '\xa0'
  | 'L' => some '\u2028'
  | 'P' => some '\u2029'
  | _ => none

/-- The number of hexadecimal digits after a letter that begins a code point. -/
def codeLength? : Char → Option Nat
  | 'x' => some 2
  | 'u' => some 4
  | 'U' => some 8
  | _ => none

/-- The least number that is no code point. -/
def codeLimit : Nat := 0x110000

/-- The character with a given code. There is none beyond the last code point, and half a
character is none by itself. -/
def charOfCode (code : Nat) : Except Failure Char :=
  if h : code.isValidChar then .ok (Char.ofNatAux code h)
  else if code < codeLimit then .error .undecodable
  else if code < Nat.pow 2 31 then .error .badValue
  else .error .tooLarge

/-- The line breaks at a place inside quotes, with the spaces and tabs around them. A document
must not start or end there. -/
def quotedBreaks : (fuel : Nat) → Cursor → Except Failure (List Char × Cursor)
  | 0, c => .ok ([], c)
  | fuel + 1, c =>
    if c.atSeparator then .error .malformedDocument
    else
      let c := c.dropWhile isSpaceOrTab
      match c.lineBreak? with
      | none => .ok ([], c)
      | some (x, c) => do
        let (more, c) ← quotedBreaks fuel c
        return (x :: more, c)

/-- What stands after a backslash. -/
def escape (c : Cursor) : Except Failure (List Char × Cursor) :=
  match c.lineBreak? with
  | some (_, c) => quotedBreaks (c.rest.length + 1) c
  | none =>
    match c.peek with
    | none => .error .malformedDocument
    | some x =>
      match escaped? x, codeLength? x with
      | some y, _ => .ok ([y], c.next)
      | none, some n =>
        match hexNumber? n c.next.rest with
        | some code => do return ([← charOfCode code], c.skip (n + 1))
        | none => .error .malformedDocument
      | none, none => .error .malformedDocument

/-- Whether a character inside quotes stands for itself whatever the quotes. -/
def isQuotedChar (c : Char) : Bool := !(endsWord (some c) || c == '\'' || c == '"' || c == '\\')

/-- The text inside quotes up to a blank or the closing quote. -/
def quotedWord (double : Bool) : (fuel : Nat) → Cursor → Except Failure (List Char × Cursor)
  | 0, c => .ok ([], c)
  | fuel + 1, c => do
    let (cs, c) := c.takeWhile isQuotedChar
    let step : Option (Except Failure (List Char × Cursor)) :=
      match c.peek with
      | some '\'' =>
        if double then some (.ok (['\''], c.next))
        else if c.peekAt 1 == some '\'' then some (.ok (['\''], c.skip 2))
        else none
      | some '"' => if double then none else some (.ok (['"'], c.next))
      | some '\\' => if double then some c.next.escape else some (.ok (['\\'], c.next))
      | _ => none
    match step with
    | none => return (cs, c)
    | some result =>
      let (more, c) ← result
      let (rest, c) ← quotedWord double fuel c
      return (cs ++ more ++ rest, c)

/-- The blanks inside quotes. -/
def quotedGap (c : Cursor) : Except Failure (List Char × Cursor) :=
  let (spaces, c) := c.takeWhile isSpaceOrTab
  match c.lineBreak? with
  | some (x, c) => do
    let (more, c) ← quotedBreaks (c.rest.length + 1) c
    return (folded x more, c)
  | none => if c.rest.isEmpty then .error .malformedDocument else .ok (spaces, c)

/-- The text inside quotes and the place after the closing one. -/
def quotedRest (double : Bool) : (fuel : Nat) → Cursor → Except Failure (List Char × Cursor)
  | 0, _ => .error .malformedDocument
  | fuel + 1, c => do
    let (word, c) ← quotedWord double (c.rest.length + 1) c
    if c.peek == some (if double then '"' else '\'') then return (word, c.next)
    let (gap, c) ← c.quotedGap
    let (rest, c) ← quotedRest double fuel c
    return (word ++ gap ++ rest, c)

/-- A text between quotes. -/
def quoted (c : Cursor) (double : Bool) : Except Failure (String × Cursor) := do
  let (cs, c) ← quotedRest double (c.rest.length + 1) c.next
  return (String.ofList cs, c)

/-! ### Block texts -/

/-- What becomes of the line breaks at the end of a block. -/
inductive Chomping where
  /-- The first is kept. -/
  | clip
  /-- None is kept. -/
  | strip
  /-- All are kept. -/
  | keep
deriving DecidableEq

/-- The sign for what becomes of the last line breaks. -/
def chomping? (c : Cursor) : Option (Chomping × Cursor) :=
  match c.peek with
  | some '+' => some (.keep, c.next)
  | some '-' => some (.strip, c.next)
  | _ => none

/-- The digit for the indentation of a block. Zero is none. -/
def indentDigit? (c : Cursor) : Except Failure (Option (Nat × Cursor)) :=
  match c.peek with
  | some x =>
    if x == '0' then .error .malformedDocument
    else if '1' ≤ x && x ≤ '9' then .ok (some (x.toNat - 48, c.next))
    else .ok none
  | none => .ok none

/-- The indicators at the head of a block, in either order. -/
def blockHead (c : Cursor) : Except Failure (Chomping × Option Nat × Cursor) := do
  let (chomping, indent, c) ←
    match c.chomping? with
    | some (chomping, c) =>
      match ← c.indentDigit? with
      | some (n, c) => pure (chomping, some n, c)
      | none => pure (chomping, none, c)
    | none =>
      match ← c.indentDigit? with
      | some (n, c) =>
        match c.chomping? with
        | some (chomping, c) => pure (chomping, some n, c)
        | none => pure (.clip, some n, c)
      | none => pure (.clip, none, c)
  if !endsProperty c.peek then throw .malformedDocument
  return (chomping, indent, ← c.dropRestOfLine)

/-- The empty lines at the head of a block, and the greatest column reached by spaces. -/
def blockLead : (fuel : Nat) → (width : Nat) → Cursor → List Char × Nat × Cursor
  | 0, width, c => ([], width, c)
  | fuel + 1, width, c =>
    if c.peek == some ' ' then blockLead fuel (max width c.next.column) c.next
    else match c.lineBreak? with
      | none => ([], width, c)
      | some (x, c) =>
        let (more, width, c) := blockLead fuel width c
        (x :: more, width, c)

/-- The empty lines at a place in a block. -/
def blockBreaks (indent : Nat) : (fuel : Nat) → Cursor → List Char × Cursor
  | 0, c => ([], c)
  | fuel + 1, c =>
    let c := c.dropIndent indent
    match c.lineBreak? with
    | none => ([], c)
    | some (x, c) =>
      let (more, c) := blockBreaks indent fuel c
      (x :: more, c)

/-- The lines of a block that follow some empty lines. The result is the text without the last
line break, the last line break, and the empty lines after it. -/
def blockLines (fold : Bool) (indent : Nat) :
    (fuel : Nat) → (lead : List Char) → Cursor → List Char × List Char × List Char × Cursor
  | 0, lead, c => ([], [], lead, c)
  | fuel + 1, lead, c =>
    if c.column = indent && !c.rest.isEmpty then
      let startsWord := !c.peek.any isSpaceOrTab
      let (line, c) := c.takeWhile fun x => !isBreak x
      let (lineEnd, c) := match c.lineBreak? with
        | some (x, c) => ([x], c)
        | none => ([], c)
      let (breaks, c) := blockBreaks indent (c.rest.length + 1) c
      if c.column = indent && !c.rest.isEmpty then
        let joint :=
          if fold && lineEnd == ['\n'] && startsWord && !c.peek.any isSpaceOrTab then
            if breaks.isEmpty then [' '] else []
          else lineEnd
        let (text, lineEnd, tail, c) := blockLines fold indent fuel breaks c
        (lead ++ line ++ joint ++ text, lineEnd, tail, c)
      else (lead ++ line, lineEnd, breaks, c)
    else ([], [], lead, c)

/-- A block inside a collection indented by `indent`. -/
def block (c : Cursor) (fold : Bool) (indent : Int) : Except Failure (String × Cursor) := do
  let (chomping, increment, c) ← c.next.blockHead
  let least := (max 1 (indent + 1)).toNat
  let (lead, width, c) := match increment with
    | none =>
      let (lead, width, c) := blockLead (c.rest.length + 1) 0 c
      (lead, max least width, c)
    | some n =>
      let (lead, c) := blockBreaks (least + n - 1) (c.rest.length + 1) c
      (lead, least + n - 1, c)
  let (text, lineEnd, tail, c) := blockLines fold width (c.rest.length + 1) lead c
  let text := text ++ (if chomping = .strip then [] else lineEnd)
    ++ (if chomping = .keep then tail else [])
  return (String.ofList text, c)

end Cursor

end Yaml

end Brainfuck
