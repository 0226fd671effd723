import Brainfuck.Yaml.Cursor
import Brainfuck.Yaml.Token

/-!
# Names, tags and directives

The tokens that say something about a node or a document: the name of a node and a
reference to it, its tag, and the directives before a document.
-/

namespace Brainfuck

namespace Yaml

/-- Whether a character may occur in a name. -/
def isNameChar (c : Char) : Bool :=
  ('0' ≤ c && c ≤ '9') || ('A' ≤ c && c ≤ 'Z') || ('a' ≤ c && c ≤ 'z') || c == '-' || c == '_'

/-- Whether a character may occur in a tag. -/
def isTagChar (c : Char) : Bool :=
  isNameChar c || c ∈ [';', '/', '?', ':', '@', '&', '=', '+', '$', ',', '.', '!', '~', '*', '\'',
    '(', ')', '[', ']']

/-- The value of a hexadecimal digit. -/
def hexValue? (c : Char) : Option Nat :=
  if '0' ≤ c && c ≤ '9' then some (c.toNat - 48)
  else if 'A' ≤ c && c ≤ 'F' then some (c.toNat - 55)
  else if 'a' ≤ c && c ≤ 'f' then some (c.toNat - 87)
  else none

/-- The number that exactly `n` hexadecimal digits stand for. -/
def hexNumber? (n : Nat) (cs : List Char) : Option Nat := do
  let digits ← (cs.take n).mapM hexValue?
  if digits.length = n then some (digits.foldl (fun m d => 16 * m + d) 0) else none

namespace Cursor

/-- A name after its indicator, and what may come after one. -/
def name (c : Cursor) : Except Failure (String × Cursor) :=
  let (cs, c) := c.next.takeWhile isNameChar
  let ends := endsWord c.peek || c.peek.any (· ∈ ['?', ':', ',', ']', '\x7d', '%', '@', '\x60'])
  if cs.isEmpty || !ends then .error .malformedDocument else .ok (String.ofList cs, c)

/-- Bytes that are written as percent signs with two hexadecimal digits each. -/
def escapedBytes : (fuel : Nat) → Cursor → Except Failure (List UInt8 × Cursor)
  | 0, c => .ok ([], c)
  | fuel + 1, c =>
    if c.peek == some '%' then
      match hexNumber? 2 c.next.rest with
      | some n => do
        let (bytes, c) ← escapedBytes fuel (c.skip 3)
        return (UInt8.ofNat n :: bytes, c)
      | none => .error .malformedDocument
    else .ok ([], c)

/-- The characters of a tag; escaped ones are the code of a text. -/
def tagChars : (fuel : Nat) → Cursor → Except Failure (List Char × Cursor)
  | 0, c => .ok ([], c)
  | fuel + 1, c => do
    let (cs, c) := c.takeWhile isTagChar
    if c.peek == some '%' then
      let (bytes, c) ← escapedBytes c.rest.length c
      match String.fromUTF8? ⟨bytes.toArray⟩ with
      | some text =>
        let (more, c) ← tagChars fuel c
        return (cs ++ text.toList ++ more, c)
      | none => throw .malformedDocument
    else return (cs, c)

/-- The text of a tag, which must not be empty. -/
def tagText (c : Cursor) : Except Failure (String × Cursor) := do
  let (cs, d) ← tagChars (c.rest.length + 1) c
  if c.index == d.index then throw .malformedDocument
  return (String.ofList cs, d)

/-- The abbreviation at the start of a tag: an exclamation mark, or a name between two. -/
def tagHandle (c : Cursor) : Except Failure (String × Cursor) :=
  if c.peek != some '!' then .error .malformedDocument
  else
    let (cs, d) := c.next.takeWhile isNameChar
    if c.peekAt 1 == some ' ' then .ok ("!", c.next)
    else if d.peek == some '!' then .ok (String.ofList ('!' :: cs ++ ['!']), d.next)
    else .error .malformedDocument

/-- Whether another exclamation mark comes before the end of the word. -/
def hasSecondMark (c : Cursor) : Bool :=
  (c.next.rest.takeWhile fun x => !endsProperty (some x)).contains '!'

/-- A tag: in angle brackets, a lone exclamation mark, or abbreviated. -/
def tag (c : Cursor) : Except Failure (Token × Cursor) := do
  let (handle, suffix, c) ←
    if c.peekAt 1 == some '<' then do
      let (suffix, c) ← (c.skip 2).tagText
      if c.peek != some '>' then throw .malformedDocument
      pure (none, suffix, c.next)
    else if endsWord (c.peekAt 1) then pure (none, "!", c.next)
    else do
      let (handle, c) ← if c.hasSecondMark then c.tagHandle else pure ("!", c.next)
      let (suffix, c) ← c.tagText
      pure (some handle, suffix, c)
  if !endsProperty c.peek then throw .malformedDocument
  return (.tag handle suffix, c)

/-- A number in a directive. -/
def directiveNumber (c : Cursor) : Except Failure (Nat × Cursor) :=
  let (cs, c) := c.takeWhile fun x => '0' ≤ x && x ≤ '9'
  if cs.isEmpty then .error .malformedDocument
  else .ok (cs.foldl (fun n x => 10 * n + (x.toNat - 48)) 0, c)

/-- What follows the name of a directive. -/
def directiveValue (c : Cursor) (name : String) : Except Failure (Directive × Cursor) := do
  match name with
  | "YAML" =>
    let (major, c) ← c.dropSpaces.directiveNumber
    if c.peek != some '.' then throw .malformedDocument
    let (minor, c) ← c.next.directiveNumber
    if !endsProperty c.peek then throw .malformedDocument
    return (.version major minor, c)
  | "TAG" =>
    let (handle, c) ← c.dropSpaces.tagHandle
    if c.peek != some ' ' then throw .malformedDocument
    let (expansion, c) ← c.dropSpaces.tagText
    if !endsProperty c.peek then throw .malformedDocument
    return (.handle handle expansion, c)
  | _ => return (.other, c.dropLine)

/-- A directive, to the end of its line. -/
def directive (c : Cursor) : Except Failure (Token × Cursor) := do
  let (cs, c) := c.next.takeWhile isNameChar
  if cs.isEmpty || !endsProperty c.peek then throw .malformedDocument
  let (value, c) ← c.directiveValue (String.ofList cs)
  return (.directive value, ← c.dropRestOfLine)

end Cursor

end Yaml

end Brainfuck
