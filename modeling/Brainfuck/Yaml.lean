import Brainfuck.Yaml.Document
import Brainfuck.Yaml.Object

/-!
# Documents

A document is cut into tokens, the tokens are read as a graph of nodes, and the nodes
that the root leads to stand for objects, which make up the value of the document.
-/

namespace Brainfuck

namespace Yaml

/-- A text whose lines end with a line feed, whatever they ended with before. -/
def unifyBreaks : List Char → List Char
  | '\r' :: '\n' :: cs => '\n' :: unifyBreaks cs
  | '\r' :: cs => '\n' :: unifyBreaks cs
  | c :: cs => c :: unifyBreaks cs
  | [] => []

/-- The value of a document; no value if the text contains none. -/
def valueOfText (text : String) : Except Failure Value := do
  let tokens := tokens (unifyBreaks text.toList)
  match ← Document.ofTokens? tokens.toList with
  | none => return .null
  | some d =>
    let objects ← d.graph.objects d.root (tokens.size + 1)
    match objects.value? d.root with
    | some v => return v
    | none => throw .malformedDocument

end Yaml

end Brainfuck
