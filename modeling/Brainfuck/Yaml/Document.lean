import Brainfuck.Yaml.Form
import Brainfuck.Yaml.Graph
import Brainfuck.Yaml.Token.Lexer

/-!
# Reading a document

The tokens of a document describe its nodes. A node may be given a name and be referred
to by it further on, also from inside itself; a reference is just the number of the node.
So a node gets its number before its content is read.
-/

namespace Brainfuck

namespace Yaml

/-- A document that is being read. -/
structure Reader where
  /-- The tokens still to come. -/
  tokens : List Token
  /-- The abbreviations for the beginning of tags. -/
  handles : List (String × String)
  /-- The names given so far. -/
  names : List (String × NodeId)
  /-- The nodes so far. -/
  graph : Graph
  /-- The number of nodes around the next one. -/
  depth : Nat

/-- The number of nodes that may be inside one another. -/
def greatestDepth : Nat := 490

/-- Reading a part of a document. -/
abbrev Read (α : Type) := Reader → Except Failure (α × Reader)

namespace Reader

/-- The next token. -/
def peek (r : Reader) : Token := r.tokens.head?.getD .streamEnd

/-- The failure if the next token is not one that can stand there. -/
def unexpected (r : Reader) : Failure :=
  match r.peek with
  | .invalid failure => failure
  | _ => .malformedDocument

/-- Go past a token. -/
def next (r : Reader) : Reader := { r with tokens := r.tokens.tail }

/-- The tag that an abbreviation and a suffix stand for; nothing for a lone exclamation mark. -/
def tag (r : Reader) (handle : Option String) (suffix : String) : Except Failure (Option Tag) :=
  match handle with
  | none => .ok (if suffix = "!" then none else some (.ofText suffix))
  | some h =>
    match r.handles.lookup h with
    | none => .error .malformedDocument
    | some expansion =>
      .ok (if expansion ++ suffix = "!" then none else some (.ofText (expansion ++ suffix)))

/-- The name and tag of a node, each at most once and in either order. The tag is present twice
over: whether one was written, and what it stands for. -/
def properties (r : Reader) :
    Except Failure (Option String × Option (Option Tag) × Reader) := do
  match r.peek with
  | .anchor name =>
    let r := r.next
    match r.peek with
    | .tag handle suffix => return (some name, some (← r.tag handle suffix), r.next)
    | _ => return (some name, none, r)
  | .tag handle suffix =>
    let tag ← r.tag handle suffix
    let r := r.next
    match r.peek with
    | .anchor name => return (some name, some tag, r.next)
    | _ => return (none, some tag, r)
  | _ => return (none, none, r)

/-- A reference to a node. -/
def resolve (r : Reader) (name : String) : Except Failure NodeId :=
  match r.names.lookup name with
  | none => .error .malformedDocument
  | some id => .ok id

/-- Add a node. -/
def add (r : Reader) (node : Node) : NodeId × Reader :=
  let (id, graph) := r.graph.add node
  (id, { r with graph })

/-- Begin a node, which may have a name. No name is given twice. -/
def enter (r : Reader) (name : Option String) : Except Failure (NodeId × Reader) :=
  if greatestDepth ≤ r.depth then .error .tooDeep
  else
    let (id, r) := r.add .empty
    let r := { r with depth := r.depth + 1 }
    match name with
    | none => .ok (id, r)
    | some name =>
      if (r.names.lookup name).isSome then .error .malformedDocument
      else .ok (id, { r with names := (name, id) :: r.names })

/-- Complete a node. -/
def leave (r : Reader) (id : NodeId) (node : Node) : Reader :=
  { r with graph := r.graph.put id node, depth := r.depth - 1 }

end Reader

/-- The tag of a text, given whether one was written, what it stands for, and whether the text
is plain. The form of a plain text tells its tag where none is given. -/
def scalarTag (tag : Option (Option Tag)) (plain : Bool) (text : String) : Tag :=
  match tag with
  | some (some tag) => tag
  | some none => .ofForm text
  | none => if plain then .ofForm text else .str

namespace Reader

mutual

/-- A node. Collections in block style are only read where `block` says so, and lists that are
not indented only where `unindented` does. -/
def read (block unindented : Bool) : (fuel : Nat) → Read NodeId
  | 0, _ => .error .malformedDocument
  | fuel + 1, r =>
    match r.peek with
    | .reference name => do return (← r.resolve name, r.next)
    | _ => do
      let (name, tag, r) ← r.properties
      let (id, r) ← r.enter name
      let (node, r) ← readContent block unindented (name.isSome || tag.isSome) tag fuel r
      return (id, r.leave id node)

/-- A node after its name and tag. With either of them it may be empty. -/
def readContent (block unindented mayBeEmpty : Bool) (tag : Option (Option Tag)) :
    (fuel : Nat) → Read Node
  | 0, _ => .error .malformedDocument
  | fuel + 1, r =>
    let listTag := tag.join.getD .seq
    let mappingTag := tag.join.getD .map
    let otherwise : Except Failure (Node × Reader) :=
      if mayBeEmpty then .ok (.scalar (scalarTag tag true "") "", r) else .error r.unexpected
    match r.peek with
    | .blockEntry =>
      if unindented then do
        let (items, r) ← readUnindented fuel r
        return (.sequence listTag items, r)
      else otherwise
    | .scalar plain text => .ok (.scalar (scalarTag tag plain text) text, r.next)
    | .flowSequenceStart => do
      let (items, r) ← readFlowSequence true fuel r.next
      return (.sequence listTag items, r)
    | .flowMappingStart => do
      let (entries, r) ← readFlowMapping true fuel r.next
      return (.mapping mappingTag entries, r)
    | .blockSequenceStart =>
      if block then do
        let (items, r) ← readBlockSequence fuel r.next
        return (.sequence listTag items, r)
      else otherwise
    | .blockMappingStart =>
      if block then do
        let (entries, r) ← readBlockMapping fuel r.next
        return (.mapping mappingTag entries, r)
      else otherwise
    | _ => otherwise

/-- The members of a list in block style, to its end. -/
def readBlockSequence : (fuel : Nat) → Read (List NodeId)
  | 0, _ => .error .malformedDocument
  | fuel + 1, r =>
    match r.peek with
    | .blockEnd => .ok ([], r.next)
    | .blockEntry => do
      let r := r.next
      let (item, r) ← match r.peek with
        | .blockEntry | .blockEnd => pure (r.add .empty)
        | _ => read true false fuel r
      let (items, r) ← readBlockSequence fuel r
      return (item :: items, r)
    | _ => .error r.unexpected

/-- The members of a list in block style that is not indented. -/
def readUnindented : (fuel : Nat) → Read (List NodeId)
  | 0, _ => .error .malformedDocument
  | fuel + 1, r =>
    match r.peek with
    | .blockEntry => do
      let r := r.next
      let (item, r) ← match r.peek with
        | .blockEntry | .key | .value | .blockEnd => pure (r.add .empty)
        | _ => read true false fuel r
      let (items, r) ← readUnindented fuel r
      return (item :: items, r)
    | _ => .ok ([], r)

/-- The entries of a mapping in block style, to its end. -/
def readBlockMapping : (fuel : Nat) → Read (List Entry)
  | 0, _ => .error .malformedDocument
  | fuel + 1, r =>
    match r.peek with
    | .blockEnd => .ok ([], r.next)
    | .key => do
      let r := r.next
      let (key, r) ← match r.peek with
        | .key | .value | .blockEnd => pure (r.add .empty)
        | _ => read true true fuel r
      let (value, r) ← readBlockValue fuel r
      let (entries, r) ← readBlockMapping fuel r
      return ((key, value) :: entries, r)
    | _ => .error r.unexpected

/-- The value after a key in block style, if there is one. -/
def readBlockValue : (fuel : Nat) → Read NodeId
  | 0, _ => .error .malformedDocument
  | fuel + 1, r =>
    match r.peek with
    | .value =>
      let r := r.next
      match r.peek with
      | .key | .value | .blockEnd => .ok (r.add .empty)
      | _ => read true true fuel r
    | _ => .ok (r.add .empty)

/-- The members of a list in flow style, to its end. A single entry of a mapping may stand for
a mapping. -/
def readFlowSequence (first : Bool) : (fuel : Nat) → Read (List NodeId)
  | 0, _ => .error .malformedDocument
  | fuel + 1, r =>
    match r.peek with
    | .flowSequenceEnd => .ok ([], r.next)
    | t => do
      let r ← if first then pure r
        else if t matches .flowEntry then pure r.next
        else throw r.unexpected
      match r.peek with
      | .flowSequenceEnd => return ([], r.next)
      | .key =>
        let (id, r) ← r.next.enter none
        let (key, r) ← match r.peek with
          | .value | .flowEntry | .flowSequenceEnd => pure (r.add .empty)
          | _ => read false false fuel r
        let (value, r) ← match r.peek with
          | .value =>
            let r := r.next
            match r.peek with
            | .flowEntry | .flowSequenceEnd => pure (r.add .empty)
            | _ => read false false fuel r
          | _ => pure (r.add .empty)
        let (items, r) ← readFlowSequence false fuel (r.leave id (.mapping .map [(key, value)]))
        return (id :: items, r)
      | _ =>
        let (item, r) ← read false false fuel r
        let (items, r) ← readFlowSequence false fuel r
        return (item :: items, r)

/-- The entries of a mapping in flow style, to its end. A key may stand without a value. -/
def readFlowMapping (first : Bool) : (fuel : Nat) → Read (List Entry)
  | 0, _ => .error .malformedDocument
  | fuel + 1, r =>
    match r.peek with
    | .flowMappingEnd => .ok ([], r.next)
    | t => do
      let r ← if first then pure r
        else if t matches .flowEntry then pure r.next
        else throw r.unexpected
      match r.peek with
      | .flowMappingEnd => return ([], r.next)
      | .key =>
        let r := r.next
        let (key, r) ← match r.peek with
          | .value | .flowEntry | .flowMappingEnd => pure (r.add .empty)
          | _ => read false false fuel r
        let (value, r) ← match r.peek with
          | .value =>
            let r := r.next
            match r.peek with
            | .flowEntry | .flowMappingEnd => pure (r.add .empty)
            | _ => read false false fuel r
          | _ => pure (r.add .empty)
        let (entries, r) ← readFlowMapping false fuel r
        return ((key, value) :: entries, r)
      | _ =>
        let (key, r) ← read false false fuel r
        let (value, r) := r.add .empty
        let (entries, r) ← readFlowMapping false fuel r
        return ((key, value) :: entries, r)

end

end Reader

/-! ### Documents -/

/-- The abbreviations that need not be declared. -/
def standardHandles : List (String × String) := [("!", "!"), ("!!", standardTags)]

/-- The directives before a document. Only version 1 of the format is read, and nothing is
declared twice. -/
def readDirectives (r : Reader) (versioned : Bool) (declared : List (String × String)) :
    List Token → Except Failure Reader
  | .directive d :: rest =>
    match d with
    | .version major _ =>
      if versioned || major != 1 then .error .malformedDocument
      else readDirectives r true declared rest
    | .handle handle expansion =>
      if (declared.lookup handle).isSome then .error .malformedDocument
      else readDirectives r versioned ((handle, expansion) :: declared) rest
    | .other => readDirectives r versioned declared rest
  | tokens => .ok { r with tokens, handles := declared ++ standardHandles }

/-- Go past marks for the end of a document. -/
def Reader.afterMarks (r : Reader) : Reader :=
  { r with tokens := r.tokens.dropWhile (· matches .documentEnd) }

/-- What a text contains: one document or none. -/
structure Document where
  /-- The nodes. -/
  graph : Graph
  /-- The node that is the document. -/
  root : NodeId

/-- The document of a text given by its tokens. -/
def Document.ofTokens? (tokens : List Token) : Except Failure (Option Document) := do
  let fuel := 5 * (tokens.length + 1)
  let r : Reader := ⟨tokens, standardHandles, [], .empty, 0⟩
  let (root, r) ←
    match tokens with
    | .streamEnd :: _ | [] => return none
    | .directive _ :: _ | .documentStart :: _ =>
      let r ← readDirectives r false [] tokens
      if !(r.peek matches .documentStart) then throw r.unexpected
      let r := r.next
      match r.peek with
      | .directive _ | .documentStart | .documentEnd | .streamEnd => pure (r.add .empty)
      | _ => r.read true false fuel
    | _ => r.read true false fuel
  let r := r.afterMarks
  if !(r.peek matches .streamEnd) then throw r.unexpected
  return some ⟨r.graph, root⟩

end Yaml

end Brainfuck
