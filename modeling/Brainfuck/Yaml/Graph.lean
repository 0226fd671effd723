import Brainfuck.Yaml.Tag

/-!
# The graph of a document

The nodes of a document are texts, lists and mappings. A node may occur in several places,
also inside itself, so nodes are kept side by side and refer to one another by number.

Understanding a document changes it: what is merged into a mapping becomes part of it,
and everything that looks at the mapping afterwards sees the merged entries. That is why
the graph has operations to change a node, and why it is passed on from one step to the
next.
-/

namespace Brainfuck

namespace Yaml

/-- The number of a node. -/
abbrev NodeId := Nat

/-- An entry of a mapping: its key and its value. -/
abbrev Entry := NodeId × NodeId

/-- A node. -/
inductive Node where
  /-- A text. -/
  | scalar (tag : Tag) (text : String)
  /-- A list. -/
  | sequence (tag : Tag) (items : List NodeId)
  /-- A mapping. -/
  | mapping (tag : Tag) (entries : List Entry)

namespace Node

/-- A node without content. -/
def empty : Node := scalar .null ""

/-- The tag of a node. -/
def tag : Node → Tag
  | scalar tag _ | sequence tag _ | mapping tag _ => tag

/-- A node with another tag. -/
def withTag (tag : Tag) : Node → Node
  | scalar _ text => scalar tag text
  | sequence _ items => sequence tag items
  | mapping _ entries => mapping tag entries

/-- The entries of a mapping; other nodes have none. -/
def entries : Node → List Entry
  | mapping _ entries => entries
  | scalar _ _ | sequence _ _ => []

end Node

/-- The nodes of a document, each known by its position. -/
structure Graph where
  /-- The nodes. -/
  nodes : Array Node

namespace Graph

/-- A graph without nodes. -/
def empty : Graph := ⟨#[]⟩

/-- The number of nodes. -/
def size (g : Graph) : Nat := g.nodes.size

/-- The node of a given number. -/
def node (g : Graph) (id : NodeId) : Node := g.nodes[id]?.getD .empty

/-- The tag of a node. -/
def tag (g : Graph) (id : NodeId) : Tag := (g.node id).tag

/-- The entries of a node. -/
def entries (g : Graph) (id : NodeId) : List Entry := (g.node id).entries

/-- Put a node in the place of another. -/
def put (g : Graph) (id : NodeId) (node : Node) : Graph := ⟨g.nodes.setIfInBounds id node⟩

/-- Add a node, which gets the next number. -/
def add (g : Graph) (node : Node) : NodeId × Graph := (g.size, ⟨g.nodes.push node⟩)

/-- Change the tag of a node. -/
def setTag (g : Graph) (id : NodeId) (tag : Tag) : Graph := g.put id ((g.node id).withTag tag)

/-- Change the entries of a mapping. -/
def setEntries (g : Graph) (id : NodeId) (entries : List Entry) : Graph :=
  g.put id (.mapping (g.tag id) entries)

end Graph

end Yaml

end Brainfuck
