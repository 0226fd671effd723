import Brainfuck.Error
import Brainfuck.Yaml.Graph

/-!
# Entries with a special key

Two kinds of keys do not name an entry of their mapping.

* **Merging.** The value of the entry is a mapping, or a list of mappings, whose entries
  are taken over. They come before the mapping's own ones, and of a list the last mapping
  comes first, so that an entry is overridden by whatever is nearer to the mapping.
* **Standing for the mapping.** Where a text is wanted and there is a mapping, the value
  of the entry is the text. Everywhere else the key is an ordinary text.

`Brainfuck.Yaml.Graph.flatten` does both for good: afterwards the mapping has its entries
and no special keys. Until then `Brainfuck.Yaml.Graph.text` can still see the mark.

A mapping may be merged into itself or into one of its values. Every merge first takes
the entry that asks for it away, so there are never more merges inside one another than
such entries.
-/

namespace Brainfuck

namespace Yaml

namespace Graph

/-- The text of a node. A mapping may have an entry for the text it stands for. The fuel bounds
the number of mappings that stand for one another. -/
def text (g : Graph) : (fuel : Nat) → NodeId → Except Failure String
  | 0, _ => .error .tooDeep
  | fuel + 1, id =>
    match g.node id with
    | .scalar _ text => .ok text
    | .sequence _ _ => .error .malformedDocument
    | .mapping _ entries =>
      match entries.find? fun e => g.tag e.1 = .value with
      | some (_, value) => g.text fuel value
      | none => .error .malformedDocument

/-- Flatten the mappings of a list, which may have nothing else in it. Their entries, those of
the last mapping first, come before the given ones. -/
def flattenAll (flatten : Graph → NodeId → Except Failure Graph) (g : Graph)
    (entries : List Entry) : List NodeId → Except Failure (List Entry × Graph)
  | [] => .ok (entries, g)
  | id :: ids =>
    match g.node id with
    | .mapping _ _ => do
      let g ← flatten g id
      flattenAll flatten g (g.entries id ++ entries) ids
    | _ => .error .malformedDocument

/-- The entries to be taken over from the value of an entry. -/
def entriesToMerge (flatten : Graph → NodeId → Except Failure Graph) (g : Graph) (value : NodeId) :
    Except Failure (List Entry × Graph) :=
  match g.node value with
  | .mapping _ _ => flattenAll flatten g [] [value]
  | .sequence _ items => flattenAll flatten g [] items
  | .scalar _ _ => .error .malformedDocument

/-- Go through the entries of a mapping, of which those before `index` have been seen, and
collect what is merged into it. If the mapping was flattened on the way, by being merged into
itself, nothing is left to do. -/
def mergeEntries (flatten : Graph → NodeId → Except Failure Graph) (id : NodeId) :
    List Entry → (index : Nat) → (merged : List Entry) → Graph →
      Except Failure (List Entry × Graph)
  | [], _, merged, g => .ok (merged, g)
  | (key, value) :: rest, index, merged, g =>
    match g.tag key with
    | .merge => do
      let left := (g.entries id).eraseIdx index
      let (more, g) ← entriesToMerge flatten (g.setEntries id left) value
      if g.entries id = left then mergeEntries flatten id rest index (merged ++ more) g
      else return (merged ++ more, g)
    | .value => mergeEntries flatten id rest (index + 1) merged (g.setTag key .str)
    | _ => mergeEntries flatten id rest (index + 1) merged g

/-- Take the special keys out of a mapping. The fuel bounds the number of merges inside one
another. -/
def flatten : (fuel : Nat) → Graph → NodeId → Except Failure Graph
  | 0, _, _ => .error .tooDeep
  | fuel + 1, g, id => do
    let (merged, g) ← mergeEntries (flatten fuel) id (g.entries id) 0 [] g
    return if merged.isEmpty then g else g.setEntries id (merged ++ g.entries id)

end Graph

end Yaml

end Brainfuck
