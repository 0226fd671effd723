import Brainfuck.Yaml.Content
import Brainfuck.Yaml.Merge

/-!
# The objects that nodes stand for

Every node that is needed becomes an object, once, however often it occurs. The members
of a collection are not made together with it: a collection is empty at first and waits
to be filled, and it is filled after all that were waiting before it. So the objects of a
document are made level by level, which decides which of several errors is found, and
which mappings have been flattened when somebody looks at them.

A collection refers to its members by their nodes, since it may be among them.
-/

namespace Brainfuck

namespace Yaml

/-- An object. Members are given by their nodes. -/
inductive Object where
  /-- A value without members. -/
  | simple (value : Value)
  /-- A list. -/
  | list (members : List NodeId)
  /-- A list of pairs. -/
  | pairs (entries : List Entry)
  /-- A set. -/
  | set (members : List NodeId)
  /-- A mapping. -/
  | mapping (entries : List Entry)

/-- The objects of nodes that have been made. -/
abbrev Objects := Array (Option Object)

/-- The objects of a document while they are being made. -/
structure Assembly where
  /-- The nodes. -/
  graph : Graph
  /-- The objects so far, by their nodes. -/
  objects : Objects
  /-- The collections that wait to be filled, the last one first. -/
  waiting : List NodeId
  /-- A bound on the depth of what has to be looked through in the graph. -/
  fuel : Nat

namespace Assembly

/-- The object of a node, if it has been made. -/
def object? (a : Assembly) (id : NodeId) : Option Object := a.objects[id]?.join

/-- Set the object of a node. -/
def put (a : Assembly) (id : NodeId) (object : Object) : Assembly :=
  { a with objects := a.objects.setIfInBounds id (some object) }

/-! ### Making objects -/

/-- The value of a day or moment. Only a text can be one, not a mapping that stands for a
text. -/
def stampOfNode (a : Assembly) (id : NodeId) : Except Failure Value := do
  let text ← a.graph.text a.fuel id
  match a.graph.node id with
  | .scalar _ _ => stampOf text
  | _ => throw .wrongKind

/-- Make the object of a node, unless it has been made. Collections remain empty. -/
def make (a : Assembly) (id : NodeId) : Except Failure Assembly :=
  let simple (v : Except Failure Value) : Except Failure Assembly := do
    return a.put id (.simple (← v))
  let collection (empty : Object) : Except Failure Assembly :=
    .ok { a.put id empty with waiting := id :: a.waiting }
  let text := a.graph.text a.fuel id
  if (a.object? id).isSome then .ok a
  else match a.graph.tag id with
    | .null => simple (text.map fun _ => .null)
    | .bool => simple (text >>= boolOf)
    | .int => simple (text >>= intOf)
    | .float => simple (text >>= floatOf)
    | .binary => simple (text >>= bytesOf)
    | .timestamp => simple (a.stampOfNode id)
    | .str => simple (text.map .text)
    | .seq => collection (.list [])
    | .omap | .pairs => collection (.pairs [])
    | .set => collection (.set [])
    | .map => collection (.mapping [])
    | .merge | .value | .unknown => .error .malformedDocument

/-- Make the objects of an entry. -/
def makeEntry (a : Assembly) (e : Entry) : Except Failure Assembly := do
  (← a.make e.1).make e.2

/-! ### Filling collections -/

/-- The value of a key, which cannot be a collection. -/
def keyValue? (a : Assembly) (id : NodeId) : Option Value :=
  match a.object? id with
  | some (.simple v) => some v
  | _ => none

/-- Whether two keys are the same. Not a number is the same key as itself. -/
def sameKey (a : Assembly) (k l : NodeId) : Bool :=
  match a.keyValue? k, a.keyValue? l with
  | some (.float x), some (.float y) => x == y || (x.isNaN && y.isNaN)
  | some v, some w => v.same w
  | _, _ => false

/-- Add an entry to those of a mapping. A later value for the same key replaces the earlier
one. -/
def addEntry (a : Assembly) (entries : List Entry) (e : Entry) : List Entry :=
  if entries.any fun f => a.sameKey f.1 e.1 then
    entries.map fun f => if a.sameKey f.1 e.1 then (f.1, e.2) else f
  else entries ++ [e]

/-- Make the objects of the entries of a mapping, and collect those entries. -/
def makeEntries (a : Assembly) (collected : List Entry) :
    List Entry → Except Failure (List Entry × Assembly)
  | [] => .ok (collected, a)
  | e :: rest => do
    let a ← a.make e.1
    if (a.keyValue? e.1).isNone then throw .malformedDocument
    let a ← a.make e.2
    makeEntries a (a.addEntry collected e) rest

/-- The entries of a node that has to be a mapping, which is flattened first. -/
def entriesOf (a : Assembly) (id : NodeId) : Except Failure (List Entry × Assembly) :=
  match a.graph.node id with
  | .mapping _ _ => do
    let graph ← a.graph.flatten a.fuel id
    { a with graph }.makeEntries [] (graph.entries id)
  | _ => .error .malformedDocument

/-- The members of a node that has to be a list. -/
def itemsOf (a : Assembly) (id : NodeId) : Except Failure (List NodeId) :=
  match a.graph.node id with
  | .sequence _ items => .ok items
  | _ => .error .malformedDocument

/-- Make the objects of mappings with one entry each, and collect those entries. -/
def makePairs (a : Assembly) : List NodeId → Except Failure (List Entry × Assembly)
  | [] => .ok ([], a)
  | id :: ids =>
    match a.graph.node id with
    | .mapping _ [e] => do
      let (entries, a) ← (← a.makeEntry e).makePairs ids
      return (e :: entries, a)
    | _ => .error .malformedDocument

/-- Fill the collection of a node. -/
def fill (a : Assembly) (id : NodeId) : Except Failure Assembly :=
  match a.object? id with
  | some (.list _) => do
    let items ← a.itemsOf id
    return (← items.foldlM make a).put id (.list items)
  | some (.pairs _) => do
    let (entries, a) ← a.makePairs (← a.itemsOf id)
    return a.put id (.pairs entries)
  | some (.set _) => do
    let (entries, a) ← a.entriesOf id
    return a.put id (.set (entries.map Prod.fst))
  | some (.mapping _) => do
    let (entries, a) ← a.entriesOf id
    return a.put id (.mapping entries)
  | some (.simple _) | none => .ok a

/-- Fill what waits, and what waits then. Every node waits at most once, so there are no more
rounds than nodes. -/
def fillAll : (rounds : Nat) → Assembly → Except Failure Assembly
  | 0, a => .ok a
  | rounds + 1, a =>
    if a.waiting.isEmpty then .ok a
    else do fillAll rounds (← a.waiting.reverse.foldlM fill { a with waiting := [] })

end Assembly

/-- The objects of the nodes that a node leads to. -/
def Graph.objects (g : Graph) (root : NodeId) (fuel : Nat) : Except Failure Objects := do
  let a : Assembly := ⟨g, Array.replicate g.size none, [], fuel⟩
  return (← (← a.make root).fillAll (g.size + 1)).objects

/-! ### Values -/

/-- The number of slots of a set with so many members: a power of two that is at least eight and,
for five members or more, greater than twice their number. -/
def slotCount (size : Nat) : Nat :=
  if size < 5 then 8 else Nat.pow 2 (Nat.log2 (2 * size) + 1)

/-- The members of a set in the order in which it shows them. Whole numbers are in the slot that
is their remainder; the order of anything else is that in which they were given. -/
def inSlots (members : List Value) : List Value :=
  match members.mapM Value.integer? with
  | some numbers =>
    let slots : Int := slotCount members.length
    ((members.zip numbers).mergeSort fun a b => a.2 % slots ≤ b.2 % slots).map Prod.fst
  | none => members

namespace Object

/-- The value of an object, given the values of its members. -/
def value? (known : NodeId → Option Value) : Object → Option Value
  | simple v => some v
  | list members => return .list (← members.mapM known)
  | pairs entries =>
    return .list (← entries.mapM fun e => return .pair (← known e.1) (← known e.2))
  | set members => return .set (inSlots (← members.mapM known))
  | mapping entries =>
    return .mapping (← entries.mapM fun e => return (← known e.1, ← known e.2))

/-- Whether an object is a mapping. -/
def isMapping : Object → Bool
  | mapping _ => true
  | _ => false

end Object

namespace Objects

/-- Give values to objects whose members have values. Members mostly have greater numbers, so
the greatest are the first. -/
def settle (objects : Objects) (known : Array (Option Value)) : Array (Option Value) :=
  (List.range objects.size).foldr (fun id known =>
    if known[id]?.join.isSome then known
    else known.setIfInBounds id (objects[id]?.join >>= Object.value? fun m => known[m]?.join)) known

/-- Give values to all objects that do not contain themselves or one that does. A value is made
once, however often it occurs. -/
def settled (objects : Objects) : (rounds : Nat) → Array (Option Value) → Array (Option Value)
  | 0, known => known
  | rounds + 1, known =>
    let more := objects.settle known
    if more.countP Option.isSome = known.countP Option.isSome then known
    else objects.settled rounds more

/-- The value of an object inside of others. One of those that occurs again is cut off. The fuel
bounds the depth of the value. -/
def unfold (objects : Objects) (known : Array (Option Value)) :
    (fuel : Nat) → (around : List NodeId) → NodeId → Option Value
  | 0, _, _ => none
  | fuel + 1, around, id =>
    match known[id]?.join, objects[id]?.join with
    | some v, _ => some v
    | none, some object =>
      if id ∈ around then some (.again object.isMapping)
      else object.value? (objects.unfold known fuel (id :: around))
    | none, none => none

/-- The value of an object. -/
def value? (objects : Objects) (id : NodeId) : Option Value :=
  let known := objects.settled objects.size (Array.replicate objects.size none)
  objects.unfold known (objects.size + 1) [] id

end Objects

end Yaml

end Brainfuck
