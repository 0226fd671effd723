/-!
# Tags

How a node is to be understood. The tags of this module are the ones with a meaning; what
a document says beyond them is accepted as long as nobody asks for the value of such a
node.
-/

namespace Brainfuck

namespace Yaml

/-- How a node is to be understood. -/
inductive Tag where
  /-- No value. -/
  | null
  /-- A truth value. -/
  | bool
  /-- A whole number. -/
  | int
  /-- A floating-point number. -/
  | float
  /-- Bytes. -/
  | binary
  /-- A day or a moment. -/
  | timestamp
  /-- A list of pairs with the keys of a mapping. -/
  | omap
  /-- A list of pairs. -/
  | pairs
  /-- A set. -/
  | set
  /-- A text. -/
  | str
  /-- A list. -/
  | seq
  /-- A mapping. -/
  | map
  /-- The key of mappings to be merged. -/
  | merge
  /-- The key of the value that a mapping stands for where a text is wanted. -/
  | value
  /-- Anything else. -/
  | unknown
deriving DecidableEq

/-- The beginning of the tags that are understood. -/
def standardTags : String := "tag:yaml.org,2002:"

namespace Tag

/-- The last part of a tag that is understood. -/
def ofName : String → Tag
  | "null" => null
  | "bool" => bool
  | "int" => int
  | "float" => float
  | "binary" => binary
  | "timestamp" => timestamp
  | "omap" => omap
  | "pairs" => pairs
  | "set" => set
  | "str" => str
  | "seq" => seq
  | "map" => map
  | "merge" => merge
  | "value" => value
  | _ => unknown

/-- A tag from its full text. -/
def ofText (text : String) : Tag :=
  if standardTags.toList.isPrefixOf text.toList then
    ofName (String.ofList (text.toList.drop standardTags.length))
  else unknown

end Tag

end Yaml

end Brainfuck
