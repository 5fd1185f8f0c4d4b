import ApiLint.Yaml.Tag

/-!
# Nodes

The tree that a YAML document spells, every node with its tag and every reference replaced by the
node it refers to.
-/

namespace ApiLint.Yaml

/-- A node of a document. -/
inductive Node
  | scalar (tag : Tag) (text : List Char)
  | sequence (tag : Tag) (items : List Node)
  | mapping (tag : Tag) (entries : List (Node × Node))

namespace Node

/-- The tag of a node. -/
def tag : Node → Tag
  | .scalar t _ => t
  | .sequence t _ => t
  | .mapping t _ => t

/-- The node that stands where nothing is written. -/
def blank : Node := .scalar .null []

mutual

/-- The number of nodes on the longest way down a tree. -/
def height : Node → Nat
  | .scalar _ _ => 1
  | .sequence _ items => itemsHeight items + 1
  | .mapping _ entries => entriesHeight entries + 1

/-- The greatest height of some nodes. -/
def itemsHeight : List Node → Nat
  | [] => 0
  | n :: ns => max n.height (itemsHeight ns)

/-- The greatest height of the nodes of some entries. -/
def entriesHeight : List (Node × Node) → Nat
  | [] => 0
  | (k, v) :: es => max (max k.height v.height) (entriesHeight es)

end

-- ---------------------------------------------------------------------------
-- Merging
-- ---------------------------------------------------------------------------

mutual

/-- The entries that a value under a merge key contributes: those of a mapping, or those of the
mappings of a list, the later ones first. -/
def mergedEntries : Node → Option (List (Node × Node))
  | .mapping _ entries => do
    let (merged, own) ← splitMerges entries
    return merged ++ own
  | .sequence _ items => do return (← mergedItems items).reverse.flatten
  | .scalar _ _ => none

/-- The entries of the mappings of a list. -/
def mergedItems : List Node → Option (List (List (Node × Node)))
  | [] => some []
  | .mapping _ entries :: rest => do
    let (merged, own) ← splitMerges entries
    return (merged ++ own) :: (← mergedItems rest)
  | _ :: _ => none

/-- The entries that are merged into a mapping, and its own ones. The key under which a mapping
keeps its text is a string like any other there. -/
def splitMerges : List (Node × Node) → Option (List (Node × Node) × List (Node × Node))
  | [] => some ([], [])
  | (k, v) :: rest => do
    let here ← if k.tag = .merge then mergedEntries v else some []
    let (merged, own) ← splitMerges rest
    match k, k.tag with
    | _, .merge => return (here ++ merged, own)
    | .scalar _ text, .self => return (merged, (.scalar .str text, v) :: own)
    | k, _ => return (merged, (k, v) :: own)

end

/-- The entries of a mapping with all merges carried out: merged ones come first. -/
def flatten (entries : List (Node × Node)) : Option (List (Node × Node)) := do
  let (merged, own) ← splitMerges entries
  return merged ++ own

end Node

end ApiLint.Yaml
