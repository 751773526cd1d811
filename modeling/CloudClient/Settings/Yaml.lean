import CloudClient.Fields
import CloudClient.Settings.Yaml.Node
import CloudClient.Settings.Yaml.Scalar

/-!
# Settings in YAML

The value of a node is built from the values of the nodes in it.  An alias stands for
the node with its anchor, the last one if several have its number.  Nodes may stand at
most 128 deep in each other, and aliases may be followed at most a hundred times for
each node.

* `read?` gives the entries of the document, which has to be a table or nothing.
-/

namespace CloudClient.Settings.Yaml

/-! ## Sizes and anchors -/

mutual

/-- The number of marks that a node is made of: its scalars and aliases, and the start
and the end of its collections. -/
def Node.size : Node → Nat
  | .alias _ => 1
  | .scalar _ _ _ => 1
  | .list _ items => 2 + Node.sizes items
  | .table _ entries => 2 + Node.entrySizes entries

def Node.sizes : List Node → Nat
  | [] => 0
  | node :: r => node.size + Node.sizes r

def Node.entrySizes : List (Node × Node) → Nat
  | [] => 0
  | (key, value) :: r => key.size + value.size + Node.entrySizes r

end

def Node.underAnchor (p : Properties) (node : Node) : List (Nat × Node) :=
  (p.anchor.map fun n => (n, node)).toList

mutual

/-- The nodes with anchors, in the order in which they start. -/
def Node.anchored : Node → List (Nat × Node)
  | .alias _ => []
  | .scalar p plain text => Node.underAnchor p (.scalar p plain text)
  | .list p items => Node.underAnchor p (.list p items) ++ Node.allAnchored items
  | .table p entries => Node.underAnchor p (.table p entries) ++ Node.entriesAnchored entries

def Node.allAnchored : List Node → List (Nat × Node)
  | [] => []
  | node :: r => node.anchored ++ Node.allAnchored r

def Node.entriesAnchored : List (Node × Node) → List (Nat × Node)
  | [] => []
  | (key, value) :: r => key.anchored ++ value.anchored ++ Node.entriesAnchored r

end

/-! ## Values -/

/-- Reading values; the state is the number of aliases that may still be followed. -/
abbrev Valuing := StateT Nat Option

/-- The nodes with anchors, the latest first. -/
abbrev Anchors := List (Nat × Node)

/-- The node itself, or the node that an alias stands for. -/
def follow (anchors : Anchors) (node : Node) : Valuing Node := do
  match node with
  | .alias n =>
    match ← get with
    | 0 => failure
    | left + 1 =>
      set left
      match anchors.find? (·.1 == n) with
      | some (_, target) => return target
      | none => failure
  | _ => return node

/-- The text of a key, which is a scalar of any kind. -/
def keyText (anchors : Anchors) (node : Node) : Valuing String := do
  match ← follow anchors node with
  | .scalar _ _ text => return .ofList text
  | _ => failure

/-- The entries of a table, given the values of its nodes; of two entries with one key
the later wins. -/
def tableOf (anchors : Anchors) (value : Node → Valuing Value) (entries : List (Node × Node)) :
    Valuing (Fields Value) := do
  let read ← entries.mapM fun (key, node) => do
    let name ← keyText anchors key
    return (name, ← value node)
  return Fields.ofList read

/-- The value of a node that may hold nodes as deep as `depth`. -/
def value (anchors : Anchors) : Nat → Node → Valuing Value
  | depth, node => do
    match ← follow anchors node, depth with
    | .scalar p plain text, _ =>
      match Scalar.value? p.tag plain (.ofList text) with
      | some v => return v
      | none => failure
    | .list p items, depth + 1 =>
      if p.tag.any Scalar.isLocal then failure
      else return .list (← items.mapM (value anchors depth))
    | .table p entries, depth + 1 =>
      if p.tag.any Scalar.isLocal then failure
      else return .table (← tableOf anchors (value anchors depth) entries)
    | _, _ => failure

def maxDepth : Nat := 128

/-- How often aliases may be followed for each mark of a document. -/
def maxRepetition : Nat := 100

/-- The entries of a document.  A document without a value has none. -/
def Node.entries? (node : Node) : Option (Fields Value) :=
  let anchors := node.anchored.reverse
  match node with
  | .table _ entries =>
    (tableOf anchors (value anchors (maxDepth - 1)) entries (maxRepetition * node.size)).map (·.1)
  | .scalar _ true [] => some []
  | _ => none

/-- The entries of a text, which holds one document or none. -/
def read? (text : String) : Option (Fields Value) := do
  let tokens ← Token.scan? text.toList
  match ← Node.ofTokens? tokens with
  | none => some []
  | some node => node.entries?

end CloudClient.Settings.Yaml
