import CloudClient.Failure
import CloudClient.Json
import CloudClient.Json.Reader
import CloudClient.Text.Search

/-!
# Filter — which objects a reply lists

A filter is a tree of property names.  A leaf compares a property: it holds an
operation, written as text, integer or boolean, and named options.  On the wire a
leaf is an object with a member `operation`.

* `Filter.ofJson` reads the wire form and names the first offending node in
  pre-order.
* `Filter.toJson` writes it.
* `Filter.set` and `Filter.get?` work along dotted paths; `Filter.place` sets in place.
* `Filter.merge` is a deep union in which the second filter wins.
-/

namespace CloudClient

inductive Operation where
  | text (s : String)
  | integer (i : Int)
  | boolean (b : Bool)
deriving DecidableEq, Repr

namespace Operation

def display : Operation → String
  | .text s => s
  | .integer i => Text.ofInt i
  | .boolean true => "true"
  | .boolean false => "false"

def toJson : Operation → Json
  | .text s => .str s
  | .integer i => .int i
  | .boolean b => .bool b

/-- Reads the wire form: a string, a boolean or an integer of 64 bits. -/
def ofJson? : Json → Option Operation
  | .str s => some (.text s)
  | .bool b => some (.boolean b)
  | v => v.i64?.map .integer

end Operation

/-- A named option of a leaf, such as the direction of an ordering. -/
structure FilterOption where
  name : String
  values : List Json
deriving Repr

namespace FilterOption

def toJson (o : FilterOption) : Json :=
  .object [("name", .str o.name), ("value", .arr o.values)]

/-- Reads one option: an object with `name` and `value`, whatever else it holds,
or a list of just these two. -/
def ofJson? : Json → Option FilterOption
  | .obj members => do
    let name ← (Fields.find? "name" members).bind Json.str?
    let values ← (Fields.find? "value" members).bind Json.arr?
    return ⟨name, values⟩
  | .arr [.str name, .arr values] => some ⟨name, values⟩
  | _ => none

/-- Reads the options of a leaf; missing and null mean none. -/
def listOfJson? : Option Json → Option (List FilterOption)
  | none | some .null => some []
  | some (.arr items) => items.mapM ofJson?
  | some _ => none

end FilterOption

/-- A node of a filter: a comparison or a set of properties. -/
inductive FilterNode where
  | leaf (operation : Operation) (options : List FilterOption)
  /-- Nodes under property names, in key order. -/
  | branch (children : List (String × FilterNode))
deriving Repr, Inhabited

namespace FilterNode

def operation? : FilterNode → Option Operation
  | .leaf op _ => some op
  | .branch _ => none

mutual

/-- Whether the node or one below it is a leaf with this operation text. -/
def hasOperation (op : String) : FilterNode → Bool
  | .leaf operation _ => decide (operation = .text op)
  | .branch children => anyHasOperation op children

def anyHasOperation (op : String) : List (String × FilterNode) → Bool
  | [] => false
  | (_, node) :: r => hasOperation op node || anyHasOperation op r

end

/-! ## Wire form -/

/-- The wire form of a leaf; options are written only if there are some. -/
def leafJson (operation : Operation) (options : List FilterOption) : Json :=
  match options with
  | [] => .obj [("operation", operation.toJson)]
  | _ :: _ =>
    .object [("operation", operation.toJson), ("options", .arr (options.map FilterOption.toJson))]

mutual

def toJson : FilterNode → Json
  | .leaf operation options => leafJson operation options
  | .branch children => .obj (childrenToJson children)

def childrenToJson : List (String × FilterNode) → List (String × Json)
  | [] => []
  | (k, node) :: r => (k, node.toJson) :: childrenToJson r

end

/-- The fault of a node; the root has a name of its own. -/
def invalid (path reason : String) : QueryError :=
  .invalidFilter (if path.isEmpty then "<root>" else path) reason

def childPath (path key : String) : String :=
  if path.isEmpty then key else path ++ "." ++ key

/-- Reads a leaf from the members of an object that holds an `operation`. -/
def leafOfJson (path : String) (operation : Json) (options : Option Json) :
    Except QueryError FilterNode :=
  match Operation.ofJson? operation with
  | none => .error (invalid path "operation must be an integer, string or boolean")
  | some op =>
    match FilterOption.listOfJson? options with
    | none => .error (invalid path "malformed options: not a list of names with value lists")
    | some options => .ok (.leaf op options)

mutual

/-- Reads a node; an object with a member `operation` is a leaf, any other object
a branch. -/
def ofJson (path : String) : Json → Except QueryError FilterNode
  | .obj members =>
    match Fields.find? "operation" members with
    | some operation => leafOfJson path operation (Fields.find? "options" members)
    | none =>
      match childrenOfJson path members with
      | .error e => .error e
      | .ok children => .ok (.branch children)
  | _ => .error (invalid path "expected an object")

/-- Reads the members of an object as named nodes, in their order. -/
def childrenOfJson (path : String) :
    List (String × Json) → Except QueryError (List (String × FilterNode))
  | [] => .ok []
  | (k, v) :: r =>
    match ofJson (childPath path k) v with
    | .error e => .error e
    | .ok node =>
      match childrenOfJson path r with
      | .error e => .error e
      | .ok rest => .ok ((k, node) :: rest)

end

/-! ## Merging -/

mutual

/-- The deep union of two nodes; the second wins unless both are branches. -/
def merge (mine : FilterNode) : FilterNode → FilterNode
  | .leaf op options => .leaf op options
  | .branch theirs =>
    match mine with
    | .leaf _ _ => .branch theirs
    | .branch children => .branch (mergeChildren children theirs)

def mergeChildren (mine : Fields FilterNode) : List (String × FilterNode) → Fields FilterNode
  | [] => mine
  | (k, their) :: r =>
    let merged :=
      match Fields.find? k mine with
      | some child => merge child their
      | none => their
    mergeChildren (Fields.insert k merged mine) r

end

/-! ## Paths -/

/-- Puts a node at the end of a path below named nodes.  Missing branches are
made; none if a proper prefix of the path holds a leaf. -/
def setAt? (node : FilterNode) : List String → Fields FilterNode → Option (Fields FilterNode)
  | [], children => some children
  | [k], children => some (Fields.insert k node children)
  | k :: path, children =>
    match Fields.find? k children with
    | some (.leaf _ _) => none
    | some (.branch below) =>
      (setAt? node path below).map fun below => Fields.insert k (.branch below) children
    | none => (setAt? node path []).map fun below => Fields.insert k (.branch below) children

/-- Does something to the nodes below a name, within the nodes that hold this name.  What an
error leaves below stays there. -/
def within (k : String) (act : EStateM QueryError (Fields FilterNode) Unit)
    (below : Fields FilterNode) : EStateM QueryError (Fields FilterNode) Unit := fun children =>
  match act below with
  | .ok done below => .ok done (Fields.insert k (.branch below) children)
  | .error e below => .error e (Fields.insert k (.branch below) children)

/-- Puts a node at the end of a path, name by name: what is missing on the way is made before
the next name is looked at, and an error leaves what has been made. -/
def placeAt (path : String) (node : FilterNode) :
    List String → EStateM QueryError (Fields FilterNode) Unit
  | [] => pure ()
  | [k] => modify (Fields.insert k node)
  | k :: names => do
    let entry := (Fields.find? k (← get)).getD (.branch [])
    modify (Fields.insert k entry)
    match entry with
    | .leaf _ _ => throw (.invalidPath path)
    | .branch below => within k (placeAt path node names) below

/-- A node under one name after the other. -/
def under (node : FilterNode) : List String → FilterNode
  | [] => node
  | k :: path => .branch [(k, under node path)]

def getAt? : List String → Fields FilterNode → Option FilterNode
  | [], _ => none
  | [k], children => Fields.find? k children
  | k :: path, children =>
    match Fields.find? k children with
    | some (.branch below) => getAt? path below
    | _ => none

end FilterNode

/-- A filter: nodes under the property names at its root. -/
structure Filter where
  root : Fields FilterNode
deriving Repr, Inhabited

namespace Filter

def empty : Filter := ⟨[]⟩

/-- The filter with one node, at the end of a path of names. -/
def only (k : String) (path : List String) (node : FilterNode) : Filter :=
  ⟨[(k, node.under path)]⟩

def isEmpty (f : Filter) : Bool := f.root.isEmpty

def segments (path : String) : List String := Text.splitString '.' path

def set (f : Filter) (path : String) (node : FilterNode) : Except QueryError Filter :=
  if (segments path).any Text.isBlankText then .error (.invalidPath path)
  else
    match FilterNode.setAt? node (segments path) f.root with
    | none => .error (.invalidPath path)
    | some root => .ok ⟨root⟩

/-- Puts a node at a dotted path of a filter that is changed in place: an error comes with
what it leaves of the filter. -/
def place (path : String) (node : FilterNode) : EStateM QueryError Filter Unit := fun f =>
  if (segments path).any Text.isBlankText then .error (.invalidPath path) f
  else
    match FilterNode.placeAt path node (segments path) f.root with
    | .ok done root => .ok done ⟨root⟩
    | .error e root => .error e ⟨root⟩

def get? (f : Filter) (path : String) : Option FilterNode :=
  FilterNode.getAt? (segments path) f.root

def merge (f upper : Filter) : Filter :=
  ⟨FilterNode.mergeChildren f.root upper.root⟩

def hasOperation (f : Filter) (op : String) : Bool :=
  FilterNode.anyHasOperation op f.root

def toJson (f : Filter) : Json :=
  .obj (FilterNode.childrenToJson f.root)

def ofJson (v : Json) : Except QueryError Filter :=
  match FilterNode.ofJson "" v with
  | .error e => .error e
  | .ok (.branch root) => .ok ⟨root⟩
  | .ok (.leaf _ _) => .error (FilterNode.invalid "" "a filter root cannot be a leaf")

def ofText (text : String) : Except QueryError Filter :=
  match Json.read text with
  | .error e => .error (FilterNode.invalid "" ("malformed JSON: " ++ e.message))
  | .ok v => ofJson v

end Filter

end CloudClient
