import CloudClient.Settings.Yaml.Token

/-!
# Nodes of documents

A document is one node: a scalar, a list or a table, or another node by its anchor.
Anchors are numbered in the order in which they come; a new name gets the number of
names before it, and so does a name that comes again.

* `Node.ofTokens?` gives the node of a text that holds one document, or none if it
  holds nothing.
-/

namespace CloudClient.Settings.Yaml

/-- What stands before a node. -/
structure Properties where
  /-- The number of its anchor. -/
  anchor : Option Nat
  tag : Option Tag.Name
deriving Repr

inductive Node where
  /-- The node with an anchor. -/
  | alias (anchor : Nat)
  | scalar (properties : Properties) (plain : Bool) (text : List Char)
  | list (properties : Properties) (items : List Node)
  | table (properties : Properties) (entries : List (Node × Node))

namespace Node

/-- What is read where a node is left out. -/
def nothing : Node := .scalar ⟨none, none⟩ true []

/-- What is known while nodes are read. -/
structure State where
  tokens : List Token
  /-- The names of anchors so far, each with the number it has now. -/
  anchors : List (List Char × Nat)
  /-- What handles of tags stand for. -/
  meanings : List Tag.Meaning

abbrev Reader := StateT State Option

def peek : Reader (Option Token) := do return (← get).tokens.head?

def skip : Reader Unit := modify fun s => { s with tokens := s.tokens.tail }

def isNext (tokens : List Token) : Reader Bool := do
  return (← peek).any fun t => tokens.contains t

/-- Goes on after a token that has to be there. -/
def expect (t : Token) : Reader Unit := do
  if ← isNext [t] then skip else failure

def number (name : List Char) : Reader Nat := do
  let s ← get
  let n := s.anchors.length
  let others := s.anchors.filter (·.1 != name)
  set { s with anchors := (name, n) :: others }
  return n

/-- The number of an anchor that has to be known. -/
def numberOf (name : List Char) : Reader Nat := do
  match (← get).anchors.find? (·.1 == name) with
  | some (_, n) => return n
  | none => failure

/-! ## Properties -/

def anchor : Reader (Option (List Char)) := do
  match ← peek with
  | some (.anchor name) => skip; return some name
  | _ => return none

def tag : Reader (Option Tag) := do
  match ← peek with
  | some (.tag t) => skip; return some t
  | _ => return none

/-- Reads an anchor and a tag, in either order. -/
def properties : Reader (Option (List Char) × Option Tag.Name) := do
  let first ← anchor
  let t ← tag
  let name ← if first.isSome then pure first else if t.isSome then anchor else pure none
  match t with
  | none => return (name, none)
  | some t =>
    match t.resolve? (← get).meanings with
    | some full => return (name, some full)
    | none => failure

/-! ## Nodes -/

/-- The places in which a node is read. -/
inductive Context where
  | flow
  /-- As an item or a document. -/
  | block
  /-- As a key or a value of a table without brackets, where a list may start at the
  column of the table. -/
  | entry
deriving DecidableEq

/-- A node that has properties and nothing else. -/
def left (name : Option (List Char)) (tag : Option Tag.Name) : Reader Node := do
  if name.isNone && tag.isNone then failure
  else return .scalar ⟨← name.mapM number, tag⟩ true []

def nothingBefore (tokens : List Token) (node : Reader Node) : Reader Node := do
  if ← isNext tokens then return nothing else node

/-- Reads a value behind its mark, or nothing if there is no mark. -/
def marked (node : Reader Node) : Reader Node := do
  if ← isNext [.value] then
    skip
    node
  else return nothing

/-- Goes on after a comma, which the first node between brackets does without. -/
def separate (first : Bool) : Reader Unit := if first then pure () else expect .comma

mutual

def read (context : Context) : Nat → Reader Node
  | 0 => failure
  | fuel + 1 => do
    if let some (.alias name) ← peek then
      skip
      return .alias (← numberOf name)
    let (name, tag) ← properties
    match ← peek with
    | some (.scalar plain text) =>
      skip
      let anchor ← name.mapM number
      return .scalar ⟨anchor, tag.filter (· != Tag.openName)⟩ plain text
    | some .flowListStart =>
      skip
      let anchor ← name.mapM number
      return .list ⟨anchor, tag⟩ (← flowItems true fuel)
    | some .flowTableStart =>
      skip
      let anchor ← name.mapM number
      return .table ⟨anchor, tag⟩ (← flowEntries true fuel)
    | some .listStart =>
      if context = .flow then left name tag
      else
        skip
        let anchor ← name.mapM number
        return .list ⟨anchor, tag⟩ (← items fuel)
    | some .tableStart =>
      if context = .flow then left name tag
      else
        skip
        let anchor ← name.mapM number
        return .table ⟨anchor, tag⟩ (← entries fuel)
    | some .item =>
      if context = .entry then
        let anchor ← name.mapM number
        return .list ⟨anchor, tag⟩ (← entryItems fuel)
      else left name tag
    | _ => left name tag

def items : Nat → Reader (List Node)
  | 0 => failure
  | fuel + 1 => do
    if ← isNext [.blockEnd] then
      skip
      return []
    expect .item
    let node ← nothingBefore [.item, .blockEnd] (read .block fuel)
    return node :: (← items fuel)

/-- Reads the items of a list that starts at the column of the table around it. -/
def entryItems : Nat → Reader (List Node)
  | 0 => failure
  | fuel + 1 => do
    if ← isNext [.item] then
      skip
      let node ← nothingBefore [.item, .key, .value, .blockEnd] (read .block fuel)
      return node :: (← entryItems fuel)
    else return []

def entries : Nat → Reader (List (Node × Node))
  | 0 => failure
  | fuel + 1 => do
    if ← isNext [.blockEnd] then
      skip
      return []
    expect .key
    let key ← nothingBefore [.key, .value, .blockEnd] (read .entry fuel)
    let value ← marked (nothingBefore [.key, .value, .blockEnd] (read .entry fuel))
    return (key, value) :: (← entries fuel)

/-- Reads the items of a list in brackets; an item may be a single entry.  Where the
key of such an entry is left out, so is the token behind its mark. -/
def flowItems (first : Bool) : Nat → Reader (List Node)
  | 0 => failure
  | fuel + 1 => do
    if ← isNext [.flowListEnd] then
      skip
      return []
    separate first
    if ← isNext [.key] then
      skip
      let key ←
        if ← isNext [.value, .comma, .flowListEnd] then
          skip
          pure nothing
        else read .flow fuel
      let value ← marked (nothingBefore [.comma, .flowListEnd] (read .flow fuel))
      return .table ⟨none, none⟩ [(key, value)] :: (← flowItems false fuel)
    else if ← isNext [.flowListEnd] then
      skip
      return []
    else
      let node ← read .flow fuel
      return node :: (← flowItems false fuel)

/-- Reads the entries of a table in braces; the value of an entry may be left out. -/
def flowEntries (first : Bool) : Nat → Reader (List (Node × Node))
  | 0 => failure
  | fuel + 1 => do
    if ← isNext [.flowTableEnd] then
      skip
      return []
    separate first
    if ← isNext [.key] then
      skip
      let key ← nothingBefore [.value, .comma, .flowTableEnd] (read .flow fuel)
      let value ← marked (nothingBefore [.comma, .flowTableEnd] (read .flow fuel))
      return (key, value) :: (← flowEntries false fuel)
    else if ← isNext [.flowTableEnd] then
      skip
      return []
    else
      let key ← read .flow fuel
      return (key, nothing) :: (← flowEntries false fuel)

end

/-! ## Documents -/

/-- Whether a token stands before or after a document and not in it. -/
def isOutside : Token → Bool
  | .version _ _ | .meaning _ | .documentStart | .documentEnd => true
  | _ => false

/-- Reads the directives before a document: at most one version, and at most one
meaning for each handle. -/
def directives? (versioned : Bool) (meanings : List Tag.Meaning) :
    List Token → Option (List Tag.Meaning × List Token)
  | .version major minor :: r =>
    if versioned || major != 1 || (minor != 1 && minor != 2) then none
    else directives? true meanings r
  | .meaning m :: r =>
    if meanings.any (·.handle == m.handle) then none
    else directives? versioned (meanings ++ [m]) r
  | tokens => some (meanings, tokens)

/-- Reads the node of a document and gives the tokens after it.  The reader goes down
by at most four calls for a token. -/
def root? (meanings : List Tag.Meaning) (tokens : List Token) : Option (Node × List Token) :=
  (read .block (4 * tokens.length + 4) ⟨tokens, [], meanings⟩).map fun (node, s) =>
    (node, s.tokens)

/-- Reads the first document and gives the tokens after it. -/
def first? (tokens : List Token) : Option (Node × List Token) := do
  if tokens.head?.any fun t => isOutside t && t != .documentEnd then
    let (meanings, rest) ← directives? false [] tokens
    match rest with
    | .documentStart :: rest =>
      if rest.head?.all isOutside then return (nothing, rest) else root? meanings rest
    | _ => none
  else root? [] tokens

/-- The node of a text with one document, or none if there is no document at all. -/
def ofTokens? (tokens : List Token) : Option (Option Node) :=
  if tokens.isEmpty then some none
  else
    match first? tokens with
    | some (node, rest) => if rest.all (· == .documentEnd) then some (some node) else none
    | none => none

end Node

end CloudClient.Settings.Yaml
