import CloudClient.Failure
import CloudClient.Text.Search

/-!
# Mask — which properties a reply carries

A mask is a list of field expressions under an outer keyword.  Only the outermost
list is split, so that masks from several sources can be merged; selections
inside brackets stay text.  Square and round brackets count alike.

* `Mask.parse` reads a bare list, `[…]`, `mask[…]`, `mask(Type)[…]` and
  `filteredMask[…]`.
* `Mask.text` writes the keyword and the fields.
* `Mask.merge` and `Mask.compose` join masks, each field once, in the order of
  first appearance; `Mask.absorb` merges in place.
-/

namespace CloudClient

/-- The outer keyword of a mask. -/
inductive MaskKind where
  /-- `mask[…]` -/
  | plain
  /-- `filteredMask[…]` -/
  | filtered
  /-- `mask(Type)[…]` -/
  | typed (type : String)
deriving DecidableEq, Repr, Inhabited

def MaskKind.text : MaskKind → String
  | .plain => "mask"
  | .filtered => "filteredMask"
  | .typed type => "mask(" ++ type ++ ")"

/-- A mask: its keyword and its top-level field expressions. -/
structure Mask where
  kind : MaskKind
  /-- Field expressions in order of first appearance. -/
  fields : List String
deriving DecidableEq, Repr, Inhabited

namespace Mask

/-! ## Brackets -/

/-- The nesting depth after one more character; none if a bracket closes nothing. -/
def bracketStep (depth : Nat) (c : Char) : Option Nat :=
  if c == '[' || c == '(' then some (depth + 1)
  else if c == ']' || c == ')' then
    match depth with
    | 0 => none
    | d + 1 => some d
  else some depth

def depthFrom (depth : Nat) : List Char → Option Nat
  | [] => some depth
  | c :: r => (bracketStep depth c).bind fun d => depthFrom d r

/-- Every bracket that opens is closed and none closes nothing. -/
def balanced (cs : List Char) : Bool :=
  depthFrom 0 cs == some 0

/-- The pieces between commas outside all brackets. -/
def splitTop (depth : Nat) : List Char → List (List Char)
  | [] => [[]]
  | c :: r =>
    if c == ',' && depth == 0 then [] :: splitTop depth r
    else
      let next :=
        if c == '[' || c == '(' then depth + 1
        else if c == ']' || c == ')' then depth - 1
        else depth
      match splitTop next r with
      | [] => [[c]]
      | piece :: rest => (c :: piece) :: rest

/-! ## Reading -/

/-- The text between a first `[` and a last `]`, which must pair up inside. -/
def bracketBody? (cs : List Char) : Option (List Char) := do
  let inner ← Text.dropHead? ['['] (Text.trim cs)
  let body ← Text.dropTail? [']'] inner
  if balanced body then some body else none

/-- The keyword of a trimmed mask and the text of its field list. -/
def splitKind? (cs : List Char) : Option (MaskKind × List Char) :=
  match Text.dropHead? "filteredMask".toList cs with
  | some rest => (bracketBody? rest).map (.filtered, ·)
  | none =>
    match Text.dropHead? "mask(".toList cs with
    | some rest =>
      match Text.splitOnce? (· == ')') rest with
      | some (type, rest) =>
        (bracketBody? rest).map (.typed (.ofList (Text.trim type)), ·)
      | none => none
    | none =>
      match Text.dropHead? "mask".toList cs with
      | some rest =>
        if ['['].isPrefixOf (Text.trimStart rest) then (bracketBody? rest).map (.plain, ·)
        else some (.plain, cs)
      | none =>
        if ['['].isPrefixOf cs then (bracketBody? cs).map (.plain, ·) else some (.plain, cs)

def empty : Mask := ⟨.plain, []⟩

/-- Adds a field expression at the end, unless it is blank or already there. -/
def push (m : Mask) (field : String) : Mask :=
  let field := Text.trimmed field
  if field.isEmpty || m.fields.contains field then m
  else { m with fields := m.fields ++ [field] }

/-- A plain mask of field expressions, each once. -/
def ofFields (fields : List String) : Mask :=
  fields.foldl push empty

/-- Adds the pieces of a field list; a blank piece is refused. -/
def pushPieces (source : String) (m : Mask) : List (List Char) → Except QueryError Mask
  | [] => .ok m
  | piece :: rest =>
    if (Text.trim piece).isEmpty then .error (.emptyMaskField source)
    else pushPieces source (m.push (.ofList piece)) rest

def parse (source : String) : Except QueryError Mask :=
  let cs := Text.trim source.toList
  if !balanced cs then .error (.unbalancedMask (.ofList cs))
  else
    match splitKind? cs with
    | none => .error (.unbalancedMask (.ofList cs))
    | some (kind, body) =>
      if (Text.trim body).isEmpty then .ok ⟨kind, []⟩
      else pushPieces source ⟨kind, []⟩ (splitTop 0 body)

/-! ## Writing -/

/-- The written form: the keyword and the fields in brackets. -/
def text (m : Mask) : String :=
  m.kind.text ++ "[" ++ Text.join "," m.fields ++ "]"

def isEmpty (m : Mask) : Bool := m.fields.isEmpty

def contains (m : Mask) (field : String) : Bool := m.fields.contains field

/-- The text sent for a mask: a bare field list is wrapped in `mask[…]`, what
carries a keyword or a bracket already is sent as it is. -/
def wireText (mask : String) : String :=
  let mask := Text.trimmed mask
  if Text.startsWith mask "mask" || Text.startsWith mask "[" || Text.startsWith mask "filteredMask"
  then mask
  else "mask[" ++ mask ++ "]"

/-! ## Joining -/

/-- Adds the fields of another mask.  A mask without fields takes over the other
keyword; otherwise the keywords must agree unless the other has no fields. -/
def merge (m other : Mask) : Except QueryError Mask :=
  if m.fields.isEmpty && m.kind != other.kind then
    .ok (other.fields.foldl push { m with kind := other.kind })
  else if !other.fields.isEmpty && m.kind != other.kind then
    .error (.incompatibleMasks m.kind.text other.kind.text)
  else .ok (other.fields.foldl push m)

/-- Adds the fields of another mask to a mask that is changed in place: an error comes with
what it leaves of the mask. -/
def absorb (other : Mask) : EStateM QueryError Mask Unit := do
  let m ← get
  if m.fields.isEmpty && m.kind != other.kind then
    modify fun m => { m with kind := other.kind }
  else if !other.fields.isEmpty && m.kind != other.kind then
    throw (.incompatibleMasks m.kind.text other.kind.text)
  other.fields.forM fun field => modify (push · field)

/-- Merges the masks of several texts into one, from the left. -/
def composeFrom (m : Mask) : List String → Except QueryError Mask
  | [] => .ok m
  | source :: rest =>
    match parse source with
    | .error e => .error e
    | .ok other =>
      match m.merge other with
      | .error e => .error e
      | .ok m => composeFrom m rest

def compose (sources : List String) : Except QueryError Mask :=
  composeFrom empty sources

end Mask

end CloudClient
