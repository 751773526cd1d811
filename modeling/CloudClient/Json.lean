import CloudClient.Binary64
import CloudClient.Fields

/-!
# Json — values of JSON documents

The dynamic values that calls take and replies carry.  A number is either an
integer or a double, and the two are kept apart.  An object is a list of named
values; the functions that build objects keep it in key order.

* `get?` looks up a member and is none on everything but an object.
* `pointer?` follows member names from the root.
-/

namespace CloudClient

inductive Number where
  /-- An integer between the least 64-bit number with sign and the greatest one
  without. -/
  | int (i : Int)
  /-- A finite double. -/
  | double (x : Binary64)
deriving DecidableEq, Repr

def Number.toBinary64 : Number → Binary64
  | .int i => .ofInt i
  | .double x => x

/-- A value of a JSON document. -/
inductive Json where
  | null
  | bool (b : Bool)
  | num (n : Number)
  | str (s : String)
  | arr (items : List Json)
  | obj (members : List (String × Json))
deriving Repr, Inhabited

namespace Json

/-! ## Building -/

def int (i : Int) : Json := .num (.int i)

def nat (n : Nat) : Json := .num (.int n)

/-- A double; infinities and NaN have no JSON number and become null. -/
def double (x : Binary64) : Json :=
  if x.isFinite then .num (.double x) else .null

/-- An object, put in key order; of two members with one name the later wins. -/
def object (members : List (String × Json)) : Json := .obj (Fields.ofList members)

def opt {α : Type} (f : α → Json) : Option α → Json
  | none => .null
  | some a => f a

/-! ## Taking apart -/

def str? : Json → Option String
  | .str s => some s
  | _ => none

def bool? : Json → Option Bool
  | .bool b => some b
  | _ => none

/-- An integer that fits 64 bits with sign. -/
def i64? : Json → Option Int
  | .num (.int i) => if -9223372036854775808 ≤ i ∧ i ≤ 9223372036854775807 then some i else none
  | _ => none

def arr? : Json → Option (List Json)
  | .arr items => some items
  | _ => none

def obj? : Json → Option (List (String × Json))
  | .obj members => some members
  | _ => none

def get? (k : String) : Json → Option Json
  | .obj members => Fields.find? k members
  | _ => none

/-- The value reached by following member names. -/
def pointer? : List String → Json → Option Json
  | [], v => some v
  | k :: path, v => (v.get? k).bind (pointer? path)

/-! ## Invariant -/

mutual

/-- Every object in the value is in strictly increasing key order. -/
def Ordered : Json → Prop
  | .arr items => OrderedItems items
  | .obj members => Fields.Sorted members ∧ OrderedMembers members
  | _ => True

def OrderedItems : List Json → Prop
  | [] => True
  | v :: r => v.Ordered ∧ OrderedItems r

def OrderedMembers : List (String × Json) → Prop
  | [] => True
  | (_, v) :: r => v.Ordered ∧ OrderedMembers r

end

end Json

end CloudClient
