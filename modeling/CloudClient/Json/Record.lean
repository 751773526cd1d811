import CloudClient.Json.Printer
import CloudClient.Text.Integer

/-!
# Records in JSON

A record is an object whose members are its fields, whatever else the object
holds, or a list of its fields in order.  A reader of a field gives a value or a
complaint.
-/

namespace CloudClient.Record

/-- A value, or what is wrong. -/
abbrev Reading (α : Type) := Except String α

def shape : Json → String
  | .null => "null"
  | .bool b => "boolean \x60" ++ (if b then "true" else "false") ++ "\x60"
  | .num (.int i) => "integer \x60" ++ Text.ofInt i ++ "\x60"
  | .num (.double x) => "floating point \x60" ++ (Json.double x).compact ++ "\x60"
  | .str s => "string " ++ (Json.str s).compact
  | .arr _ => "sequence"
  | .obj _ => "map"

def wrong {α : Type} (expected : String) (v : Json) : Reading α :=
  .error ("invalid type: " ++ shape v ++ ", expected " ++ expected)

/-! ## Values -/

def string : Json → Reading String
  | .str s => .ok s
  | v => wrong "a string" v

/-- An integer of 64 bits. -/
def integer (v : Json) : Reading Int :=
  match v.i64? with
  | some i => .ok i
  | none => wrong "i64" v

/-- A number without sign up to a largest one. -/
def natural (max : Nat) : Json → Reading Nat
  | .num (.int i) =>
    if 0 ≤ i ∧ i ≤ max then .ok i.toNat else wrong "an unsigned number" (.int i)
  | v => wrong "an unsigned number" v

def boolean : Json → Reading Bool
  | .bool b => .ok b
  | v => wrong "a boolean" v

def nullable {α : Type} (read : Json → Reading α) : Json → Reading (Option α)
  | .null => .ok none
  | v => (read v).map some

def list {α : Type} (read : Json → Reading α) : Json → Reading (List α)
  | .arr items => items.mapM read
  | v => wrong "a sequence" v

def object : Json → Reading (Fields Json)
  | .obj members => .ok members
  | v => wrong "a map" v

/-! ## Fields -/

/-- The fields of a record; `names` are all of them, in order. -/
def fields (names : List String) : Json → Reading (List (String × Json))
  | .obj members => .ok members
  | .arr items =>
    if items.length ≤ names.length then .ok (names.zip items)
    else .error ("invalid length " ++ Text.ofNat items.length ++ ", expected fewer elements")
  | v => wrong "a record" v

/-- Sets fields that stand in order without their names. -/
def setByPosition {α : Type} (set : String → Json → α → Reading α) :
    List String → α → List Json → Reading α
  | _, a, [] => .ok a
  | name :: names, a, v :: r => do setByPosition set names (← set name v a) r
  | [], _, v :: r =>
    .error ("invalid length, " ++ Text.ofNat (v :: r).length ++ " elements too many")

def setByName {α : Type} (set : String → Json → α → Reading α) (blank : α)
    (members : List (String × Json)) : Reading α :=
  members.foldlM (fun a (name, v) => set name v a) blank

/-- A record that starts as `blank` and has its fields set one after the other, as they
stand; `names` are all of them. -/
def read {α : Type} (names : List String) (blank : α)
    (set : String → Json → α → Reading α) : Json → Reading α
  | .obj members => setByName set blank members
  | .arr items => setByPosition set names blank items
  | v => wrong "a record" v

def field? {α : Type} (members : List (String × Json)) (name : String)
    (read : Json → Reading α) : Reading (Option α) :=
  match Fields.find? name members with
  | some v => (read v).map some
  | none => .ok none

def fieldOr {α : Type} (missing : α) (members : List (String × Json)) (name : String)
    (read : Json → Reading α) : Reading α :=
  (field? members name read).map (·.getD missing)

def required {α : Type} (name : String) : Option α → Reading α
  | some a => .ok a
  | none => .error ("missing field \x60" ++ name ++ "\x60")

end CloudClient.Record
