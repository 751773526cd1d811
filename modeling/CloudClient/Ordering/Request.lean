import CloudClient.Json.Record

/-!
# Order requests

What to order, in key names of the catalog.  `OrderRequest.ofJson` reads a request that
a user wrote, and `OrderRequest.toJson` writes it with all its fields.
-/

namespace CloudClient

structure OrderRequest where
  /-- The key name of the package. -/
  package : String
  /-- Where to: an id, a datacenter such as `dal13`, a region such as `DALLAS13`, or
  `NONE`. -/
  location : String
  /-- The key names of the items, in order. -/
  items : List String
  /-- The kind of container; none is a virtual guest. -/
  complexType : Option String
  hourly : Bool
  preset : Option String
  /-- Further entries of the container. -/
  extras : Fields Json
  quantity : Nat
  /-- Months that are committed to; zero is none. -/
  term : Nat

namespace OrderRequest

/-- A request for one, by the hour, without anything else. -/
def plain (package location : String) (items : List String) : OrderRequest :=
  ⟨package, location, items, none, true, none, [], 1, 0⟩

def fieldNames : List String :=
  ["package_keyname", "location", "item_keynames", "complex_type", "hourly", "preset_keyname",
    "extras", "quantity", "term"]

def ofJson (v : Json) : Record.Reading OrderRequest := do
  let fields ← Record.fields fieldNames v
  let must {α : Type} (name : String) (read : Json → Record.Reading α) : Record.Reading α := do
    Record.required name (← Record.field? fields name read)
  return {
    package := ← must "package_keyname" Record.string
    location := ← must "location" Record.string
    items := ← must "item_keynames" (Record.list Record.string)
    complexType := ← Record.fieldOr none fields "complex_type" (Record.nullable Record.string)
    hourly := ← Record.fieldOr true fields "hourly" Record.boolean
    preset := ← Record.fieldOr none fields "preset_keyname" (Record.nullable Record.string)
    extras := ← Record.fieldOr [] fields "extras" Record.object
    quantity := ← Record.fieldOr 1 fields "quantity" (Record.natural Text.maxU32)
    term := ← Record.fieldOr 0 fields "term" (Record.natural Text.maxU32) }

def toJson (r : OrderRequest) : Json :=
  .obj [("complex_type", .opt .str r.complexType), ("extras", .obj r.extras),
    ("hourly", .bool r.hourly), ("item_keynames", .arr (r.items.map .str)),
    ("location", .str r.location), ("package_keyname", .str r.package),
    ("preset_keyname", .opt .str r.preset), ("quantity", .nat r.quantity), ("term", .nat r.term)]

end OrderRequest

end CloudClient
