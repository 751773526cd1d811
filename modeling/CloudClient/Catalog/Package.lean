import CloudClient.Catalog.Item
import CloudClient.Text.Case
import CloudClient.Text.Search

/-!
# Packages and presets

What the catalog sells together.  A package that is not active cannot be ordered; a preset
fixes some items of a package together.
-/

namespace CloudClient.Catalog

/-! ## Packages -/

structure Package where
  id : Int
  keyName : String
  name : String
  description : String
  isActive : Bool
  /-- The key name of its type. -/
  type : Option String
deriving DecidableEq, Repr

namespace Package

def blank : Package := ⟨0, "", "", "", false, none⟩

def fieldNames : List String := ["id", "keyName", "name", "description", "isActive", "type"]

def typeOfJson : Json → Record.Reading String :=
  Record.read ["keyName"] "" fun name v known =>
    match name with
    | "keyName" => Record.string v
    | _ => .ok known

def set (name : String) (v : Json) (p : Package) : Record.Reading Package :=
  match name with
  | "id" => (Record.integer v).map fun id => { p with id := id }
  | "keyName" => (Record.string v).map fun s => { p with keyName := s }
  | "name" => (Record.string v).map fun s => { p with name := s }
  | "description" => (Record.string v).map fun s => { p with description := s }
  | "isActive" => .ok { p with isActive := flag v }
  | "type" => (Record.nullable typeOfJson v).map fun t => { p with type := t }
  | _ => .ok p

def ofJson : Json → Record.Reading Package := Record.read fieldNames blank set

def toJson (p : Package) : Json :=
  .obj ([("description", .str p.description), ("id", .int p.id), ("isActive", .bool p.isActive),
    ("keyName", .str p.keyName), ("name", .str p.name)] ++
    match p.type with
    | some t => [("type", .obj [("keyName", .str t)])]
    | none => [])

/-- Whether a text mentions outlets, in any case. -/
def mentionsOutlet (s : String) : Bool :=
  Text.occurs "OUTLET".toList (Text.upperText s)

def isOutlet (p : Package) : Bool := mentionsOutlet p.name || mentionsOutlet p.description

def withoutOutlet (ps : List Package) : List Package := ps.filter fun p => !p.isOutlet

def active (ps : List Package) : List Package := ps.filter (·.isActive)

end Package

/-! ## Presets -/

structure Preset where
  id : Int
  keyName : String
  name : String
  description : String
  prices : List Price

namespace Preset

def fieldNames : List String := ["id", "keyName", "name", "description", "prices"]

def set (name : String) (v : Json) (p : Preset) : Record.Reading Preset :=
  match name with
  | "id" => (Record.integer v).map fun id => { p with id := id }
  | "keyName" => (Record.string v).map fun s => { p with keyName := s }
  | "name" => (Record.string v).map fun s => { p with name := s }
  | "description" => (Record.string v).map fun s => { p with description := s }
  | "prices" => (Price.listOfJson v).map fun ps => { p with prices := ps }
  | _ => .ok p

def ofJson : Json → Record.Reading Preset := Record.read fieldNames ⟨0, "", "", "", []⟩ set

def toJson (p : Preset) : Json :=
  .obj [("description", .str p.description), ("id", .int p.id), ("keyName", .str p.keyName),
    ("name", .str p.name), ("prices", .arr (Price.eachToJson p.prices))]

def coreCategory : String := "guest_core"

/-- The number of cores: the capacity of the first item of cores. -/
def cores (p : Preset) : Option Binary64 :=
  ((p.prices.filterMap Price.item).find? fun i => i.categoryCode? == some coreCategory).bind
    Item.capacity

end Preset

end CloudClient.Catalog
