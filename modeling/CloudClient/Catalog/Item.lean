import CloudClient.Decimal.Reader
import CloudClient.Json.Record
import CloudClient.Text.Blank

/-!
# Items and prices

An item has prices, and a price may name its item.  A price without a location group
holds everywhere; a term and a capacity restrict who may order at it.

The catalog is loose about scalar types: capacities come as `"4"` or `4.00`, flags as `1` or
`0`, ids as numbers or text.  Each reader takes every form.

* `number` and `flag` never complain; what they cannot read is none, or false.
* `Item.ofJson` and `Price.ofJson` read records.
* `Item.toJson` and `Price.toJson` write them.
-/

namespace CloudClient.Catalog

/-! ## Loose scalars -/

/-- A flag: a truth value, a number other than zero, or a word for it. -/
def flag : Json → Bool
  | .bool b => b
  | .num n => !n.toBinary64.isZero
  | .str s => ["1", "true", "True", "yes"].contains (Text.trimmed s)
  | _ => false

/-- A number or the text of one. -/
def number : Json → Option Binary64
  | .num n => some n.toBinary64
  | .str s => Decimal.double? (Text.trimmed s)
  | _ => none

/-- An id, the text of one, or nothing: null and blank text. -/
def idNumber : Json → Record.Reading (Option Int)
  | .null => .ok none
  | .num n =>
    match (Json.num n).i64? with
    | some i => .ok (some i)
    | none => .error ((Json.num n).compact ++ " is not an integer id")
  | .str s =>
    if Text.isBlankText s then .ok none
    else
      match Text.i64? (Text.trimmed s) with
      | some i => .ok (some i)
      | none => .error ("\x60" ++ s ++ "\x60 is not an integer id")
  | v => Record.wrong "an integer id" v

/-! ## Categories and software -/

structure Category where
  id : Option Int
  name : Option String
  code : String
deriving DecidableEq, Repr

namespace Category

def fieldNames : List String := ["id", "name", "categoryCode"]

def set (name : String) (v : Json) (c : Category) : Record.Reading Category :=
  match name with
  | "id" => (Record.nullable Record.integer v).map fun id => { c with id := id }
  | "name" => (Record.nullable Record.string v).map fun s => { c with name := s }
  | "categoryCode" => (Record.string v).map fun s => { c with code := s }
  | _ => .ok c

def ofJson : Json → Record.Reading Category := Record.read fieldNames ⟨none, none, ""⟩ set

def toJson (c : Category) : Json :=
  .obj [("categoryCode", .str c.code), ("id", .opt .int c.id), ("name", .opt .str c.name)]

end Category

structure Software where
  id : Option Int
  referenceCode : Option String
  longDescription : Option String
deriving DecidableEq, Repr

namespace Software

def fieldNames : List String := ["id", "referenceCode", "longDescription"]

def set (name : String) (v : Json) (s : Software) : Record.Reading Software :=
  match name with
  | "id" => (Record.nullable Record.integer v).map fun id => { s with id := id }
  | "referenceCode" =>
    (Record.nullable Record.string v).map fun code => { s with referenceCode := code }
  | "longDescription" =>
    (Record.nullable Record.string v).map fun text => { s with longDescription := text }
  | _ => .ok s

def ofJson : Json → Record.Reading Software := Record.read fieldNames ⟨none, none, none⟩ set

def toJson (s : Software) : Json :=
  .obj [("id", .opt .int s.id), ("longDescription", .opt .str s.longDescription),
    ("referenceCode", .opt .str s.referenceCode)]

end Software

/-! ## Items and prices -/

mutual

structure Price where
  id : Int
  /-- The group of locations that the price is for; none is everywhere. -/
  locationGroup : Option Int
  /-- Months that have to be committed to. -/
  term : Option Binary64
  /-- What the capacity is a number of, if it is restricted. -/
  restriction : Option String
  minimum : Option Binary64
  maximum : Option Binary64
  categories : List Category
  item : Option Item

structure Item where
  id : Int
  keyName : String
  description : String
  capacity : Option Binary64
  category : Option Category
  prices : List Price
  software : Option Software

end

namespace Price

def blank : Price := ⟨0, none, none, none, none, none, [], none⟩

def fieldNames : List String :=
  ["id", "locationGroupId", "termLength", "capacityRestrictionType",
    "capacityRestrictionMinimum", "capacityRestrictionMaximum", "categories", "item"]

/-- Sets a field other than the item; other names are ignored. -/
def set (name : String) (v : Json) (p : Price) : Record.Reading Price :=
  match name with
  | "id" => (Record.integer v).map fun id => { p with id := id }
  | "locationGroupId" => (idNumber v).map fun g => { p with locationGroup := g }
  | "termLength" => .ok { p with term := number v }
  | "capacityRestrictionType" =>
    (Record.nullable Record.string v).map fun r => { p with restriction := r }
  | "capacityRestrictionMinimum" => .ok { p with minimum := number v }
  | "capacityRestrictionMaximum" => .ok { p with maximum := number v }
  | "categories" => (Record.list Category.ofJson v).map fun cs => { p with categories := cs }
  | _ => .ok p

end Price

namespace Item

def blank : Item := ⟨0, "", "", none, none, [], none⟩

def fieldNames : List String :=
  ["id", "keyName", "description", "capacity", "itemCategory", "prices", "softwareDescription"]

/-- Sets a field other than the prices; other names are ignored. -/
def set (name : String) (v : Json) (i : Item) : Record.Reading Item :=
  match name with
  | "id" => (Record.integer v).map fun id => { i with id := id }
  | "keyName" => (Record.string v).map fun s => { i with keyName := s }
  | "description" => (Record.string v).map fun s => { i with description := s }
  | "capacity" => .ok { i with capacity := number v }
  | "itemCategory" => (Record.nullable Category.ofJson v).map fun c => { i with category := c }
  | "softwareDescription" =>
    (Record.nullable Software.ofJson v).map fun s => { i with software := s }
  | _ => .ok i

end Item

/-! ## Reading -/

mutual

def Item.ofJson : Json → Record.Reading Item
  | .obj members => Item.setByName .blank members
  | .arr items => Item.setByPosition Item.fieldNames .blank items
  | v => Record.wrong "an item" v

def Item.setByName (i : Item) : List (String × Json) → Record.Reading Item
  | [] => .ok i
  | (name, v) :: r => do
    if name = "prices" then
      let prices ← Price.listOfJson v
      Item.setByName { i with prices := prices } r
    else Item.setByName (← i.set name v) r

def Item.setByPosition (names : List String) (i : Item) : List Json → Record.Reading Item
  | [] => .ok i
  | v :: r =>
    match names with
    | [] => .error "invalid length, too many elements"
    | name :: names => do
      if name = "prices" then
        let prices ← Price.listOfJson v
        Item.setByPosition names { i with prices := prices } r
      else Item.setByPosition names (← i.set name v) r

def Price.listOfJson : Json → Record.Reading (List Price)
  | .arr items => Price.eachOfJson items
  | v => Record.wrong "a sequence" v

def Price.eachOfJson : List Json → Record.Reading (List Price)
  | [] => .ok []
  | v :: r => do return (← Price.ofJson v) :: (← Price.eachOfJson r)

def Price.ofJson : Json → Record.Reading Price
  | .obj members => Price.setByName .blank members
  | .arr items => Price.setByPosition Price.fieldNames .blank items
  | v => Record.wrong "a price" v

def Price.setByName (p : Price) : List (String × Json) → Record.Reading Price
  | [] => .ok p
  | (name, v) :: r => do
    if name = "item" then
      let item ← Price.itemOfJson v
      Price.setByName { p with item := item } r
    else Price.setByName (← p.set name v) r

def Price.setByPosition (names : List String) (p : Price) : List Json → Record.Reading Price
  | [] => .ok p
  | v :: r =>
    match names with
    | [] => .error "invalid length, too many elements"
    | name :: names => do
      if name = "item" then
        let item ← Price.itemOfJson v
        Price.setByPosition names { p with item := item } r
      else Price.setByPosition names (← p.set name v) r

def Price.itemOfJson : Json → Record.Reading (Option Item)
  | .null => .ok none
  | .obj members => (Item.setByName .blank members).map some
  | .arr items => (Item.setByPosition Item.fieldNames .blank items).map some
  | v => Record.wrong "an item" v

end

/-! ## Writing -/

mutual

def Item.toJson : Item → Json
  | ⟨id, keyName, description, capacity, category, prices, software⟩ =>
    .obj [("capacity", .opt .double capacity), ("description", .str description), ("id", .int id),
      ("itemCategory", .opt Category.toJson category), ("keyName", .str keyName),
      ("prices", .arr (Price.eachToJson prices)),
      ("softwareDescription", .opt Software.toJson software)]

def Price.eachToJson : List Price → List Json
  | [] => []
  | p :: r => p.toJson :: Price.eachToJson r

def Price.toJson : Price → Json
  | ⟨id, locationGroup, term, restriction, minimum, maximum, categories, item⟩ =>
    .obj ([("capacityRestrictionMaximum", .opt .double maximum),
      ("capacityRestrictionMinimum", .opt .double minimum),
      ("capacityRestrictionType", .opt .str restriction),
      ("categories", .arr (categories.map Category.toJson)), ("id", .int id)] ++
      Price.itemToJson item ++
      [("locationGroupId", .opt .int locationGroup), ("termLength", .opt .double term)])

def Price.itemToJson : Option Item → List (String × Json)
  | none => []
  | some i => [("item", i.toJson)]

end

/-! ## Names of items -/

namespace Item

def categoryCode? (i : Item) : Option String := i.category.map Category.code

/-- Whether a key name names the item, by its own key name or by the reference code of its
software. -/
def isNamed (i : Item) (keyname : String) : Bool :=
  i.keyName == keyname || (i.software.bind Software.referenceCode) == some keyname

end Item

end CloudClient.Catalog
