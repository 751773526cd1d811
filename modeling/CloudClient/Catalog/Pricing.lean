import CloudClient.Catalog.Item
import CloudClient.Failure

/-!
# Pricing — from key names to price ids

Every ordered key name has to name one item, and that item needs a price that may be
used.  Items of a slotted category take one numbered slot after the other and are
priced by slot; all others by the first price that is admissible.

* `Pricing.isAdmissible` tells who may use a price.
* `Pricing.capacity?` is the capacity that restricted prices are judged by.
* `Pricing.priceIds` gives the price ids of an order.
-/

namespace CloudClient.Catalog.Pricing

/-! ## Capacity -/

/-- The number at the start of what stands in parentheses, such as the cores in
`Dual Intel Xeon E5-2690 v3 (24 Cores, 2.60 GHz)`. -/
def describedCores? (description : String) : Option Binary64 :=
  (Text.splitOnce? (· == '(') description.toList).bind fun (_, rest) =>
    let word := (Text.trimStart rest).takeWhile fun c => !Text.isBlank c
    if word.isEmpty then none else Decimal.double? (.ofList word)

/-- The capacity that an item gives to an order: that of a processor or of a storage
tier, told by its key name. -/
def orderCapacity? (i : Item) : Option Binary64 :=
  if Text.contains i.keyName "CORE" || Text.contains i.keyName "TIER" then i.capacity
  else if Text.contains i.keyName "INTEL" then describedCores? i.description
  else none

/-- The capacity of the last ordered item that gives one. -/
def capacity? (items : List Item) (keynames : List String) : Option Binary64 :=
  keynames.reverse.findSome? fun keyname =>
    (items.find? fun i => i.keyName == keyname).bind orderCapacity?

/-! ## Admissible prices -/

def isGlobal (p : Price) : Bool := p.locationGroup.isNone

def allowsTerm (p : Price) (term : Nat) : Bool :=
  p.term.all fun t => t.isClose (.ofInt term)

/-- Whether a price may be used at a capacity, if one is known. -/
def allowsCapacity (p : Price) (capacity : Option Binary64) : Bool :=
  match p.restriction, capacity with
  | some restriction, some c =>
    restriction.isEmpty ||
      ((p.minimum.getD (.largest true)).le c && c.le (p.maximum.getD (.largest false)))
  | _, _ => true

def isAdmissible (p : Price) (capacity : Option Binary64) (term : Nat) : Bool :=
  isGlobal p && allowsTerm p term && allowsCapacity p capacity

def firstAdmissible? (prices : List Price) (capacity : Option Binary64) (term : Nat) :
    Option Int :=
  (prices.find? fun p => isAdmissible p capacity term).map Price.id

/-! ## Slots -/

/-- The name of the slots that items of a category take, if they take slots. -/
def slotStem? : String → Option String
  | "gpu0" => some "gpu"
  | "pcie_slot0" => some "pcie_slot"
  | _ => none

/-- The id of the global price whose first category is a slot. -/
def slotPrice? (prices : List Price) (slot : String) : Option Int :=
  (prices.find? fun p => isGlobal p && (p.categories.head?.map Category.code) == some slot).map
    Price.id

/-! ## Orders -/

def operation : String := "get_price_id_list"

/-- The items that a key name names: by their key name or, if there is none such, by the
reference code of their software. -/
def named (items : List Item) (keyname : String) : List Item :=
  match items.filter fun i => i.keyName == keyname with
  | [] => items.filter fun i => i.isNamed keyname
  | found => found

def itemNamed (package : String) (items : List Item) (keyname : String) : Except Failure Item :=
  match named items keyname with
  | [i] => .ok i
  | [] =>
    .error (.ordering operation keyname
      ("Item " ++ keyname ++ " does not exist for package " ++ package))
  | _ =>
    .error (.ordering operation keyname
      ("Item " ++ keyname ++ " is ambiguous in package " ++ package))

/-- The price id of an item that is ordered after items of the categories `before`. -/
def priceId (keyname : String) (i : Item) (before : List String) (capacity : Option Binary64)
    (term : Nat) : Except Failure Int :=
  let category := i.categoryCode?.getD ""
  match slotStem? category with
  | some stem =>
    let slot := stem ++ Text.ofNat (before.count category)
    match slotPrice? i.prices slot with
    | some id => .ok id
    | none =>
      .error (.ordering operation keyname
        ("Item " ++ keyname ++ " has no price for slot " ++ slot))
  | none =>
    match firstAdmissible? i.prices capacity term with
    | some id => .ok id
    | none =>
      .error (.ordering operation keyname ("Could not find valid price for item " ++ keyname))

/-- The price ids of key names that are ordered after items of the categories `before`. -/
def priceIdsFrom (package : String) (items : List Item) (capacity : Option Binary64)
    (term : Nat) (before : List String) : List String → Except Failure (List Int)
  | [] => .ok []
  | keyname :: rest => do
    let i ← itemNamed package items keyname
    let id ← priceId keyname i before capacity term
    let more ← priceIdsFrom package items capacity term (i.categoryCode?.getD "" :: before) rest
    return id :: more

/-- The price ids of an order, one for each key name.  A number of cores, if it is known,
goes before the capacity that the ordered items give. -/
def priceIds (package : String) (items : List Item) (keynames : List String)
    (cores : Option Binary64) (term : Nat) : Except Failure (List Int) :=
  priceIdsFrom package items (cores <|> capacity? items keynames) term [] keynames

end CloudClient.Catalog.Pricing
