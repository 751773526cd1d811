import CloudClient.Call.Naming
import CloudClient.Catalog.Package
import CloudClient.Catalog.Pricing
import CloudClient.Client.Plan
import CloudClient.Ordering.Request
import CloudClient.Query.Shorthand

/-!
# Ordering — from key names to orders

Each operation is a procedure: it looks key names up in the catalog, builds a
container, and submits it last.  A lookup that fails ends the procedure before
anything is submitted.

* `Ordering.container` resolves a request into a container.
* `Ordering.placeOrder`, `Ordering.placeQuote` and `Ordering.orderQuote` submit.
-/

namespace CloudClient.Ordering

open Catalog

/-! ## Masks -/

def packageMask : String := "id,keyName,name,description,isActive,type[keyName]"

def itemMask : String :=
  "id,keyName,description,capacity,itemCategory,prices[categories]," ++
    "softwareDescription[id,referenceCode,longDescription]"

def presetMask : String := "id,keyName,name,description"

def presetPricesMask : String :=
  "id,keyName,prices[id,item[id,keyName,capacity,itemCategory]]"

def categoryMask : String := "id,isRequired,itemCategory[id,name,categoryCode]"

def locationMask : String := "id,name,regions[keyname]"

def regionMask : String := "description,keyname,location"

def locationPricesMask : String := "filteredMask[pricingLocationGroup[locations]]"

def quoteMask : String :=
  "id,name,createDate,modifyDate,status," ++
    "order[id,orderTotalAmount,items[id,description,categoryCode]]"

def orderMask : String :=
  "id,createDate,status,orderTotalAmount," ++
    "items[id,description,categoryCode,hourlyRecurringFee,recurringFee],userRecord[username]"

/-! ## Calls -/

def packages : String := "Product_Package"

def orders : String := "Product_Order"

def quotes : String := "Billing_Order_Quote"

def operationName (service method : String) : String :=
  Naming.serviceHead ++ service ++ "." ++ method

/-- A reading as a procedure; a complaint is a malformed reply of the operation. -/
def reading {α : Type} (operation : String) (r : Record.Reading α) : Procedure α :=
  match r with
  | .ok a => return a
  | .error complaint => throw (.malformed operation complaint)

def onObject (id : Int) : CallOptions := { CallOptions.none with id := some id }

def masked (mask : String) (options : CallOptions) : CallOptions :=
  { options with mask := some mask }

def filtered (filter : Option Filter) (options : CallOptions) : CallOptions :=
  { options with filter := filter }

/-- A call without arguments that gives a list; null is an empty one. -/
def list {α : Type} (read : Json → Record.Reading α) (service method : String)
    (options : CallOptions) : Procedure (List α) := do
  match ← Procedure.call service method [] options with
  | .null => return []
  | v => reading (operationName service method) (Record.list read v)

def listAny (service method : String) (options : CallOptions) : Procedure (List Json) :=
  list .ok service method options

def giveUp {α : Type} (operation keyname detail : String) : Procedure α :=
  throw (.ordering operation keyname detail)

/-! ## Packages -/

/-- The packages of some types, without outlets. -/
def packagesOfTypes (types : List String) (mask : Option String) : Procedure (List Package) := do
  let among := Shorthand.among (types.map Json.str)
  let found ← list Package.ofJson packages "getAllObjects"
    (masked (mask.getD packageMask)
      (filtered (some (Filter.only "type" ["keyName"] among)) CallOptions.none))
  return Package.withoutOutlet found

def packageOfType (type : String) (mask : Option String) : Procedure (Option Package) :=
  List.getLast? <$> packagesOfTypes [type] mask

def packageIdOfType (type : String) : Procedure Int := do
  match ← packageOfType type none with
  | some p => return p.id
  | none => giveUp "get_package_id_by_type" type ("No package found for type: " ++ type)

def activePackages (filter : Option Filter) : Procedure (List Package) := do
  let found ← list Package.ofJson packages "getAllObjects"
    (masked packageMask (filtered filter CallOptions.none))
  return Package.active found

def packageNamed (keyname : String) : Procedure Package := do
  match ← activePackages (some (Filter.only "keyName" [] (Shorthand.exact keyname))) with
  | [p] => return p
  | [] => giveUp "get_package_by_key" keyname ("Package " ++ keyname ++ " does not exist")
  | many =>
    giveUp "get_package_by_key" keyname
      (Text.ofNat many.length ++ " active packages match " ++ keyname)

def categories (package : String) : Procedure (List Json) := do
  let p ← packageNamed package
  listAny packages "getConfiguration" (masked categoryMask (onObject p.id))

def itemsOf (p : Package) (filter : Option Filter) : Procedure (List Item) :=
  list Item.ofJson packages "getItems" (masked itemMask (filtered filter (onObject p.id)))

def items (package : String) (filter : Option Filter) : Procedure (List Item) := do
  itemsOf (← packageNamed package) filter

def pricesAt (location package : String) : Procedure (List Json) := do
  let p ← packageNamed package
  let there := Filter.only "itemPrices" ["pricingLocationGroup", "locations", "name"]
    (Shorthand.exact location)
  listAny packages "getItemPrices"
    (masked locationPricesMask (filtered (some there) (onObject p.id)))

def regions (package : String) : Procedure (List Json) := do
  let p ← packageNamed package
  listAny packages "getRegions" (masked regionMask (onObject p.id))

/-! ## Presets -/

/-- The active presets of a package, then those restricted to the account. -/
def presets (package : String) : Procedure (List Preset) := do
  let p ← packageNamed package
  let options := masked presetMask (onObject p.id)
  let active ← list Preset.ofJson packages "getActivePresets" options
  let restricted ← list Preset.ofJson packages "getAccountRestrictedActivePresets" options
  return active ++ restricted

def presetsNamed (p : Package) (keyname method property : String) : Procedure (List Preset) :=
  list Preset.ofJson packages method
    (masked presetMask
      (filtered (some (Filter.only property ["keyName"] (Shorthand.text ("_= " ++ keyname))))
        (onObject p.id)))

/-- The first preset of a package with a key name; those restricted to the account come
last. -/
def presetOf (p : Package) (keyname : String) : Procedure Preset := do
  match ← presetsNamed p keyname "getActivePresets" "activePresets" with
  | first :: _ => return first
  | [] =>
    match ← presetsNamed p keyname "getAccountRestrictedActivePresets"
        "accountRestrictedActivePresets" with
    | first :: _ => return first
    | [] =>
      giveUp "get_preset_by_key" keyname
        ("Preset " ++ keyname ++ " does not exist in package " ++ p.keyName)

def presetNamed (package preset : String) : Procedure Preset := do
  presetOf (← packageNamed package) preset

def presetPrices (id : Int) : Procedure Preset := do
  let v ← Procedure.call "Product_Package_Preset" "getObject" []
    (masked presetPricesMask (onObject id))
  reading (operationName "Product_Package_Preset" "getObject") (Preset.ofJson v)

def priceIds (package : String) (keynames : List String) (cores : Option Binary64) (term : Nat) :
    Procedure (List Int) := do
  let found ← items package none
  ExceptT.mk (pure (Pricing.priceIds package found keynames cores term))

/-! ## Locations -/

/-- Whether a text starts like the name of a datacenter: three letters, two digits. -/
def isDatacenterName (s : String) : Bool :=
  match s.toList with
  | a :: b :: c :: d :: e :: _ =>
    a.isAlpha && b.isAlpha && c.isAlpha && d.isDigit && e.isDigit
  | _ => false

/-- The id of a location: an id stands for itself, `NONE` is zero, and anything else has
to name exactly one datacenter, by its name or by its region. -/
def locationId (location : String) : Procedure Int := do
  let location := Text.trimmed location
  match Text.i64? location with
  | some id => return id
  | none =>
    if Text.equalIgnoringCase location "NONE" then return 0
    else
      let name := Shorthand.exact location
      let filter :=
        if isDatacenterName location then Filter.only "name" [] name
        else Filter.only "regions" ["keyname"] name
      match ← listAny "Location" "getDatacenters"
          (masked locationMask (filtered (some filter) CallOptions.none)) with
      | [datacenter] =>
        match (datacenter.get? "id").bind Json.i64? with
        | some id => return id
        | none =>
          throw (.malformed (operationName "Location" "getDatacenters") "datacenter has no id")
      | _ => giveUp "get_location_id" location ("Unable to find location: " ++ location)

/-! ## Orders -/

def virtualGuestContainer : String := "SoftLayer_Container_Product_Order_Virtual_Guest"

/-- The entries of a container that are resolved from a request; they go over the extras
of the same name. -/
def resolvedEntries (r : OrderRequest) (package location : Int) (preset : Option Int)
    (prices : List Int) : List (String × Json) :=
  [("packageId", .int package), ("quantity", .nat r.quantity), ("location", .int location),
    ("useHourlyPricing", .bool r.hourly)] ++
    (preset.map fun id => ("presetId", Json.int id)).toList ++
    [("complexType", .str (r.complexType.getD virtualGuestContainer)),
      ("prices", .arr (prices.map fun id => .obj [("id", .int id)]))]

/-- The id of a preset of a package and its number of cores, if one is named. -/
def presetAndCores (p : Package) : Option String → Procedure (Option Int × Option Binary64)
  | none => return (none, none)
  | some keyname => do
    let preset ← presetOf p keyname
    let priced ← presetPrices preset.id
    return (some preset.id, priced.cores)

def containerOf (r : OrderRequest) : Procedure (Fields Json) := do
  let p ← packageNamed r.package
  let location ← locationId r.location
  let (preset, cores) ← presetAndCores p r.preset
  let found ← itemsOf p none
  let prices ← ExceptT.mk (pure (Pricing.priceIds r.package found r.items cores r.term))
  return r.extras.union (resolvedEntries r p.id location preset prices)

def container (r : OrderRequest) : Procedure (Fields Json) := do
  return [("orderContainers", .arr [.obj (← containerOf r)])]

def verifyOrder (r : OrderRequest) : Procedure Json := do
  let order ← container r
  Procedure.call orders "verifyOrder" [.obj order] CallOptions.none

def placeOrder (r : OrderRequest) : Procedure Json := do
  let order ← container r
  Procedure.call orders "placeOrder" [.obj order] CallOptions.none

def placeQuote (r : OrderRequest) (name : String) (sendEmail : Bool) : Procedure Json := do
  let order ← container r
  let named := (order.insert "quoteName" (.str name)).insert "sendQuoteEmailFlag" (.bool sendEmail)
  Procedure.call orders "placeQuote" [.obj named] CallOptions.none

def orderDetail (id : Int) : Procedure Json :=
  Procedure.call "Billing_Order" "getObject" [] (masked orderMask (onObject id))

/-! ## Quotes -/

def activeQuotes : Procedure (List Json) :=
  listAny "Account" "getActiveQuotes" (masked quoteMask CallOptions.none)

def quoteDetail (id : Int) : Procedure Json :=
  Procedure.call quotes "getObject" [] (masked quoteMask (onObject id))

def first? : Json → Option Json
  | .arr items => items.head?
  | _ => none

/-- The first container of a quote, at present prices. -/
def quoteContainer (id : Int) : Procedure (Fields Json) := do
  let v ← Procedure.call quotes "getRecalculatedOrderContainer" [] (onObject id)
  match (v.get? "orderContainers").bind first? with
  | some (.obj members) => return members
  | _ =>
    throw (.malformed (operationName quotes "getRecalculatedOrderContainer")
      "quote has no order container")

/-- The container of a quote with a quantity, and further entries over it. -/
def quoteTemplate (id : Int) (extra : Fields Json) (quantity : Nat) : Procedure (Fields Json) := do
  let container ← quoteContainer id
  return (container.insert "quantity" (.nat quantity)).union extra

/-- Keeps a quote from expiring. -/
def saveQuote (id : Int) : Procedure Json :=
  Procedure.call quotes "saveQuote" [] (onObject id)

/-- Whether a value says something: it is neither null, false, zero nor empty. -/
def isPresent : Json → Bool
  | .null => false
  | .bool b => b
  | .num n => !n.toBinary64.isZero
  | .str s => !s.isEmpty
  | .arr items => !items.isEmpty
  | .obj members => !members.isEmpty

/-- Submits a quote to be checked only, without the entries that say nothing. -/
def verifyQuote (id : Int) (extra : Fields Json) : Procedure Json := do
  let container ← quoteTemplate id extra 1
  let kept := container.filter fun (_, v) => isPresent v
  Procedure.call quotes "verifyOrder" [.obj kept] (onObject id)

def orderQuote (id : Int) (extra : Fields Json) : Procedure Json := do
  let container ← quoteTemplate id extra 1
  Procedure.call quotes "placeOrder" [.obj container] (onObject id)

end CloudClient.Ordering
