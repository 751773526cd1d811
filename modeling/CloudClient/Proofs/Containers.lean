import CloudClient.Ordering
import CloudClient.Proofs.Exchanges
import CloudClient.Proofs.Query.Wildcard
import Mathlib.Data.List.Basic

/-!
# Containers — what an order request is resolved into

A request is resolved stage by stage: its package, its location, its preset with the cores,
the items of the package, and the prices.  The first stage that fails gives its failure to the
whole, and the stages behind it are not reached.  What the stages find goes over the extras of
the request.

* `PackageFound`, `LocationFound`, `PresetFound`, `CoresFound` and `PricesFound` tell, for each
  stage, the calls and what comes of the replies.
* `Resolution` puts the stages in order; `resolution_of_runs` has it for the runs of a request.
* `IsContainer` tells the entries of a container, and that there are no others.
* `container_exact` has both for every client and everything outside it.
-/

namespace CloudClient.Ordering

open Catalog Procedure

/-! ## Look-ups of the catalog -/

theorem looksUp_reading {α : Type} (operation : String) (r : Record.Reading α) :
    (reading operation r).LooksUp := by
  unfold reading
  split
  · exact .pure _
  · exact .throw _

theorem looksUp_list {α : Type} (read : Json → Record.Reading α) {service method : String}
    (h : Text.startsWith method "get" = true) (options : CallOptions) :
    (list read service method options).LooksUp := by
  refine (LooksUp.call h).bind fun v => ?_
  split
  · exact .pure _
  · exact looksUp_reading _ _

theorem looksUp_packageNamed (keyname : String) : (packageNamed keyname).LooksUp := by
  have hactive (filter : Option Filter) : (activePackages filter).LooksUp :=
    (looksUp_list _ (by decide) _).bind fun _ => .pure _
  refine (hactive _).bind fun found => ?_
  split
  · exact .pure _
  · exact .throw _
  · exact .throw _

theorem looksUp_itemsOf (p : Package) (filter : Option Filter) : (itemsOf p filter).LooksUp :=
  looksUp_list _ (by decide) _

theorem looksUp_presetOf (p : Package) (keyname : String) : (presetOf p keyname).LooksUp := by
  refine (looksUp_list _ (by decide) _).bind fun active => ?_
  split
  · exact .pure _
  · refine (looksUp_list _ (by decide) _).bind fun restricted => ?_
    split
    · exact .pure _
    · exact .throw _

theorem looksUp_presetPrices (id : Int) : (presetPrices id).LooksUp :=
  (LooksUp.call (by decide)).bind fun _ => looksUp_reading _ _

theorem looksUp_presetAndCores (p : Package) (keyname : Option String) :
    (presetAndCores p keyname).LooksUp := by
  cases keyname with
  | none => exact .pure _
  | some keyname =>
    exact (looksUp_presetOf p keyname).bind fun _ => (looksUp_presetPrices _).bind fun _ => .pure _

theorem looksUp_locationId (location : String) : (locationId location).LooksUp := by
  unfold locationId
  dsimp only
  split
  · exact .pure _
  · split
    · exact .pure _
    · refine (looksUp_list _ (by decide) _).bind fun found => ?_
      split
      · split
        · exact .pure _
        · exact .throw _
      · exact .throw _

theorem looksUp_container (r : OrderRequest) : (container r).LooksUp := by
  have hcontainer : (containerOf r).LooksUp := by
    refine (looksUp_packageNamed _).bind fun p => (looksUp_locationId _).bind fun location => ?_
    refine (looksUp_presetAndCores _ _).bind fun preset => ?_
    refine (looksUp_itemsOf _ _).bind fun found => ?_
    exact (LooksUp.decided _).bind fun prices => .pure _
  exact hcontainer.bind fun _ => .pure _

/-! ## Lists -/

/-- The list that a value is: null is an empty one. -/
def listOf {α : Type} (operation : String) (read : Json → Record.Reading α) :
    Json → Except Failure (List α)
  | .null => .ok []
  | v => (Record.list read v).mapError (Failure.malformed operation)

def listed {α : Type} (operation : String) (read : Json → Record.Reading α) (reply : CallResult) :
    Except Failure (List α) :=
  reply.bind fun r => listOf operation read r.value

theorem runs_reading {α : Type} {operation : String} {r : Record.Reading α}
    {made : List (Call × CallResult)} {result : Except Failure α}
    (h : (reading operation r).Runs made result) :
    made = [] ∧ result = r.mapError (Failure.malformed operation) := by
  cases r with
  | ok a => exact runs_decided.1 h
  | error complaint => exact runs_decided.1 h

/-- A call of which only the value is read is the only one. -/
theorem runs_call {α : Type} {service method : String} {options : CallOptions}
    {read : Json → Procedure α} {value : Json → Except Failure α}
    (hread : ∀ v made result, (read v).Runs made result → made = [] ∧ result = value v)
    {made : List (Call × CallResult)} {result : Except Failure α}
    (h : (Procedure.call service method [] options >>= read).Runs made result) :
    ∃ reply, made = [(⟨service, method, [], options⟩, reply)] ∧
      result = reply.bind fun r => value r.value := by
  obtain ⟨e, hcall, rfl⟩ | ⟨v, first, rest, rfl, hcall, hrest⟩ := runs_bind.1 h
  · obtain ⟨reply, rfl, hreply⟩ := runs_value hcall
    cases reply with
    | error f =>
      obtain rfl : e = f := Except.error.inj hreply
      exact ⟨.error e, rfl, rfl⟩
    | ok r => cases hreply
  · obtain ⟨reply, rfl, hreply⟩ := runs_value hcall
    cases reply with
    | error f => cases hreply
    | ok r =>
      obtain rfl : v = r.value := Except.ok.inj hreply
      obtain ⟨rfl, rfl⟩ := hread _ _ _ hrest
      exact ⟨.ok r, rfl, rfl⟩

theorem runs_list {α : Type} {read : Json → Record.Reading α} {service method : String}
    {options : CallOptions} {made : List (Call × CallResult)} {result : Except Failure (List α)}
    (h : (list read service method options).Runs made result) :
    ∃ reply, made = [(⟨service, method, [], options⟩, reply)] ∧
      result = listed (operationName service method) read reply := by
  refine runs_call (fun v made result h => ?_) h
  cases v with
  | null => exact runs_decided.1 h
  | bool _ => exact runs_reading h
  | num _ => exact runs_reading h
  | str _ => exact runs_reading h
  | arr _ => exact runs_reading h
  | obj _ => exact runs_reading h

/-! ## Packages -/

def packageCall (keyname : String) : Call :=
  ⟨"Product_Package", "getAllObjects", [], { CallOptions.none with
    mask := some packageMask
    filter := some ⟨[("keyName", .leaf (.text keyname) [])]⟩ }⟩

def activeIn (reply : CallResult) : Except Failure (List Package) :=
  (listed "SoftLayer_Product_Package.getAllObjects" Package.ofJson reply).map
    (List.filter Package.isActive)

/-- What comes of the search for a package: there has to be exactly one that can be ordered. -/
inductive PackageFound (keyname : String) :
    List (Call × CallResult) → Except Failure Package → Prop
  | failed {reply : CallResult} {e : Failure} (failure : activeIn reply = .error e) :
      PackageFound keyname [(packageCall keyname, reply)] (.error e)
  | none {reply : CallResult} (found : activeIn reply = .ok []) :
      PackageFound keyname [(packageCall keyname, reply)] (.error
        (.ordering "get_package_by_key" keyname ("Package " ++ keyname ++ " does not exist")))
  | one {reply : CallResult} {p : Package} (found : activeIn reply = .ok [p]) :
      PackageFound keyname [(packageCall keyname, reply)] (.ok p)
  | many {reply : CallResult} {ps : List Package} (found : activeIn reply = .ok ps)
      (several : 2 ≤ ps.length) :
      PackageFound keyname [(packageCall keyname, reply)] (.error
        (.ordering "get_package_by_key" keyname
          (Text.ofNat ps.length ++ " active packages match " ++ keyname)))

theorem packageFound_of_runs {keyname : String} {made : List (Call × CallResult)}
    {result : Except Failure Package} (h : (packageNamed keyname).Runs made result) :
    PackageFound keyname made result := by
  have hactive {first : List (Call × CallResult)} {found : Except Failure (List Package)}
      (h : (activePackages (some (Filter.only "keyName" [] (Shorthand.exact keyname)))).Runs
        first found) :
      ∃ reply, first = [(packageCall keyname, reply)] ∧ found = activeIn reply := by
    obtain ⟨packages, hlist, rfl⟩ := runs_map.1 h
    obtain ⟨reply, rfl, rfl⟩ := runs_list hlist
    exact ⟨reply, rfl, rfl⟩
  obtain ⟨e, hfirst, rfl⟩ | ⟨ps, first, rest, rfl, hfirst, hrest⟩ := runs_bind.1 h
  · obtain ⟨reply, rfl, hfound⟩ := hactive hfirst
    exact .failed hfound.symm
  · obtain ⟨reply, rfl, hfound⟩ := hactive hfirst
    -- the number of packages decides
    obtain _ | ⟨p, _ | ⟨q, qs⟩⟩ := ps
    · obtain ⟨rfl, rfl⟩ := runs_decided.1 hrest
      exact .none hfound.symm
    · obtain ⟨rfl, rfl⟩ := runs_decided.1 hrest
      exact .one hfound.symm
    · obtain ⟨rfl, rfl⟩ := runs_decided.1 hrest
      exact .many hfound.symm (Nat.le_add_left 2 qs.length)

/-! ## Locations -/

/-- What the name of a datacenter starts with: three letters and two digits. -/
def IsDatacenterName (location : String) : Prop :=
  ∃ letters digits rest, location.toList = letters ++ digits ++ rest ∧ letters.length = 3 ∧
    (∀ c ∈ letters, c.isAlpha = true) ∧ digits.length = 2 ∧ ∀ c ∈ digits, c.isDigit = true

theorem isDatacenterName_iff {location : String} :
    isDatacenterName location = true ↔ IsDatacenterName location := by
  constructor
  · intro h
    unfold isDatacenterName at h
    split at h
    · rename_i a b c d e rest hlist
      simp only [Bool.and_eq_true] at h
      exact ⟨[a, b, c], [d, e], rest, hlist, rfl, by simp [h], rfl, by simp [h]⟩
    · cases h
  · rintro ⟨letters, digits, rest, hlist, hletters, hall, hdigits, hdigit⟩
    obtain ⟨a, b, c, rfl⟩ := List.length_eq_three.1 hletters
    obtain ⟨d, e, rfl⟩ := List.length_eq_two.1 hdigits
    simp only [List.forall_mem_cons] at hall hdigit
    simp [isDatacenterName, hlist, hall, hdigit]

instance (location : String) : Decidable (IsDatacenterName location) :=
  decidable_of_iff _ isDatacenterName_iff

def datacenterCall (location : String) : Call :=
  ⟨"Location", "getDatacenters", [], { CallOptions.none with
    mask := some locationMask
    filter := some
      (if IsDatacenterName location then ⟨[("name", .leaf (.text location) [])]⟩
      else ⟨[("regions", .branch [("keyname", .leaf (.text location) [])])]⟩) }⟩

theorem datacenterCall_eq (location : String) :
    datacenterCall location = ⟨"Location", "getDatacenters", [], masked locationMask
      (filtered (some
        (if isDatacenterName location then Filter.only "name" [] (Shorthand.exact location)
        else Filter.only "regions" ["keyname"] (Shorthand.exact location))) CallOptions.none)⟩ := by
  rw [datacenterCall, if_congr isDatacenterName_iff.symm rfl rfl]
  rfl

def datacentersIn (reply : CallResult) : Except Failure (List Json) :=
  listed "SoftLayer_Location.getDatacenters" .ok reply

/-- What comes of the search for a datacenter: there has to be exactly one. -/
inductive DatacenterFound (location : String) :
    List (Call × CallResult) → Except Failure Int → Prop
  | failed {reply : CallResult} {e : Failure} (failure : datacentersIn reply = .error e) :
      DatacenterFound location [(datacenterCall location, reply)] (.error e)
  | one {reply : CallResult} {datacenter : Json} {id : Int}
      (found : datacentersIn reply = .ok [datacenter])
      (hasId : (datacenter.get? "id").bind Json.i64? = some id) :
      DatacenterFound location [(datacenterCall location, reply)] (.ok id)
  | withoutId {reply : CallResult} {datacenter : Json}
      (found : datacentersIn reply = .ok [datacenter])
      (noId : (datacenter.get? "id").bind Json.i64? = none) :
      DatacenterFound location [(datacenterCall location, reply)] (.error
        (.malformed "SoftLayer_Location.getDatacenters" "datacenter has no id"))
  | notOne {reply : CallResult} {datacenters : List Json}
      (found : datacentersIn reply = .ok datacenters) (several : datacenters.length ≠ 1) :
      DatacenterFound location [(datacenterCall location, reply)] (.error
        (.ordering "get_location_id" location ("Unable to find location: " ++ location)))

/-- What comes of the search for a location whose text is trimmed: a number is its own id, no
location in particular is zero, and only the name of a datacenter or of a region is asked for. -/
inductive LocationFound (location : String) :
    List (Call × CallResult) → Except Failure Int → Prop
  | number {id : Int} (number : Text.i64? location = some id) : LocationFound location [] (.ok id)
  | anywhere (noNumber : Text.i64? location = none)
      (anywhere : location.toList.map Char.toLower = "none".toList) :
      LocationFound location [] (.ok 0)
  | asked {made : List (Call × CallResult)} {result : Except Failure Int}
      (noNumber : Text.i64? location = none)
      (somewhere : location.toList.map Char.toLower ≠ "none".toList)
      (datacenter : DatacenterFound location made result) : LocationFound location made result

theorem locationFound_of_runs {location : String} {made : List (Call × CallResult)}
    {result : Except Failure Int} (h : (locationId location).Runs made result) :
    LocationFound (Text.trimmed location) made result := by
  unfold locationId at h
  dsimp only at h
  generalize Text.trimmed location = location at h ⊢
  cases hnumber : Text.i64? location with
  | some id =>
    rw [hnumber] at h
    obtain ⟨rfl, rfl⟩ := runs_decided.1 h
    exact .number hnumber
  | none =>
    rw [hnumber] at h
    have hlower : "NONE".toList.map Char.toLower = "none".toList := by decide
    cases hnone : Text.equalIgnoringCase location "NONE" with
    | true =>
      rw [hnone] at h
      obtain ⟨rfl, rfl⟩ := runs_decided.1 h
      exact .anywhere hnumber ((Text.equalIgnoringCase_iff.1 hnone).trans hlower)
    | false =>
      rw [hnone] at h
      refine .asked hnumber (fun heq => ?_) ?_
      · rw [Text.equalIgnoringCase_iff.2 (heq.trans hlower.symm)] at hnone
        cases hnone
      obtain ⟨e, hfirst, rfl⟩ | ⟨found, first, rest, rfl, hfirst, hrest⟩ := runs_bind.1 h
      · obtain ⟨reply, rfl, hfound⟩ := runs_list hfirst
        rw [← datacenterCall_eq]
        exact .failed hfound.symm
      · obtain ⟨reply, rfl, hfound⟩ := runs_list hfirst
        rw [← datacenterCall_eq]
        -- the number of datacenters decides, then whether the one has an id
        obtain _ | ⟨datacenter, _ | ⟨next, more⟩⟩ := found
        · obtain ⟨rfl, rfl⟩ := runs_decided.1 hrest
          exact .notOne hfound.symm nofun
        · cases hid : (datacenter.get? "id").bind Json.i64? with
          | some id =>
            simp only [hid] at hrest
            obtain ⟨rfl, rfl⟩ := runs_decided.1 hrest
            exact .one hfound.symm hid
          | none =>
            simp only [hid] at hrest
            obtain ⟨rfl, rfl⟩ := runs_decided.1 hrest
            exact .withoutId hfound.symm hid
        · obtain ⟨rfl, rfl⟩ := runs_decided.1 hrest
          exact .notOne hfound.symm (by simp)

/-! ## Presets -/

/-- The two lists of presets of a package: those for all accounts and those for this one. -/
inductive PresetList
  | active
  | restricted

def PresetList.method : PresetList → String
  | .active => "getActivePresets"
  | .restricted => "getAccountRestrictedActivePresets"

def PresetList.property : PresetList → String
  | .active => "activePresets"
  | .restricted => "accountRestrictedActivePresets"

def PresetList.call (l : PresetList) (package : Int) (keyname : String) : Call :=
  ⟨"Product_Package", l.method, [], { CallOptions.none with
    id := some package
    mask := some presetMask
    filter := some
      ⟨[(l.property, .branch [("keyName", .leaf (.text ("_= " ++ Text.trimmed keyname)) [])])]⟩ }⟩

theorem PresetList.call_eq (l : PresetList) (package : Int) (keyname : String) :
    l.call package keyname = ⟨"Product_Package", l.method, [], masked presetMask
      (filtered (some (Filter.only l.property ["keyName"] (Shorthand.text ("_= " ++ keyname))))
        (onObject package))⟩ := by
  have hoperation : Shorthand.operation ("_= " ++ keyname) =
      .text ("_= " ++ Text.trimmed keyname) := by
    have hequal : "_=" ∈ Shorthand.operators := by decide
    have happly := Shorthand.operation_apply hequal keyname.toList
    rwa [String.ofList_toList] at happly
  rw [Shorthand.text, hoperation]
  rfl

def PresetList.presetsIn (l : PresetList) (reply : CallResult) : Except Failure (List Preset) :=
  listed ("SoftLayer_Product_Package." ++ l.method) Preset.ofJson reply

/-- What comes of the search for a preset: the first in the list of all accounts or, if it has
none, the first in the list of this account. -/
inductive PresetFound (p : Package) (keyname : String) :
    List (Call × CallResult) → Except Failure Preset → Prop
  | failed {reply : CallResult} {e : Failure}
      (failure : PresetList.active.presetsIn reply = .error e) :
      PresetFound p keyname [(PresetList.active.call p.id keyname, reply)] (.error e)
  | active {reply : CallResult} {first : Preset} {more : List Preset}
      (found : PresetList.active.presetsIn reply = .ok (first :: more)) :
      PresetFound p keyname [(PresetList.active.call p.id keyname, reply)] (.ok first)
  | failedRestricted {reply later : CallResult} {e : Failure}
      (noneActive : PresetList.active.presetsIn reply = .ok [])
      (failure : PresetList.restricted.presetsIn later = .error e) :
      PresetFound p keyname [(PresetList.active.call p.id keyname, reply),
        (PresetList.restricted.call p.id keyname, later)] (.error e)
  | restricted {reply later : CallResult} {first : Preset} {more : List Preset}
      (noneActive : PresetList.active.presetsIn reply = .ok [])
      (found : PresetList.restricted.presetsIn later = .ok (first :: more)) :
      PresetFound p keyname [(PresetList.active.call p.id keyname, reply),
        (PresetList.restricted.call p.id keyname, later)] (.ok first)
  | none {reply later : CallResult} (noneActive : PresetList.active.presetsIn reply = .ok [])
      (noneRestricted : PresetList.restricted.presetsIn later = .ok []) :
      PresetFound p keyname [(PresetList.active.call p.id keyname, reply),
        (PresetList.restricted.call p.id keyname, later)] (.error
          (.ordering "get_preset_by_key" keyname
            ("Preset " ++ keyname ++ " does not exist in package " ++ p.keyName)))

theorem presetFound_of_runs {p : Package} {keyname : String} {made : List (Call × CallResult)}
    {result : Except Failure Preset} (h : (presetOf p keyname).Runs made result) :
    PresetFound p keyname made result := by
  have hlist (l : PresetList) {first : List (Call × CallResult)}
      {found : Except Failure (List Preset)}
      (h : (presetsNamed p keyname l.method l.property).Runs first found) :
      ∃ reply, first = [(l.call p.id keyname, reply)] ∧ found = l.presetsIn reply := by
    rw [l.call_eq]
    exact runs_list h
  obtain ⟨e, hfirst, rfl⟩ | ⟨active, first, rest, rfl, hfirst, hrest⟩ := runs_bind.1 h
  · obtain ⟨reply, rfl, hfound⟩ := hlist .active hfirst
    exact .failed hfound.symm
  · obtain ⟨reply, rfl, hactive⟩ := hlist .active hfirst
    cases active with
    | cons preset more =>
      obtain ⟨rfl, rfl⟩ := runs_decided.1 hrest
      exact .active hactive.symm
    | nil =>
      -- only where no preset is active the other list is asked for
      obtain ⟨e, hsecond, rfl⟩ | ⟨restricted, second, rest, rfl, hsecond, hrest⟩ :=
        runs_bind.1 hrest
      · obtain ⟨later, rfl, hfound⟩ := hlist .restricted hsecond
        exact .failedRestricted hactive.symm hfound.symm
      · obtain ⟨later, rfl, hfound⟩ := hlist .restricted hsecond
        cases restricted with
        | cons preset more =>
          obtain ⟨rfl, rfl⟩ := runs_decided.1 hrest
          exact .restricted hactive.symm hfound.symm
        | nil =>
          obtain ⟨rfl, rfl⟩ := runs_decided.1 hrest
          exact .none hactive.symm hfound.symm

/-! ## Cores -/

def pricedCall (preset : Int) : Call :=
  ⟨"Product_Package_Preset", "getObject", [], { CallOptions.none with
    id := some preset
    mask := some presetPricesMask }⟩

def pricedIn (reply : CallResult) : Except Failure Preset :=
  reply.bind fun r => (Preset.ofJson r.value).mapError
    (Failure.malformed "SoftLayer_Product_Package_Preset.getObject")

/-- The number of cores that some prices name: the capacity of the first item among them that is
one of cores. -/
inductive CoresIn : List Price → Option Binary64 → Prop
  | none : CoresIn [] none
  | first {p : Price} {i : Item} {kind : Category} (rest : List Price) (item : p.item = some i)
      (category : i.category = some kind) (isCore : kind.code = "guest_core") :
      CoresIn (p :: rest) i.capacity
  | other {p : Price} {rest : List Price} {cores : Option Binary64}
      (noCore : ∀ i kind, p.item = some i → i.category = some kind → kind.code ≠ "guest_core")
      (later : CoresIn rest cores) : CoresIn (p :: rest) cores

theorem coresIn_prices (p : Preset) : CoresIn p.prices p.cores := by
  unfold Preset.cores
  induction p.prices with
  | nil => exact .none
  | cons price rest ih =>
    obtain hitem | ⟨i, hitem⟩ := Option.eq_none_or_eq_some price.item
    · rw [List.filterMap_cons_none hitem]
      refine .other (fun i kind hi => ?_) ih
      rw [hitem] at hi
      cases hi
    rw [List.filterMap_cons_some hitem, List.find?_cons]
    -- the first item with this category is the one that is found
    cases hcore : i.categoryCode? == some Preset.coreCategory with
    | true =>
      obtain ⟨kind, hkind, hcode⟩ := Option.map_eq_some_iff.1 (eq_of_beq hcore)
      exact .first rest hitem hkind hcode
    | false =>
      refine .other (fun j kind hj hkind hcode => ne_of_beq_false hcore ?_) ih
      obtain rfl : i = j := Option.some.inj (hitem.symm.trans hj)
      exact Option.map_eq_some_iff.2 ⟨kind, hkind, hcode⟩

/-- What comes of the search for the id of a preset and its number of cores: if none is named,
nothing is asked for. -/
inductive CoresFound (p : Package) : Option String →
    List (Call × CallResult) → Except Failure (Option Int × Option Binary64) → Prop
  | unnamed : CoresFound p none [] (.ok (none, none))
  | failed {keyname : String} {made : List (Call × CallResult)} {e : Failure}
      (failure : PresetFound p keyname made (.error e)) :
      CoresFound p (some keyname) made (.error e)
  | failedPrices {keyname : String} {made : List (Call × CallResult)} {preset : Preset}
      {reply : CallResult} {e : Failure} (found : PresetFound p keyname made (.ok preset))
      (failure : pricedIn reply = .error e) :
      CoresFound p (some keyname) (made ++ [(pricedCall preset.id, reply)]) (.error e)
  | named {keyname : String} {made : List (Call × CallResult)} {preset priced : Preset}
      {reply : CallResult} {cores : Option Binary64}
      (found : PresetFound p keyname made (.ok preset)) (prices : pricedIn reply = .ok priced)
      (hint : CoresIn priced.prices cores) :
      CoresFound p (some keyname) (made ++ [(pricedCall preset.id, reply)])
        (.ok (some preset.id, cores))

theorem runs_presetPrices {id : Int} {made : List (Call × CallResult)}
    {result : Except Failure Preset} (h : (presetPrices id).Runs made result) :
    ∃ reply, made = [(pricedCall id, reply)] ∧ result = pricedIn reply :=
  runs_call (fun _ _ _ => runs_reading) h

theorem coresFound_of_runs {p : Package} {keyname : Option String}
    {made : List (Call × CallResult)} {result : Except Failure (Option Int × Option Binary64)}
    (h : (presetAndCores p keyname).Runs made result) : CoresFound p keyname made result := by
  cases keyname with
  | none =>
    obtain ⟨rfl, rfl⟩ := runs_decided.1 h
    exact .unnamed
  | some keyname =>
    obtain ⟨e, hpreset, rfl⟩ | ⟨preset, first, rest, rfl, hpreset, hrest⟩ := runs_bind.1 h
    · exact .failed (presetFound_of_runs hpreset)
    · obtain ⟨priced, hpriced, rfl⟩ := runs_map.1 hrest
      obtain ⟨reply, rfl, rfl⟩ := runs_presetPrices hpriced
      have hfound := presetFound_of_runs hpreset
      cases hprices : pricedIn reply with
      | error e => exact .failedPrices hfound hprices
      | ok priced => exact .named hfound hprices (coresIn_prices priced)

/-! ## Prices -/

def itemsCall (package : Int) : Call :=
  ⟨"Product_Package", "getItems", [], { CallOptions.none with
    id := some package
    mask := some itemMask }⟩

def itemsIn (reply : CallResult) : Except Failure (List Item) :=
  listed "SoftLayer_Product_Package.getItems" Item.ofJson reply

/-- What comes of the search for the prices of a request: they are told from the items of the
package, with the cores of the preset. -/
inductive PricesFound (r : OrderRequest) (package : Int) (cores : Option Binary64) :
    List (Call × CallResult) → Except Failure (List Int) → Prop
  | failed {reply : CallResult} {e : Failure} (failure : itemsIn reply = .error e) :
      PricesFound r package cores [(itemsCall package, reply)] (.error e)
  | priced {reply : CallResult} {items : List Item} (found : itemsIn reply = .ok items) :
      PricesFound r package cores [(itemsCall package, reply)]
        (Pricing.priceIds r.package items r.items cores r.term)

/-! ## Resolutions -/

/-- What is found out about a request: the ids of all that it names. -/
structure Found where
  package : Int
  location : Int
  preset : Option Int
  prices : List Int

/-- The stages of a request, one after the other: each asks for what it asks for only if those
before it have found something, and the first that fails gives its failure to the whole. -/
inductive Resolution (r : OrderRequest) : List (Call × CallResult) → Except Failure Found → Prop
  | noPackage {made : List (Call × CallResult)} {e : Failure}
      (failure : PackageFound r.package made (.error e)) : Resolution r made (.error e)
  | noLocation {first second : List (Call × CallResult)} {p : Package} {e : Failure}
      (package : PackageFound r.package first (.ok p))
      (failure : LocationFound (Text.trimmed r.location) second (.error e)) :
      Resolution r (first ++ second) (.error e)
  | noPreset {first second third : List (Call × CallResult)} {p : Package} {location : Int}
      {e : Failure} (package : PackageFound r.package first (.ok p))
      (place : LocationFound (Text.trimmed r.location) second (.ok location))
      (failure : CoresFound p r.preset third (.error e)) :
      Resolution r (first ++ (second ++ third)) (.error e)
  | noPrices {first second third fourth : List (Call × CallResult)} {p : Package} {location : Int}
      {preset : Option Int} {cores : Option Binary64} {e : Failure}
      (package : PackageFound r.package first (.ok p))
      (place : LocationFound (Text.trimmed r.location) second (.ok location))
      (named : CoresFound p r.preset third (.ok (preset, cores)))
      (failure : PricesFound r p.id cores fourth (.error e)) :
      Resolution r (first ++ (second ++ (third ++ fourth))) (.error e)
  | found {first second third fourth : List (Call × CallResult)} {p : Package} {location : Int}
      {preset : Option Int} {cores : Option Binary64} {prices : List Int}
      (package : PackageFound r.package first (.ok p))
      (place : LocationFound (Text.trimmed r.location) second (.ok location))
      (named : CoresFound p r.preset third (.ok (preset, cores)))
      (priced : PricesFound r p.id cores fourth (.ok prices)) :
      Resolution r (first ++ (second ++ (third ++ fourth))) (.ok ⟨p.id, location, preset, prices⟩)

/-- The entries of a container: what is found goes over the extras of the request. -/
def Found.entries (found : Found) (r : OrderRequest) : Fields Json :=
  r.extras.union (resolvedEntries r found.package found.location found.preset found.prices)

theorem resolution_of_runs {r : OrderRequest} {made : List (Call × CallResult)}
    {result : Except Failure (Fields Json)} (h : (containerOf r).Runs made result) :
    ∃ outcome, Resolution r made outcome ∧ result = outcome.map fun found => found.entries r := by
  -- one stage after the other: either it fails, and this is the end, or the next one has its result
  obtain ⟨e, hpackage, rfl⟩ | ⟨p, first, rest, rfl, hpackage, hlocate⟩ := runs_bind.1 h
  · exact ⟨.error e, .noPackage (packageFound_of_runs hpackage), rfl⟩
  have package := packageFound_of_runs hpackage
  obtain ⟨e, hlocation, rfl⟩ | ⟨location, second, rest, rfl, hlocation, hname⟩ :=
    runs_bind.1 hlocate
  · exact ⟨.error e, .noLocation package (locationFound_of_runs hlocation), rfl⟩
  have place := locationFound_of_runs hlocation
  obtain ⟨e, hcores, rfl⟩ | ⟨⟨preset, cores⟩, third, rest, rfl, hcores, hlist⟩ :=
    runs_bind.1 hname
  · exact ⟨.error e, .noPreset package place (coresFound_of_runs hcores), rfl⟩
  have named := coresFound_of_runs hcores
  obtain ⟨e, hitems, rfl⟩ | ⟨items, fourth, rest, rfl, hitems, hprice⟩ := runs_bind.1 hlist
  · obtain ⟨reply, rfl, hlisted⟩ := runs_list hitems
    exact ⟨.error e, .noPrices package place named (.failed hlisted.symm), rfl⟩
  obtain ⟨reply, rfl, hlisted⟩ := runs_list hitems
  have priced : PricesFound r p.id cores [(itemsCall p.id, reply)]
      (Pricing.priceIds r.package items r.items cores r.term) := .priced hlisted.symm
  -- the prices are told from the items, without another call
  obtain ⟨e, hprices, rfl⟩ | ⟨prices, fifth, rest, rfl, hprices, hentries⟩ := runs_bind.1 hprice
  · obtain ⟨rfl, hresult⟩ := runs_decided.1 hprices
    rw [← hresult] at priced
    exact ⟨.error e, .noPrices package place named priced, rfl⟩
  · obtain ⟨rfl, hresult⟩ := runs_decided.1 hprices
    obtain ⟨rfl, rfl⟩ := runs_decided.1 hentries
    rw [← hresult] at priced
    exact ⟨_, .found package place named priced, rfl⟩

/-! ## Entries -/

/-- The names of the entries that are computed; the id of a preset is one of them only if a preset
is named. -/
def computedNames (preset : Option Int) : List String :=
  ["packageId", "quantity", "location", "useHourlyPricing"] ++
    (if preset.isSome then ["presetId"] else []) ++ ["complexType", "prices"]

/-- The entries of a container: what is computed, and every other entry of the extras as it is. -/
structure IsContainer (r : OrderRequest) (found : Found) (c : Fields Json) : Prop where
  packageId : c.find? "packageId" = some (.int found.package)
  quantity : c.find? "quantity" = some (.nat r.quantity)
  location : c.find? "location" = some (.int found.location)
  hourly : c.find? "useHourlyPricing" = some (.bool r.hourly)
  presetId : ∀ id, found.preset = some id → c.find? "presetId" = some (.int id)
  complexType : c.find? "complexType" =
    some (.str (r.complexType.getD "SoftLayer_Container_Product_Order_Virtual_Guest"))
  prices : c.find? "prices" = some (.arr (found.prices.map fun id => .obj [("id", .int id)]))
  extras : ∀ k, k ∉ computedNames found.preset → c.find? k = r.extras.find? k
  sorted : r.extras.Sorted → c.Sorted

theorem map_fst_resolvedEntries (r : OrderRequest) (package location : Int) (preset : Option Int)
    (prices : List Int) :
    (resolvedEntries r package location preset prices).map Prod.fst = computedNames preset := by
  cases preset <;> rfl

theorem nodup_computedNames (preset : Option Int) : (computedNames preset).Nodup := by
  cases preset with
  | none => decide
  | some id =>
    show (computedNames (some 0)).Nodup
    decide

theorem find?_entries (r : OrderRequest) (found : Found) (k : String) :
    (found.entries r).find? k =
      (Fields.find? k (resolvedEntries r found.package found.location found.preset
        found.prices)).or (r.extras.find? k) := by
  apply Fields.find?_union
  rw [map_fst_resolvedEntries]
  exact nodup_computedNames found.preset

theorem isContainer_entries (r : OrderRequest) (found : Found) :
    IsContainer r found (found.entries r) := by
  have hcomputed {k : String} {v : Json}
      (h : Fields.find? k (resolvedEntries r found.package found.location found.preset
        found.prices) = some v) : (found.entries r).find? k = some v := by
    rw [find?_entries, h]
    rfl
  obtain ⟨package, location, preset, prices⟩ := found
  refine ⟨hcomputed ?_, hcomputed ?_, hcomputed ?_, hcomputed ?_, ?_, hcomputed ?_, hcomputed ?_,
    ?_, Fields.sorted_union⟩
  · cases preset <;> rfl
  · cases preset <;> rfl
  · cases preset <;> rfl
  · cases preset <;> rfl
  · rintro id rfl
    exact hcomputed rfl
  · cases preset <;> rfl
  · cases preset <;> rfl
  · intro k hk
    rw [find?_entries, Fields.find?_eq_none]
    · rfl
    · rwa [map_fst_resolvedEntries]

example :
    ((Found.mk 835 0 none []).entries { OrderRequest.plain "CLOUD_SERVER" "NONE" [] with
      extras := [("location", .int 9), ("presetId", .int 8)] }).keys =
    ["complexType", "location", "packageId", "presetId", "prices", "quantity",
      "useHourlyPricing"] := by
  decide +kernel

end CloudClient.Ordering
