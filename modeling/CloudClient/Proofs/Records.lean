import CloudClient.Catalog.Package
import CloudClient.Catalog.Pricing
import CloudClient.Proofs.Json.Reading
import CloudClient.Proofs.Rounding

/-!
# Records — catalog records that are written and read again

The records of the catalog are read loosely and written strictly.  What is written is read
again as the same record, but for one thing: the text of a number may be that of an infinity
or of a NaN, and JSON has no such numbers.  They are written as null and are lost.

* `Item.holds_ofJson`, `Price.holds_ofJson`: what the numbers of a record come from.
* `Item.ofJson_toJson`, `Price.ofJson_toJson`: what is read again.
* `reread`: which records survive being written.
-/

namespace CloudClient.Catalog

open Text (fitsI64)

/-! ## Scalars -/

theorem number_opt_double (x : Option Binary64) :
    number (.opt .double x) = x.filter Binary64.isFinite := by
  cases x with
  | none => rfl
  | some x =>
    rw [Json.opt, Json.double, Option.filter_some]
    split
    · rfl
    · rfl

theorem idNumber_opt_int {i : Option Int} (h : ∀ n ∈ i, fitsI64 n = true) :
    idNumber (.opt .int i) = .ok i := by
  cases i with
  | none => rfl
  | some n =>
    have hread : (Json.num (.int n)).i64? = some n := by
      rw [Json.i64?, if_pos (of_decide_eq_true (h n rfl))]
    simp only [Json.opt, Json.int, idNumber, hread]

theorem fits_of_idNumber {v : Json} {i : Option Int} (h : idNumber v = .ok i) :
    ∀ n ∈ i, fitsI64 n = true := by
  unfold idNumber at h
  split at h
  · obtain rfl := Except.ok.inj h
    nofun
  · split at h
    · rename_i j hj
      obtain rfl := Except.ok.inj h
      rintro _ ⟨⟩
      exact Record.fits_of_i64? hj
    · cases h
  · split at h
    · obtain rfl := Except.ok.inj h
      nofun
    · split at h
      · rename_i j hj
        obtain rfl := Except.ok.inj h
        rintro _ ⟨⟩
        exact (Option.filter_eq_some_iff.1 hj).2
      · cases h
  · cases h

/-- Every number that is read off a value in a value has a property. -/
def NumbersIn (Q : Binary64 → Prop) (v : Json) : Prop :=
  ∀ w, v.Contains w → ∀ x ∈ number w, Q x

namespace NumbersIn

variable {Q : Binary64 → Prop}

theorem self {v : Json} (h : NumbersIn Q v) : ∀ x ∈ number v, Q x := h v (.self v)

theorem item {items : List Json} (h : NumbersIn Q (.arr items)) : ∀ w ∈ items, NumbersIn Q w :=
  fun _ hw u hu => h u (.item hw hu)

theorem member {members : List (String × Json)} (h : NumbersIn Q (.obj members)) :
    ∀ e ∈ members, NumbersIn Q e.2 :=
  fun _ he u hu => h u (.member he hu)

theorem of_contains {v w : Json} (h : NumbersIn Q v) (hw : v.Contains w) : NumbersIn Q w :=
  fun u hu => h u (hw.trans hu)

end NumbersIn

/-! ## What records hold -/

def Category.Holds (c : Category) : Prop := ∀ i ∈ c.id, fitsI64 i = true

def Software.Holds (s : Software) : Prop := ∀ i ∈ s.id, fitsI64 i = true

section Holds

variable (Q : Binary64 → Prop)

mutual

/-- Ids are integers of 64 bits and numbers have a property. -/
def Item.Holds : Item → Prop
  | ⟨id, _, _, capacity, category, prices, software⟩ =>
    fitsI64 id = true ∧ (∀ x ∈ capacity, Q x) ∧ (∀ c ∈ category, c.Holds) ∧
      Price.EachHolds prices ∧ ∀ s ∈ software, s.Holds

def Price.EachHolds : List Price → Prop
  | [] => True
  | p :: r => p.Holds ∧ Price.EachHolds r

def Price.Holds : Price → Prop
  | ⟨id, locationGroup, term, _, minimum, maximum, categories, item⟩ =>
    fitsI64 id = true ∧ (∀ i ∈ locationGroup, fitsI64 i = true) ∧ (∀ x ∈ term, Q x) ∧
      (∀ x ∈ minimum, Q x) ∧ (∀ x ∈ maximum, Q x) ∧ (∀ c ∈ categories, c.Holds) ∧
      Price.ItemHolds item

def Price.ItemHolds : Option Item → Prop
  | none => True
  | some i => i.Holds

end

variable {Q}

theorem Category.holds_ofJson {v : Json} {c : Category} (h : Category.ofJson v = .ok c) :
    c.Holds := by
  have hblank : Category.Holds ⟨none, none, ""⟩ := by rintro i ⟨⟩
  refine Record.read_induction hblank ?_ h
  intro name w c c' _ hc h
  unfold Category.set at h
  split at h
  · obtain ⟨id, hid, rfl⟩ := Record.map_eq_ok h
    exact fun i hi => Record.fits_of_integer (Record.nullable_eq_ok hid i hi)
  · obtain ⟨s, -, rfl⟩ := Record.map_eq_ok h
    exact hc
  · obtain ⟨s, -, rfl⟩ := Record.map_eq_ok h
    exact hc
  · obtain rfl := Except.ok.inj h
    exact hc

theorem Software.holds_ofJson {v : Json} {s : Software} (h : Software.ofJson v = .ok s) :
    s.Holds := by
  have hblank : Software.Holds ⟨none, none, none⟩ := by rintro i ⟨⟩
  refine Record.read_induction hblank ?_ h
  intro name w s s' _ hs h
  unfold Software.set at h
  split at h
  · obtain ⟨id, hid, rfl⟩ := Record.map_eq_ok h
    exact fun i hi => Record.fits_of_integer (Record.nullable_eq_ok hid i hi)
  · obtain ⟨code, -, rfl⟩ := Record.map_eq_ok h
    exact hs
  · obtain ⟨text, -, rfl⟩ := Record.map_eq_ok h
    exact hs
  · obtain rfl := Except.ok.inj h
    exact hs

theorem Item.holds_blank : Item.Holds Q .blank := ⟨rfl, nofun, nofun, trivial, nofun⟩

theorem Price.holds_blank : Price.Holds Q .blank :=
  ⟨rfl, nofun, nofun, nofun, nofun, nofun, trivial⟩

theorem Item.Holds.setPrices {i : Item} (h : i.Holds Q) {prices : List Price}
    (hprices : Price.EachHolds Q prices) : Item.Holds Q { i with prices := prices } := by
  cases i
  obtain ⟨hid, hcapacity, hcategory, -, hsoftware⟩ := h
  exact ⟨hid, hcapacity, hcategory, hprices, hsoftware⟩

theorem Price.Holds.setItem {p : Price} (h : p.Holds Q) {item : Option Item}
    (hitem : Price.ItemHolds Q item) : Price.Holds Q { p with item := item } := by
  cases p
  obtain ⟨hid, hgroup, hterm, hminimum, hmaximum, hcategories, -⟩ := h
  exact ⟨hid, hgroup, hterm, hminimum, hmaximum, hcategories, hitem⟩

/-- An item of which a field other than the prices is set. -/
theorem Item.holds_set {name : String} {v : Json} {i i' : Item} (hi : i.Holds Q)
    (hv : ∀ x ∈ number v, Q x) (h : i.set name v = .ok i') : i'.Holds Q := by
  cases i
  obtain ⟨hid, hcapacity, hcategory, hprices, hsoftware⟩ := hi
  unfold Item.set at h
  split at h
  · obtain ⟨id, hread, rfl⟩ := Record.map_eq_ok h
    exact ⟨Record.fits_of_integer hread, hcapacity, hcategory, hprices, hsoftware⟩
  · obtain ⟨s, -, rfl⟩ := Record.map_eq_ok h
    exact ⟨hid, hcapacity, hcategory, hprices, hsoftware⟩
  · obtain ⟨s, -, rfl⟩ := Record.map_eq_ok h
    exact ⟨hid, hcapacity, hcategory, hprices, hsoftware⟩
  · obtain rfl := Except.ok.inj h
    exact ⟨hid, hv, hcategory, hprices, hsoftware⟩
  · obtain ⟨c, hread, rfl⟩ := Record.map_eq_ok h
    exact ⟨hid, hcapacity,
      fun c hc => Category.holds_ofJson (Record.nullable_eq_ok hread c hc), hprices, hsoftware⟩
  · obtain ⟨s, hread, rfl⟩ := Record.map_eq_ok h
    exact ⟨hid, hcapacity, hcategory, hprices,
      fun s hs => Software.holds_ofJson (Record.nullable_eq_ok hread s hs)⟩
  · obtain rfl := Except.ok.inj h
    exact ⟨hid, hcapacity, hcategory, hprices, hsoftware⟩

/-- A price of which a field other than the item is set. -/
theorem Price.holds_set {name : String} {v : Json} {p p' : Price} (hp : p.Holds Q)
    (hv : ∀ x ∈ number v, Q x) (h : p.set name v = .ok p') : p'.Holds Q := by
  cases p
  obtain ⟨hid, hgroup, hterm, hminimum, hmaximum, hcategories, hitem⟩ := hp
  unfold Price.set at h
  split at h
  · obtain ⟨id, hread, rfl⟩ := Record.map_eq_ok h
    exact ⟨Record.fits_of_integer hread, hgroup, hterm, hminimum, hmaximum, hcategories, hitem⟩
  · obtain ⟨group, hread, rfl⟩ := Record.map_eq_ok h
    exact ⟨hid, fits_of_idNumber hread, hterm, hminimum, hmaximum, hcategories, hitem⟩
  · obtain rfl := Except.ok.inj h
    exact ⟨hid, hgroup, hv, hminimum, hmaximum, hcategories, hitem⟩
  · obtain ⟨restriction, -, rfl⟩ := Record.map_eq_ok h
    exact ⟨hid, hgroup, hterm, hminimum, hmaximum, hcategories, hitem⟩
  · obtain rfl := Except.ok.inj h
    exact ⟨hid, hgroup, hterm, hv, hmaximum, hcategories, hitem⟩
  · obtain rfl := Except.ok.inj h
    exact ⟨hid, hgroup, hterm, hminimum, hv, hcategories, hitem⟩
  · obtain ⟨cs, hread, rfl⟩ := Record.map_eq_ok h
    refine ⟨hid, hgroup, hterm, hminimum, hmaximum, fun c hc => ?_, hitem⟩
    obtain ⟨w, hw⟩ := Record.list_eq_ok hread c hc
    exact Category.holds_ofJson hw
  · obtain rfl := Except.ok.inj h
    exact ⟨hid, hgroup, hterm, hminimum, hmaximum, hcategories, hitem⟩

-- One lemma for each reader: the induction is on the value that is read, and the record that has
-- been set so far is carried along.
mutual

/-- The numbers of an item are read off its document. -/
theorem Item.holds_ofJson : ∀ (v : Json) {i : Item}, NumbersIn Q v → Item.ofJson v = .ok i →
    i.Holds Q
  | .obj members, _, hv, h => Item.holds_setByName members Item.holds_blank hv.member h
  | .arr items, _, hv, h => Item.holds_setByPosition items _ Item.holds_blank hv.item h
  | .null, _, _, h | .bool _, _, _, h | .num _, _, _, h | .str _, _, _, h => by cases h

theorem Item.holds_setByName : ∀ (members : List (String × Json)) {i i' : Item}, i.Holds Q →
    (∀ e ∈ members, NumbersIn Q e.2) → Item.setByName i members = .ok i' → i'.Holds Q
  | [], i, i', hi, _, h => by
    obtain rfl : i = i' := by simpa [Item.setByName] using h
    exact hi
  | (name, v) :: r, i, i', hi, hv, h => by
    obtain ⟨hfirst, hrest⟩ := List.forall_mem_cons.1 hv
    unfold Item.setByName at h
    split at h
    · obtain ⟨prices, hread, h⟩ := Record.bind_eq_ok h
      have hprices := Price.eachHolds_listOfJson v hfirst hread
      exact Item.holds_setByName r (hi.setPrices hprices) hrest h
    · obtain ⟨next, hset, h⟩ := Record.bind_eq_ok h
      exact Item.holds_setByName r (Item.holds_set hi hfirst.self hset) hrest h

theorem Item.holds_setByPosition : ∀ (items : List Json) (names : List String) {i i' : Item},
    i.Holds Q → (∀ w ∈ items, NumbersIn Q w) → Item.setByPosition names i items = .ok i' →
    i'.Holds Q
  | [], _, i, i', hi, _, h => by
    obtain rfl : i = i' := by simpa [Item.setByPosition] using h
    exact hi
  | v :: r, [], _, _, _, _, h => by
    unfold Item.setByPosition at h
    cases h
  | v :: r, name :: names, i, i', hi, hv, h => by
    obtain ⟨hfirst, hrest⟩ := List.forall_mem_cons.1 hv
    unfold Item.setByPosition at h
    dsimp only at h
    split at h
    · obtain ⟨prices, hread, h⟩ := Record.bind_eq_ok h
      have hprices := Price.eachHolds_listOfJson v hfirst hread
      exact Item.holds_setByPosition r names (hi.setPrices hprices) hrest h
    · obtain ⟨next, hset, h⟩ := Record.bind_eq_ok h
      exact Item.holds_setByPosition r names (Item.holds_set hi hfirst.self hset) hrest h

theorem Price.eachHolds_listOfJson : ∀ (v : Json) {ps : List Price}, NumbersIn Q v →
    Price.listOfJson v = .ok ps → Price.EachHolds Q ps
  | .arr items, _, hv, h => Price.eachHolds_eachOfJson items hv.item h
  | .null, _, _, h | .bool _, _, _, h | .num _, _, _, h | .str _, _, _, h
  | .obj _, _, _, h => by cases h

theorem Price.eachHolds_eachOfJson : ∀ (items : List Json) {ps : List Price},
    (∀ w ∈ items, NumbersIn Q w) → Price.eachOfJson items = .ok ps → Price.EachHolds Q ps
  | [], ps, _, h => by
    obtain rfl : [] = ps := by simpa [Price.eachOfJson] using h
    trivial
  | v :: r, ps, hv, h => by
    obtain ⟨hfirst, hrest⟩ := List.forall_mem_cons.1 hv
    unfold Price.eachOfJson at h
    obtain ⟨p, hp, h⟩ := Record.bind_eq_ok h
    obtain ⟨rest, hr, h⟩ := Record.bind_eq_ok h
    obtain rfl := Except.ok.inj h
    exact ⟨Price.holds_ofJson v hfirst hp, Price.eachHolds_eachOfJson r hrest hr⟩

/-- The numbers of a price are read off its document. -/
theorem Price.holds_ofJson : ∀ (v : Json) {p : Price}, NumbersIn Q v → Price.ofJson v = .ok p →
    p.Holds Q
  | .obj members, _, hv, h => Price.holds_setByName members Price.holds_blank hv.member h
  | .arr items, _, hv, h => Price.holds_setByPosition items _ Price.holds_blank hv.item h
  | .null, _, _, h | .bool _, _, _, h | .num _, _, _, h | .str _, _, _, h => by cases h

theorem Price.holds_setByName : ∀ (members : List (String × Json)) {p p' : Price}, p.Holds Q →
    (∀ e ∈ members, NumbersIn Q e.2) → Price.setByName p members = .ok p' → p'.Holds Q
  | [], p, p', hp, _, h => by
    obtain rfl : p = p' := by simpa [Price.setByName] using h
    exact hp
  | (name, v) :: r, p, p', hp, hv, h => by
    obtain ⟨hfirst, hrest⟩ := List.forall_mem_cons.1 hv
    unfold Price.setByName at h
    split at h
    · obtain ⟨item, hread, h⟩ := Record.bind_eq_ok h
      have hitem := Price.itemHolds_itemOfJson v hfirst hread
      exact Price.holds_setByName r (hp.setItem hitem) hrest h
    · obtain ⟨next, hset, h⟩ := Record.bind_eq_ok h
      exact Price.holds_setByName r (Price.holds_set hp hfirst.self hset) hrest h

theorem Price.holds_setByPosition : ∀ (items : List Json) (names : List String) {p p' : Price},
    p.Holds Q → (∀ w ∈ items, NumbersIn Q w) → Price.setByPosition names p items = .ok p' →
    p'.Holds Q
  | [], _, p, p', hp, _, h => by
    obtain rfl : p = p' := by simpa [Price.setByPosition] using h
    exact hp
  | v :: r, [], _, _, _, _, h => by
    unfold Price.setByPosition at h
    cases h
  | v :: r, name :: names, p, p', hp, hv, h => by
    obtain ⟨hfirst, hrest⟩ := List.forall_mem_cons.1 hv
    unfold Price.setByPosition at h
    dsimp only at h
    split at h
    · obtain ⟨item, hread, h⟩ := Record.bind_eq_ok h
      have hitem := Price.itemHolds_itemOfJson v hfirst hread
      exact Price.holds_setByPosition r names (hp.setItem hitem) hrest h
    · obtain ⟨next, hset, h⟩ := Record.bind_eq_ok h
      exact Price.holds_setByPosition r names (Price.holds_set hp hfirst.self hset) hrest h

theorem Price.itemHolds_itemOfJson : ∀ (v : Json) {o : Option Item}, NumbersIn Q v →
    Price.itemOfJson v = .ok o → Price.ItemHolds Q o
  | .null, o, _, h => by
    obtain rfl : none = o := by simpa [Price.itemOfJson] using h
    trivial
  | .obj members, _, hv, h => by
    unfold Price.itemOfJson at h
    obtain ⟨i, hread, rfl⟩ := Record.map_eq_ok h
    exact Item.holds_setByName members Item.holds_blank hv.member hread
  | .arr items, _, hv, h => by
    unfold Price.itemOfJson at h
    obtain ⟨i, hread, rfl⟩ := Record.map_eq_ok h
    exact Item.holds_setByPosition items _ Item.holds_blank hv.item hread
  | .bool _, _, _, h | .num _, _, _, h | .str _, _, _, h => by cases h

end

def Package.Holds (p : Package) : Prop := fitsI64 p.id = true

theorem Package.holds_ofJson {v : Json} {p : Package} (h : Package.ofJson v = .ok p) :
    p.Holds := by
  have hblank : Package.blank.Holds := rfl
  refine Record.read_induction hblank ?_ h
  intro name w p p' _ hp h
  unfold Package.set at h
  split at h
  · obtain ⟨id, hid, rfl⟩ := Record.map_eq_ok h
    exact Record.fits_of_integer hid
  · obtain ⟨s, -, rfl⟩ := Record.map_eq_ok h
    exact hp
  · obtain ⟨s, -, rfl⟩ := Record.map_eq_ok h
    exact hp
  · obtain ⟨s, -, rfl⟩ := Record.map_eq_ok h
    exact hp
  · obtain rfl := Except.ok.inj h
    exact hp
  · obtain ⟨t, -, rfl⟩ := Record.map_eq_ok h
    exact hp
  · obtain rfl := Except.ok.inj h
    exact hp

variable (Q) in
def Preset.Holds (p : Preset) : Prop := fitsI64 p.id = true ∧ Price.EachHolds Q p.prices

theorem Preset.holds_ofJson {v : Json} {p : Preset} (hv : NumbersIn Q v)
    (h : Preset.ofJson v = .ok p) : p.Holds Q := by
  have hblank : Preset.Holds Q ⟨0, "", "", "", []⟩ := ⟨rfl, trivial⟩
  refine Record.read_induction hblank ?_ h
  intro name w p p' hw hp h
  unfold Preset.set at h
  split at h
  · obtain ⟨id, hid, rfl⟩ := Record.map_eq_ok h
    exact ⟨Record.fits_of_integer hid, hp.2⟩
  · obtain ⟨s, -, rfl⟩ := Record.map_eq_ok h
    exact hp
  · obtain ⟨s, -, rfl⟩ := Record.map_eq_ok h
    exact hp
  · obtain ⟨s, -, rfl⟩ := Record.map_eq_ok h
    exact hp
  · obtain ⟨prices, hread, rfl⟩ := Record.map_eq_ok h
    exact ⟨hp.1, Price.eachHolds_listOfJson w (hv.of_contains hw) hread⟩
  · obtain rfl := Except.ok.inj h
    exact hp

end Holds

/-! ## What is read again -/

mutual

/-- The item without the numbers that JSON does not have. -/
def Item.finitePart : Item → Item
  | ⟨id, keyName, description, capacity, category, prices, software⟩ =>
    ⟨id, keyName, description, capacity.filter Binary64.isFinite, category,
      Price.eachFinitePart prices, software⟩

def Price.eachFinitePart : List Price → List Price
  | [] => []
  | p :: r => p.finitePart :: Price.eachFinitePart r

def Price.finitePart : Price → Price
  | ⟨id, locationGroup, term, restriction, minimum, maximum, categories, item⟩ =>
    ⟨id, locationGroup, term.filter Binary64.isFinite, restriction,
      minimum.filter Binary64.isFinite, maximum.filter Binary64.isFinite, categories,
      Price.itemFinitePart item⟩

def Price.itemFinitePart : Option Item → Option Item
  | none => none
  | some i => some i.finitePart

end

theorem Category.ofJson_toJson {c : Category} (h : c.Holds) :
    Category.ofJson c.toJson = .ok c := by
  have hid : Record.nullable Record.integer (.opt .int c.id) = .ok c.id :=
    Record.nullable_opt nofun fun i hi => Record.integer_int (h i hi)
  have hname : Record.nullable Record.string (.opt .str c.name) = .ok c.name :=
    Record.nullable_opt nofun fun _ _ => rfl
  simp [Category.ofJson, Category.toJson, Record.read, Record.setByName, Category.set, hid, hname,
    Record.string, Except.map, bind, Except.bind, pure, Except.pure]

theorem Software.ofJson_toJson {s : Software} (h : s.Holds) :
    Software.ofJson s.toJson = .ok s := by
  have hid : Record.nullable Record.integer (.opt .int s.id) = .ok s.id :=
    Record.nullable_opt nofun fun i hi => Record.integer_int (h i hi)
  have htext (t : Option String) : Record.nullable Record.string (.opt .str t) = .ok t :=
    Record.nullable_opt nofun fun _ _ => rfl
  simp [Software.ofJson, Software.toJson, Record.read, Record.setByName, Software.set, hid, htext,
    Except.map, bind, Except.bind, pure, Except.pure]

theorem Price.itemOfJson_eq {v : Json} (h : v ≠ .null) :
    Price.itemOfJson v = (Item.ofJson v).map some := by
  cases v with
  | null => contradiction
  | _ => rfl

section Again

variable {Q : Binary64 → Prop}

mutual

/-- An item that is written and read again has lost the numbers that JSON does not have. -/
theorem Item.ofJson_toJson : ∀ {i : Item}, i.Holds Q → Item.ofJson i.toJson = .ok i.finitePart
  | ⟨id, keyName, description, capacity, category, prices, software⟩,
      ⟨hid, _, hcategory, hprices, hsoftware⟩ => by
    have hid : Record.integer (.int id) = .ok id := Record.integer_int hid
    have hcategory : Record.nullable Category.ofJson (.opt Category.toJson category) =
        .ok category :=
      Record.nullable_opt nofun fun c hc => Category.ofJson_toJson (hcategory c hc)
    have hprices : Price.listOfJson (.arr (Price.eachToJson prices)) =
        .ok (Price.eachFinitePart prices) := Price.eachOfJson_eachToJson hprices
    have hsoftware : Record.nullable Software.ofJson (.opt Software.toJson software) =
        .ok software :=
      Record.nullable_opt nofun fun s hs => Software.ofJson_toJson (hsoftware s hs)
    simp [Item.toJson, Item.ofJson, Item.setByName, Item.set, Item.finitePart, Item.blank,
      number_opt_double, Record.string, hid, hcategory, hprices, hsoftware, Except.map, bind,
      Except.bind]

theorem Price.eachOfJson_eachToJson : ∀ {ps : List Price}, Price.EachHolds Q ps →
    Price.eachOfJson (Price.eachToJson ps) = .ok (Price.eachFinitePart ps)
  | [], _ => rfl
  | p :: r, ⟨hp, hr⟩ => by
    have hfirst := Price.ofJson_toJson hp
    have hrest := Price.eachOfJson_eachToJson hr
    simp [Price.eachToJson, Price.eachOfJson, Price.eachFinitePart, hfirst, hrest, bind,
      Except.bind, pure, Except.pure]

/-- A price that is written and read again has lost the numbers that JSON does not have. -/
theorem Price.ofJson_toJson : ∀ {p : Price}, p.Holds Q → Price.ofJson p.toJson = .ok p.finitePart
  | ⟨id, locationGroup, term, restriction, minimum, maximum, categories, item⟩,
      ⟨hid, hgroup, _, _, _, hcategories, hitem⟩ => by
    have hid : Record.integer (.int id) = .ok id := Record.integer_int hid
    have hgroup : idNumber (.opt .int locationGroup) = .ok locationGroup :=
      idNumber_opt_int hgroup
    have hrestriction : Record.nullable Record.string (.opt .str restriction) = .ok restriction :=
      Record.nullable_opt nofun fun _ _ => rfl
    have hcategories : Record.list Category.ofJson (.arr (categories.map Category.toJson)) =
        .ok categories := by
      rw [Record.list_map fun c hc => Category.ofJson_toJson (hcategories c hc), List.map_id']
    cases item with
    | none =>
      simp [Price.toJson, Price.ofJson, Price.setByName, Price.set, Price.finitePart,
        Price.itemToJson, Price.itemFinitePart, Price.blank, number_opt_double, hid, hgroup,
        hrestriction, hcategories, Except.map, bind, Except.bind]
    | some i =>
      have hitem : Price.itemOfJson i.toJson = .ok (some i.finitePart) := by
        rw [Price.itemOfJson_eq (by cases i; nofun), Item.ofJson_toJson hitem]
        rfl
      simp [Price.toJson, Price.ofJson, Price.setByName, Price.set, Price.finitePart,
        Price.itemToJson, Price.itemFinitePart, Price.blank, number_opt_double, hid, hgroup,
        hrestriction, hcategories, hitem, Except.map, bind, Except.bind]

end

theorem Package.ofJson_toJson {p : Package} (h : p.Holds) :
    Package.ofJson p.toJson = .ok p := by
  have hid : Record.integer (.int p.id) = .ok p.id := Record.integer_int h
  obtain ⟨id, keyName, name, description, isActive, type⟩ := p
  cases type with
  | none =>
    simp [Package.ofJson, Package.toJson, Record.read, Record.setByName, Package.set,
      Package.blank, hid, flag, Record.string, Except.map, bind, Except.bind, pure, Except.pure]
  | some t =>
    have htype : Package.typeOfJson (.obj [("keyName", .str t)]) = .ok t := rfl
    simp [Package.ofJson, Package.toJson, Record.read, Record.setByName, Package.set,
      Package.blank, hid, flag, Record.string, Record.nullable, htype, Except.map, bind,
      Except.bind, pure, Except.pure]

def Preset.finitePart (p : Preset) : Preset := { p with prices := Price.eachFinitePart p.prices }

/-- A preset that is written and read again has lost the numbers that JSON does not have. -/
theorem Preset.ofJson_toJson {p : Preset} (h : p.Holds Q) :
    Preset.ofJson p.toJson = .ok p.finitePart := by
  have hid : Record.integer (.int p.id) = .ok p.id := Record.integer_int h.1
  have hprices : Price.listOfJson (.arr (Price.eachToJson p.prices)) =
      .ok (Price.eachFinitePart p.prices) := Price.eachOfJson_eachToJson h.2
  simp [Preset.ofJson, Preset.toJson, Preset.finitePart, Record.read, Record.setByName,
    Preset.set, hid, hprices, Record.string, Except.map, bind, Except.bind, pure, Except.pure]

/-! ## Which records survive -/

theorem filter_eq_self_iff {o : Option Binary64} :
    o.filter Binary64.isFinite = o ↔ ∀ x ∈ o, x.isFinite = true := by
  cases o with
  | none => exact iff_of_true rfl nofun
  | some x => simp [Option.filter_some]

mutual

theorem Item.finitePart_eq_iff : ∀ {i : Item}, i.Holds Q →
    (i.finitePart = i ↔ i.Holds fun x => x.isFinite = true)
  | ⟨id, keyName, description, capacity, category, prices, software⟩,
      ⟨hid, _, hcategory, hprices, hsoftware⟩ => by
    have heach := Price.eachFinitePart_eq_iff hprices
    simp only [Item.finitePart, Item.Holds, Item.mk.injEq, filter_eq_self_iff, heach, true_and,
      and_true, hid]
    refine and_congr_right fun _ => ⟨fun h => ⟨hcategory, h, hsoftware⟩, ?_⟩
    rintro ⟨-, h, -⟩
    exact h

theorem Price.eachFinitePart_eq_iff : ∀ {ps : List Price}, Price.EachHolds Q ps →
    (Price.eachFinitePart ps = ps ↔ Price.EachHolds (fun x => x.isFinite = true) ps)
  | [], _ => iff_of_true rfl trivial
  | p :: r, ⟨hp, hr⟩ => by
    rw [Price.eachFinitePart, List.cons.injEq, Price.finitePart_eq_iff hp,
      Price.eachFinitePart_eq_iff hr, Price.EachHolds]

theorem Price.finitePart_eq_iff : ∀ {p : Price}, p.Holds Q →
    (p.finitePart = p ↔ p.Holds fun x => x.isFinite = true)
  | ⟨id, locationGroup, term, restriction, minimum, maximum, categories, none⟩,
      ⟨hid, hgroup, _, _, _, hcategories, _⟩ => by
    simp only [Price.finitePart, Price.Holds, Price.mk.injEq, filter_eq_self_iff, true_and,
      and_true, hid, Price.itemFinitePart, Price.ItemHolds]
    constructor
    · rintro ⟨hterm, hminimum, hmaximum⟩
      exact ⟨hgroup, hterm, hminimum, hmaximum, hcategories⟩
    · rintro ⟨-, hterm, hminimum, hmaximum, -⟩
      exact ⟨hterm, hminimum, hmaximum⟩
  | ⟨id, locationGroup, term, restriction, minimum, maximum, categories, some i⟩,
      ⟨hid, hgroup, _, _, _, hcategories, hitem⟩ => by
    have hi := Item.finitePart_eq_iff hitem
    simp only [Price.finitePart, Price.Holds, Price.mk.injEq, filter_eq_self_iff, true_and,
      hid, Price.itemFinitePart, Price.ItemHolds, Option.some.injEq, hi]
    constructor
    · rintro ⟨hterm, hminimum, hmaximum, hitem⟩
      exact ⟨hgroup, hterm, hminimum, hmaximum, hcategories, hitem⟩
    · rintro ⟨-, hterm, hminimum, hmaximum, -, hitem⟩
      exact ⟨hterm, hminimum, hmaximum, hitem⟩

end

theorem Preset.finitePart_eq_iff {p : Preset} (h : p.Holds Q) :
    p.finitePart = p ↔ p.Holds fun x => x.isFinite = true := by
  have heach := Price.eachFinitePart_eq_iff h.2
  obtain ⟨id, keyName, name, description, prices⟩ := p
  simp only [Preset.finitePart, Preset.mk.injEq, true_and, Preset.Holds, heach, h.1]

end Again

/-- A JSON value as documents have it, in which no text is that of an infinity or a NaN. -/
structure IsPlain (v : Json) : Prop where
  /-- Integers have 64 bits, with a sign or without. -/
  integers : ∀ i, v.Contains (.int i) → -2 ^ 63 ≤ i ∧ i < 2 ^ 64
  /-- Doubles are finite. -/
  doubles : ∀ x, v.Contains (.num (.double x)) → x.isFinite = true
  /-- The numbers that texts stand for are finite. -/
  texts : ∀ s, v.Contains (.str s) → ∀ x ∈ Decimal.double? (Text.trimmed s), x.isFinite = true

theorem IsPlain.numbersIn {v : Json} (h : IsPlain v) :
    NumbersIn (fun x => x.isFinite = true) v := by
  intro w hw x hx
  unfold number at hx
  split at hx
  · rename_i n
    obtain rfl := Option.some.inj hx
    cases n with
    | int i =>
      have hrange := h.integers i hw
      exact Binary64.isFinite_ofInt (by omega)
    | double x => exact h.doubles x hw
  · exact h.texts _ hw x hx
  · cases hx

/-- A kind of record whose numbers are those of its document, and which loses just the numbers
that are not finite when it is written: its records survive exactly if their numbers are
finite. -/
theorem reread_of {α : Type} {read : Json → Record.Reading α} {write : α → Json} {part : α → α}
    {P : (Binary64 → Prop) → α → Prop}
    (hholds : ∀ {Q v a}, NumbersIn Q v → read v = .ok a → P Q a)
    (hread : ∀ {Q a}, P Q a → read (write a) = .ok (part a))
    (hpart : ∀ {Q a}, P Q a → (part a = a ↔ P (fun x => x.isFinite = true) a))
    {v : Json} {a : α} (h : read v = .ok a) :
    read (write a) = .ok (part a) ∧
      (read (write a) = .ok a ↔ P (fun x => x.isFinite = true) a) ∧
      (IsPlain v → read (write a) = .ok a) := by
  have htrivial : P (fun _ => True) a := hholds (fun _ _ _ _ => trivial) h
  have hiff : read (write a) = .ok a ↔ P (fun x => x.isFinite = true) a := by
    rw [hread htrivial, Except.ok.injEq, hpart htrivial]
  exact ⟨hread htrivial, hiff, fun hv => hiff.2 (hholds hv.numbersIn h)⟩

/-- Every record that is decoded, written and decoded again is the record without the numbers
that JSON does not have; packages have no such numbers.  So a record survives exactly if its
numbers are finite, as they are whenever the texts of its document are plain, and what is
printed for items and presets is read as their finite parts. -/
theorem reread (v : Json) :
    (∀ p, Package.ofJson v = .ok p → Package.ofJson p.toJson = .ok p) ∧
      (∀ i, Item.ofJson v = .ok i → Item.ofJson i.toJson = .ok i.finitePart ∧
        (Item.ofJson i.toJson = .ok i ↔ i.Holds fun x => x.isFinite = true) ∧
        (IsPlain v → Item.ofJson i.toJson = .ok i)) ∧
      (∀ p, Price.ofJson v = .ok p → Price.ofJson p.toJson = .ok p.finitePart ∧
        (Price.ofJson p.toJson = .ok p ↔ p.Holds fun x => x.isFinite = true) ∧
        (IsPlain v → Price.ofJson p.toJson = .ok p)) ∧
      (∀ p, Preset.ofJson v = .ok p → Preset.ofJson p.toJson = .ok p.finitePart ∧
        (Preset.ofJson p.toJson = .ok p ↔ p.Holds fun x => x.isFinite = true) ∧
        (IsPlain v → Preset.ofJson p.toJson = .ok p)) ∧
      (∀ items, Record.list Item.ofJson v = .ok items →
        Record.list Item.ofJson (.arr (items.map Item.toJson)) =
          .ok (items.map Item.finitePart)) ∧
      ∀ presets, Record.list Preset.ofJson v = .ok presets →
        Record.list Preset.ofJson (.arr (presets.map Preset.toJson)) =
          .ok (presets.map Preset.finitePart) := by
  have hitem {v i} (h : Item.ofJson v = .ok i) :=
    reread_of (P := Item.Holds) (Item.holds_ofJson _) Item.ofJson_toJson Item.finitePart_eq_iff h
  have hprice {v p} (h : Price.ofJson v = .ok p) :=
    reread_of (P := Price.Holds) (Price.holds_ofJson _) Price.ofJson_toJson
      Price.finitePart_eq_iff h
  have hpreset {v p} (h : Preset.ofJson v = .ok p) :=
    reread_of (P := Preset.Holds) Preset.holds_ofJson Preset.ofJson_toJson
      Preset.finitePart_eq_iff h
  refine ⟨fun p hp => Package.ofJson_toJson (Package.holds_ofJson hp), fun i hi => hitem hi,
    fun p hp => hprice hp, fun p hp => hpreset hp, fun items hitems => ?_,
    fun presets hpresets => ?_⟩
  · refine Record.list_map fun i hi => ?_
    obtain ⟨w, hw⟩ := Record.list_eq_ok hitems i hi
    exact (hitem hw).1
  · refine Record.list_map fun p hp => ?_
    obtain ⟨w, hw⟩ := Record.list_eq_ok hpresets p hp
    exact (hpreset hw).1

/-- An item whose capacity is a text. -/
theorem reread_capacity :
    let v : Json := .obj [("capacity", .str "4")]
    let i : Item := ⟨0, "", "", some (.ofInt 4), none, [], none⟩
    Item.ofJson v = .ok i ∧ IsPlain v ∧ Item.ofJson i.toJson = .ok i := by
  intro v i
  have hnumber : number (.str "4") = some (.ofInt 4) := by decide +kernel
  have hread : Item.ofJson v = .ok i := by
    simp [v, i, Item.ofJson, Item.setByName, Item.set, Item.blank, hnumber, bind, Except.bind]
  have hvalues (w : Json) (h : v.Contains w) : w = .obj [("capacity", .str "4")] ∨ w = .str "4" := by
    simpa [v, Json.contains_obj_iff, Json.contains_str_iff] using h
  have hplain : IsPlain v := by
    refine ⟨fun j hj => ?_, fun x hx => ?_, fun s hs => ?_⟩
    · rcases hvalues _ hj with h | h <;> cases h
    · rcases hvalues _ hx with h | h <;> cases h
    · rcases hvalues _ hs with h | h <;> cases h
      decide +kernel
  exact ⟨hread, hplain, ((reread v).2.1 i hread).2.2 hplain⟩

/-- A price for a term that is given as the text of infinity is admissible at no term, and at
every term once it has been written and read again. -/
theorem endless_term_lost :
    let read (v : Json) := (Price.ofJson v).toOption
    let v : Json := .obj [("id", .int 1), ("termLength", .str "inf")]
    (read v).map (fun p => Pricing.isAdmissible p none 0) = some false ∧
      ((read v).bind fun p => read p.toJson).map (fun p => Pricing.isAdmissible p none 0) =
        some true := by
  decide +kernel

end CloudClient.Catalog
