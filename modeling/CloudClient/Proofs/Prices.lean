import CloudClient.Catalog.Pricing
import Mathlib.Data.List.Basic

/-!
# Prices — what an order is billed at

Every key name of an order stands for one item, and is billed at the first price of that
item that may be used for it.  An order fails with the first key name for which there is no
such item or no such price.

* `Pricing.Names` is the item that a key name stands for, and `Pricing.isUsable` tells which
  of its prices may be used after the items before it.
* `Pricing.Chosen` goes through an order item by item.
* `Pricing.priceIds_exact` tells when an order has price ids, and which.
* `Pricing.reference_code_overlooked`: an item that is ordered by the reference code of its
  software gives no capacity.
-/

namespace CloudClient.Catalog.Pricing

/-- The first element of a list with a property. -/
def IsFirst {α : Type} (P : α → Bool) (xs : List α) (x : α) : Prop :=
  P x = true ∧ ∃ before after, xs = before ++ x :: after ∧ ∀ y ∈ before, P y = false

theorem find?_eq_some_iff_isFirst {α : Type} {P : α → Bool} {xs : List α} {x : α} :
    xs.find? P = some x ↔ IsFirst P xs x := by
  simp [List.find?_eq_some_iff_append, IsFirst]

theorem IsFirst.mem {α : Type} {P : α → Bool} {xs : List α} {x : α} (h : IsFirst P xs x) :
    x ∈ xs := by
  obtain ⟨-, before, after, rfl, -⟩ := h
  exact List.mem_append_right before List.mem_cons_self

/-! ## Items -/

section Items

variable {items : List Item} {package keyname : String} {i : Item}

/-- An item is the only one with a key name or, if there is none with it, the only one whose
software has it as its reference code. -/
def Names (items : List Item) (keyname : String) (i : Item) : Prop :=
  items.filter (fun i => i.keyName == keyname) = [i] ∨
    items.filter (fun i => i.keyName == keyname) = [] ∧
      items.filter (fun i => i.software.bind Software.referenceCode == some keyname) = [i]

/-- Without an item of the key name, reference codes count. -/
theorem named_of_filter_eq_nil (h : items.filter (fun i => i.keyName == keyname) = []) :
    named items keyname =
      items.filter (fun i => i.software.bind Software.referenceCode == some keyname) := by
  rw [named, h]
  refine List.filter_congr fun i hi => ?_
  have hkey : (i.keyName == keyname) = false := by
    simpa using List.filter_eq_nil_iff.1 h i hi
  rw [Item.isNamed, hkey, Bool.false_or]

theorem named_of_filter_ne_nil (h : items.filter (fun i => i.keyName == keyname) ≠ []) :
    named items keyname = items.filter (fun i => i.keyName == keyname) := by
  rw [named]
  split
  · rename_i hnil
    exact absurd hnil h
  · rfl

theorem named_eq_singleton_iff : named items keyname = [i] ↔ Names items keyname i := by
  by_cases h : items.filter (fun i => i.keyName == keyname) = []
  · rw [named_of_filter_eq_nil h, Names, h]
    simp
  · rw [named_of_filter_ne_nil h, Names]
    simp [h]

/-- A key name that stands for nothing is no item's key name and no reference code. -/
theorem isNamed_of_named_eq_nil (h : named items keyname = []) :
    ∀ i ∈ items, i.isNamed keyname = false := by
  by_cases hkeys : items.filter (fun i => i.keyName == keyname) = []
  · rw [named, hkeys] at h
    intro i hi
    simpa using List.filter_eq_nil_iff.1 h i hi
  · exact absurd ((named_of_filter_ne_nil hkeys).symm.trans h) hkeys

/-- A key name gives the item that it stands for, or fails as it stands for none or several. -/
theorem itemNamed_spec (package : String) (items : List Item) (keyname : String) :
    (∃ i, itemNamed package items keyname = .ok i ∧ Names items keyname i) ∨
    ∃ detail, itemNamed package items keyname = .error (.ordering operation keyname detail) ∧
      ((∀ i ∈ items, i.isNamed keyname = false) ∨ 2 ≤ (named items keyname).length) := by
  cases hnamed : named items keyname with
  | nil =>
    refine .inr ⟨"Item " ++ keyname ++ " does not exist for package " ++ package, ?_,
      .inl (isNamed_of_named_eq_nil hnamed)⟩
    rw [itemNamed, hnamed]
  | cons i r =>
    cases r with
    | nil =>
      refine .inl ⟨i, ?_, named_eq_singleton_iff.1 hnamed⟩
      rw [itemNamed, hnamed]
    | cons j r =>
      refine .inr ⟨"Item " ++ keyname ++ " is ambiguous in package " ++ package, ?_, .inr ?_⟩
      · rw [itemNamed, hnamed]
      · simp

end Items

/-! ## Prices -/

section Prices

variable {capacity : Option Binary64} {term : Nat} {earlier before : List String} {i : Item}
  {p : Price}

/-- The code of the category of an item, empty if it has none. -/
def code (i : Item) : String := i.categoryCode?.getD ""

/-- Whether a price of an item may be used after items of earlier categories: in a slotted
category a global price of the next slot, and otherwise an admissible one. -/
def isUsable (capacity : Option Binary64) (term : Nat) (earlier : List String) (i : Item)
    (p : Price) : Bool :=
  match slotStem? (code i) with
  | some stem =>
    isGlobal p && (p.categories.head?.map Category.code) ==
      some (stem ++ Text.ofNat (earlier.count (code i)))
  | none => isAdmissible p capacity term

theorem isUsable_of_not_slotted (h : slotStem? (code i) = none) :
    isUsable capacity term earlier i = fun p => isAdmissible p capacity term := by
  funext p
  rw [isUsable, h]

theorem isUsable_of_slotted {stem : String} (h : slotStem? (code i) = some stem) :
    isUsable capacity term earlier i = fun p =>
      isGlobal p && (p.categories.head?.map Category.code) ==
        some (stem ++ Text.ofNat (earlier.count (code i))) := by
  funext p
  rw [isUsable, h]

theorem isUsable_of_perm (h : earlier.Perm before) :
    isUsable capacity term earlier i = isUsable capacity term before i := by
  funext p
  rw [isUsable, isUsable, h.count_eq]

theorem isGlobal_of_isUsable (h : isUsable capacity term earlier i p = true) :
    p.locationGroup = none := by
  have hglobal : isGlobal p = true := by
    unfold isUsable isAdmissible at h
    split at h
    · exact (Bool.and_eq_true_iff.1 h).1
    · exact (Bool.and_eq_true_iff.1 (Bool.and_eq_true_iff.1 h).1).1
  exact Option.isNone_iff_eq_none.1 hglobal

/-- An item is billed at the first price that may be used, or fails as there is none. -/
theorem priceId_spec (keyname : String) (i : Item) (earlier : List String)
    (capacity : Option Binary64) (term : Nat) :
    (∃ p, priceId keyname i earlier capacity term = .ok p.id ∧
      IsFirst (isUsable capacity term earlier i) i.prices p) ∨
    ∃ detail, priceId keyname i earlier capacity term =
        .error (.ordering operation keyname detail) ∧
      ∀ p ∈ i.prices, isUsable capacity term earlier i p = false := by
  -- both searches are for the first usable price, and differ in what they say without one
  obtain ⟨detail, hfind⟩ : ∃ detail, priceId keyname i earlier capacity term =
      ((i.prices.find? (isUsable capacity term earlier i)).map Price.id).elim
        (.error (.ordering operation keyname detail)) .ok := by
    cases hstem : slotStem? (code i) with
    | none =>
      rw [isUsable_of_not_slotted hstem]
      rw [code] at hstem
      refine ⟨"Could not find valid price for item " ++ keyname, ?_⟩
      simp only [priceId, hstem, firstAdmissible?]
      cases (i.prices.find? fun p => isAdmissible p capacity term).map Price.id <;> rfl
    | some stem =>
      rw [isUsable_of_slotted hstem]
      rw [code] at hstem
      simp only [priceId, hstem, slotPrice?, code]
      generalize stem ++ Text.ofNat (earlier.count (i.categoryCode?.getD "")) = slot
      refine ⟨"Item " ++ keyname ++ " has no price for slot " ++ slot, ?_⟩
      cases (i.prices.find? fun p =>
        isGlobal p && (p.categories.head?.map Category.code) == some slot).map Price.id <;> rfl
  rw [hfind]
  cases hprice : i.prices.find? (isUsable capacity term earlier i) with
  | some p => exact .inl ⟨p, rfl, find?_eq_some_iff_isFirst.1 hprice⟩
  | none =>
    refine .inr ⟨detail, rfl, fun p hp => ?_⟩
    simpa using List.find?_eq_none.1 hprice p hp

end Prices

/-! ## Orders -/

section Orders

variable {package : String} {items : List Item} {capacity : Option Binary64} {term : Nat}

/-- The items that key names stand for after items of the categories `before`, each with the
first of its prices that may be used. -/
inductive Chosen (items : List Item) (capacity : Option Binary64) (term : Nat) :
    List String → List String → List (Item × Price) → Prop
  | nil {before : List String} : Chosen items capacity term before [] []
  | cons {before keynames : List String} {keyname : String} {i : Item} {p : Price}
      {chosen : List (Item × Price)} (hname : Names items keyname i)
      (hprice : IsFirst (isUsable capacity term before i) i.prices p)
      (hrest : Chosen items capacity term (code i :: before) keynames chosen) :
      Chosen items capacity term before (keyname :: keynames) ((i, p) :: chosen)

/-- Why a key name has no price after items of the categories `before`. -/
inductive Unpriced (items : List Item) (capacity : Option Binary64) (term : Nat)
    (before : List String) (keyname : String) : Prop
  | absent (h : ∀ i ∈ items, i.isNamed keyname = false)
  | ambiguous (h : 2 ≤ (named items keyname).length)
  | unusable {i : Item} (hname : Names items keyname i)
      (h : ∀ p ∈ i.prices, isUsable capacity term before i p = false)

def codes (chosen : List (Item × Price)) : List String := chosen.map fun x => code x.1

theorem priceIdsFrom_cons {before keynames : List String} {keyname : String} {i : Item} {id : Int}
    (hitem : itemNamed package items keyname = .ok i)
    (hid : priceId keyname i before capacity term = .ok id) :
    priceIdsFrom package items capacity term before (keyname :: keynames) =
      (priceIdsFrom package items capacity term (code i :: before) keynames).map (id :: ·) := by
  rw [priceIdsFrom, hitem]
  change (priceId keyname i before capacity term >>= _) = _
  rw [hid]
  change (priceIdsFrom package items capacity term (code i :: before) keynames >>= _) = _
  cases priceIdsFrom package items capacity term (code i :: before) keynames <;> rfl

/-- An order either has a price for every key name, or fails with the first that has none. -/
theorem priceIdsFrom_spec (package : String) (items : List Item) (capacity : Option Binary64)
    (term : Nat) (before keynames : List String) :
    (∃ chosen, Chosen items capacity term before keynames chosen ∧
      priceIdsFrom package items capacity term before keynames =
        .ok (chosen.map fun x => x.2.id)) ∨
    ∃ front keyname rest chosen detail, keynames = front ++ keyname :: rest ∧
      Chosen items capacity term before front chosen ∧
      Unpriced items capacity term ((codes chosen).reverse ++ before) keyname ∧
      priceIdsFrom package items capacity term before keynames =
        .error (.ordering operation keyname detail) := by
  -- an item that is chosen takes a slot, so the categories before the rest are one more
  induction keynames generalizing before with
  | nil => exact .inl ⟨[], .nil, rfl⟩
  | cons keyname keynames ih =>
    obtain ⟨i, hitem, hname⟩ | ⟨detail, hitem, hwhy⟩ := itemNamed_spec package items keyname
    · obtain ⟨p, hid, hprice⟩ | ⟨detail, hid, hnone⟩ :=
        priceId_spec keyname i before capacity term
      · rw [priceIdsFrom_cons hitem hid]
        obtain ⟨chosen, hchosen, hok⟩ |
          ⟨front, other, rest, chosen, detail, rfl, hchosen, hwhy, herror⟩ := ih (code i :: before)
        · refine .inl ⟨(i, p) :: chosen, .cons hname hprice hchosen, ?_⟩
          rw [hok]
          rfl
        · refine .inr ⟨keyname :: front, other, rest, (i, p) :: chosen, detail, rfl,
            .cons hname hprice hchosen, ?_, ?_⟩
          · simpa [codes] using hwhy
          · rw [herror]
            rfl
      · refine .inr ⟨[], keyname, keynames, [], detail, rfl, .nil, .unusable hname hnone, ?_⟩
        rw [priceIdsFrom, hitem]
        change (priceId keyname i before capacity term >>= _) = _
        rw [hid]
        rfl
    · refine .inr ⟨[], keyname, keynames, [], detail, rfl, .nil, ?_, ?_⟩
      · exact hwhy.elim .absent .ambiguous
      · rw [priceIdsFrom, hitem]
        rfl

/-- What is chosen, position by position. -/
theorem Chosen.at {before keynames : List String} {chosen : List (Item × Price)}
    (h : Chosen items capacity term before keynames chosen) :
    chosen.length = keynames.length ∧
    ∀ (j : Nat) keyname, keynames[j]? = some keyname → ∃ i p, chosen[j]? = some (i, p) ∧
      Names items keyname i ∧
      IsFirst (isUsable capacity term ((codes (chosen.take j)).reverse ++ before) i)
        i.prices p := by
  induction h with
  | nil => exact ⟨rfl, fun j keyname hj => by cases hj⟩
  | @cons before keynames keyname i p chosen hname hprice hrest ih =>
    refine ⟨congrArg (· + 1) ih.1, fun j other hj => ?_⟩
    cases j with
    | zero =>
      obtain rfl := Option.some.inj hj
      exact ⟨i, p, rfl, hname, hprice⟩
    | succ j =>
      obtain ⟨i', p', hget, hname', hprice'⟩ := ih.2 j other hj
      exact ⟨i', p', hget, hname', by simpa [codes] using hprice'⟩

/-- The capacity of an order is that of the last of its items that gives one and was ordered
by its own key name. -/
theorem Chosen.capacity?_eq {before keynames : List String} {chosen : List (Item × Price)}
    (h : Chosen items capacity term before keynames chosen) :
    capacity? items keynames = (keynames.zip chosen).reverse.findSome? fun x =>
      if x.2.1.keyName == x.1 then orderCapacity? x.2.1 else none := by
  unfold capacity?
  induction h with
  | nil => rfl
  | @cons before keynames keyname i p chosen hname hprice hrest ih =>
    have hgives : (items.find? fun i => i.keyName == keyname).bind orderCapacity? =
        if i.keyName == keyname then orderCapacity? i else none := by
      rw [← List.head?_filter]
      obtain hkey | ⟨hkey, hcode⟩ := hname
      · have hi := (List.mem_filter.1 (hkey ▸ List.mem_singleton_self i)).2
        rw [hkey, hi]
        rfl
      · -- reference codes count where no item has the key name, this one included
        have hi : (i.keyName == keyname) = false := by
          have hmem := (List.mem_filter.1 (hcode ▸ List.mem_singleton_self i)).1
          simpa using List.filter_eq_nil_iff.1 hkey i hmem
        rw [hkey, hi]
        rfl
    simp only [List.reverse_cons, List.zip_cons_cons, List.findSome?_append, ih,
      List.findSome?_cons, List.findSome?_nil, hgives]

/-- Where items that are ordered by a reference code give no capacity, the capacity is that
of the last item that gives one. -/
theorem Chosen.capacity?_eq_last {before keynames : List String} {chosen : List (Item × Price)}
    (h : Chosen items capacity term before keynames chosen)
    (hcodes : ∀ x ∈ keynames.zip chosen, x.2.1.keyName ≠ x.1 → orderCapacity? x.2.1 = none) :
    capacity? items keynames = (chosen.map Prod.fst).reverse.findSome? orderCapacity? := by
  have hzip : (keynames.zip chosen).map Prod.snd = chosen :=
    List.map_snd_zip (Nat.le_of_eq h.at.1)
  have hitems : chosen.map Prod.fst = (keynames.zip chosen).map fun x => x.2.1 :=
    calc chosen.map Prod.fst
      _ = ((keynames.zip chosen).map Prod.snd).map Prod.fst := by rw [hzip]
      _ = (keynames.zip chosen).map fun x => x.2.1 := List.map_map
  rw [h.capacity?_eq, hitems, ← List.map_reverse, List.findSome?_map, ← List.head?_filterMap,
    ← List.head?_filterMap]
  refine congrArg List.head? (List.filterMap_congr fun x hx => ?_)
  split
  · rfl
  · rename_i hkey
    exact (hcodes x (List.mem_reverse.1 hx) (by simpa using hkey)).symm

/-- When an order has price ids, and which.  There is one for each key name, of a price
without a location group of the only item that it stands for, and what is not in a slotted
category is billed at the first admissible price.  Otherwise the order fails with the first
key name that has no item, several, or no price that may be used. -/
theorem priceIds_exact (package : String) (items : List Item) (keynames : List String)
    (cores : Option Binary64) (term : Nat) :
    (∀ ids, priceIds package items keynames cores term = .ok ids →
      ∃ chosen : List (Item × Price), chosen.length = keynames.length ∧
        ids = chosen.map (fun x => x.2.id) ∧
        (∀ (j : Nat) keyname, keynames[j]? = some keyname → ∃ i p, chosen[j]? = some (i, p) ∧
          Names items keyname i ∧ p ∈ i.prices ∧ p.locationGroup = none ∧
          IsFirst (isUsable (cores <|> capacity? items keynames) term
            (codes (chosen.take j)) i) i.prices p ∧
          (slotStem? (code i) = none → IsFirst
            (fun p => isAdmissible p (cores <|> capacity? items keynames) term) i.prices p)) ∧
        -- the capacity is that of the last item that gives one and was ordered by key name
        capacity? items keynames = ((keynames.zip chosen).reverse.findSome? fun x =>
          if x.2.1.keyName == x.1 then orderCapacity? x.2.1 else none) ∧
        -- so that of the last item that gives one, unless a reference code stood for an item
        ((∀ x ∈ keynames.zip chosen, x.2.1.keyName ≠ x.1 → orderCapacity? x.2.1 = none) →
          capacity? items keynames = (chosen.map Prod.fst).reverse.findSome? orderCapacity?)) ∧
    (∀ e, priceIds package items keynames cores term = .error e →
      ∃ front keyname rest chosen detail, keynames = front ++ keyname :: rest ∧
        e = .ordering operation keyname detail ∧
        Chosen items (cores <|> capacity? items keynames) term [] front chosen ∧
        Unpriced items (cores <|> capacity? items keynames) term (codes chosen).reverse
          keyname) := by
  rw [priceIds]
  obtain ⟨chosen, hchosen, hok⟩ |
      ⟨front, keyname, rest, chosen, detail, hsplit, hchosen, hwhy, herror⟩ :=
    priceIdsFrom_spec package items (cores <|> capacity? items keynames) term [] keynames
  · rw [hok]
    refine ⟨?_, nofun⟩
    rintro ids ⟨⟩
    refine ⟨chosen, hchosen.at.1, rfl, fun j keyname hj => ?_, hchosen.capacity?_eq,
      hchosen.capacity?_eq_last⟩
    obtain ⟨i, p, hget, hname, hprice⟩ := hchosen.at.2 j keyname hj
    -- a slot is told by how many items of a category came before, not by their order
    have hperm : ((codes (chosen.take j)).reverse ++ []).Perm (codes (chosen.take j)) := by
      simp [List.reverse_perm]
    rw [isUsable_of_perm hperm] at hprice
    exact ⟨i, p, hget, hname, hprice.mem, isGlobal_of_isUsable hprice.1, hprice,
      fun hstem => isUsable_of_not_slotted hstem ▸ hprice⟩
  · rw [herror]
    refine ⟨nofun, ?_⟩
    rintro e ⟨⟩
    exact ⟨front, keyname, rest, chosen, detail, hsplit, rfl, hchosen, by simpa using hwhy⟩

/-- A processor that is ordered by the reference code of its software does not count: memory
for eight cores is billed at the price for one or two. -/
theorem reference_code_overlooked :
    let plain : Price := { Price.blank with id := 1 }
    let cpu : Item := ⟨1, "GUEST_8_CORES", "", some (.ofInt 8), none, [plain],
      some ⟨none, some "CPU8", none⟩⟩
    let few : Price := { Price.blank with
      id := 2, restriction := some "CORE", minimum := some (.ofInt 1), maximum := some (.ofInt 2) }
    let many : Price := { Price.blank with
      id := 3, restriction := some "CORE", minimum := some (.ofInt 4), maximum := some (.ofInt 16) }
    let ram : Item := ⟨2, "RAM_16_GB", "", none, none, [few, many], none⟩
    Names [cpu, ram] "CPU8" cpu ∧ Names [cpu, ram] "RAM_16_GB" ram ∧
      orderCapacity? cpu = some (.ofInt 8) ∧ orderCapacity? ram = none ∧
      IsFirst (fun p => isAdmissible p (some (.ofInt 8)) 0) ram.prices many ∧
      priceIds "CLOUD_SERVER" [cpu, ram] ["CPU8", "RAM_16_GB"] none 0 = .ok [1, 2] := by
  intro plain cpu few many ram
  have hunknown : (none <|> capacity? [cpu, ram] ["CPU8", "RAM_16_GB"]) = none := by
    decide +kernel
  have hcpu : priceId "CPU8" cpu [] none 0 = .ok 1 := rfl
  have hram : priceId "RAM_16_GB" ram [code cpu] none 0 = .ok 2 := rfl
  have hfew : isAdmissible few (some (.ofInt 8)) 0 = false := by decide +kernel
  have hmany : isAdmissible many (some (.ofInt 8)) 0 = true := by decide +kernel
  refine ⟨.inr ⟨rfl, rfl⟩, .inl rfl, by decide +kernel, by decide +kernel,
    ⟨hmany, [few], [], rfl, ?_⟩, ?_⟩
  · intro p hp
    obtain rfl := List.mem_singleton.1 hp
    exact hfew
  · -- no item has the key name `CPU8`, so that no capacity is known
    rw [priceIds, hunknown, priceIdsFrom_cons rfl hcpu, priceIdsFrom_cons rfl hram]
    rfl

end Orders

end CloudClient.Catalog.Pricing
