import CloudClient.Proofs.Admission
import CloudClient.Proofs.Text.Numeral

/-!
# Slots — what the items of a slotted category take

The items of a slotted category take the slots 0, 1, 2, … in the order in which they are
ordered, whichever of the category they are and whatever stands between them.  The two
categories count apart from each other.

* `Pricing.IsNth` counts the items of a category.
* `Pricing.exists_isNth_of_lt_count` and `Pricing.IsNth.position_inj`: every number below the
  count is that of one position.
* `Pricing.Chosen.priceIdsFrom_append`: an order goes on behind the items that are chosen.
* `Pricing.slots_in_order` has it for all orders.
-/

namespace CloudClient.Catalog.Pricing

/-! ## Names of slots -/

/-- The slotted categories, each with what the names of its slots begin with. -/
def slotted : List (String × String) := [("gpu0", "gpu"), ("pcie_slot0", "pcie_slot")]

theorem slotStem?_eq_some_iff {category stem : String} :
    slotStem? category = some stem ↔ (category, stem) ∈ slotted := by
  unfold slotStem?
  split
  · simp [slotted, eq_comm]
  · simp [slotted, eq_comm]
  · rename_i hgpu hpcie
    simp only [slotted, List.mem_cons, List.not_mem_nil, Prod.mk.injEq, reduceCtorEq, false_iff]
    rintro (⟨h, -⟩ | ⟨h, -⟩ | h)
    · exact hgpu h
    · exact hpcie h
    · exact h

/-- The name of a slot tells its category and its number. -/
theorem slot_inj {category stem category' stem' : String} {n n' : Nat}
    (h : (category, stem) ∈ slotted) (h' : (category', stem') ∈ slotted)
    (heq : stem ++ Text.ofNat n = stem' ++ Text.ofNat n') : category = category' ∧ n = n' := by
  have hlist := congrArg String.toList heq
  rw [String.toList_append, String.toList_append] at hlist
  have hdigits (hstem : stem = stem') : n = n' := by
    subst hstem
    exact Text.ofNat_inj (String.toList_injective (List.append_cancel_left hlist))
  -- names of slots of the two categories differ in their first characters
  simp only [slotted, List.mem_cons, List.not_mem_nil, or_false, Prod.mk.injEq] at h h'
  obtain ⟨rfl, rfl⟩ | ⟨rfl, rfl⟩ := h <;> obtain ⟨rfl, rfl⟩ | ⟨rfl, rfl⟩ := h'
  · exact ⟨rfl, hdigits rfl⟩
  · exact absurd (List.cons.inj hlist).1 (by decide)
  · exact absurd (List.cons.inj hlist).1 (by decide)
  · exact ⟨rfl, hdigits rfl⟩

/-! ## Counting -/

section Counting

variable {cs : List String} {category : String} {n m j : Nat}

/-- Position `j` of a list of categories is the `n`-th of a category, counted from zero. -/
def IsNth (cs : List String) (category : String) (n j : Nat) : Prop :=
  cs[j]? = some category ∧ (cs.take j).count category = n

theorem count_take_succ (cs : List String) (category : String) (j : Nat) :
    (cs.take (j + 1)).count category =
      (cs.take j).count category + if cs[j]? = some category then 1 else 0 := by
  rw [List.take_add_one, List.count_append]
  cases cs[j]? with
  | none => simp
  | some c => simp [List.count_singleton]

/-- Numbers below the count are not left out. -/
theorem exists_isNth_of_lt_count (h : m < (cs.take j).count category) :
    ∃ i < j, IsNth cs category m i := by
  induction j with
  | zero => simp at h
  | succ j ih =>
    rw [count_take_succ] at h
    by_cases hbefore : m < (cs.take j).count category
    · obtain ⟨i, hi, hnth⟩ := ih hbefore
      exact ⟨i, by omega, hnth⟩
    · -- the count reaches the number with this very position
      by_cases hhere : cs[j]? = some category
      · rw [if_pos hhere] at h
        exact ⟨j, by omega, hhere, by omega⟩
      · rw [if_neg hhere] at h
        omega

theorem count_lt_of_lt (hnth : IsNth cs category n j) {i : Nat} (hi : j < i) :
    n < (cs.take i).count category := by
  have hsucc := count_take_succ cs category j
  rw [if_pos hnth.1, hnth.2] at hsucc
  have hle : (cs.take (j + 1)).count category ≤ (cs.take i).count category :=
    (List.take_sublist_take_left hi).count_le category
  omega

/-- A number is that of one position only. -/
theorem IsNth.position_inj {i : Nat} (hj : IsNth cs category n j) (hi : IsNth cs category n i) :
    j = i := by
  by_contra hne
  obtain hlt | hlt := Nat.lt_or_gt_of_ne hne
  · have h := count_lt_of_lt hj hlt
    rw [hi.2] at h
    omega
  · have h := count_lt_of_lt hi hlt
    rw [hj.2] at h
    omega

/-- The item at a position of an order takes a slot: it is the item of its category with the
number of the slot. -/
def Takes (cs : List String) (j : Nat) (slot : String) : Prop :=
  ∃ category stem n, (category, stem) ∈ slotted ∧ IsNth cs category n j ∧
    slot = stem ++ Text.ofNat n

theorem Takes.position_inj {slot : String} {i : Nat} (hj : Takes cs j slot)
    (hi : Takes cs i slot) : j = i := by
  obtain ⟨category, stem, n, hstem, hnth, rfl⟩ := hj
  obtain ⟨category', stem', n', hstem', hnth', heq⟩ := hi
  obtain ⟨rfl, rfl⟩ := slot_inj hstem hstem' heq
  exact hnth.position_inj hnth'

end Counting

/-! ## Orders -/

section Orders

variable {package : String} {items : List Item} {capacity : Option Binary64} {term : Nat}
  {before : List String} {keyname : String} {i : Item} {p : Price}

theorem itemNamed_of_names (package : String) (h : Names items keyname i) :
    itemNamed package items keyname = .ok i := by
  rw [itemNamed, named_eq_singleton_iff.2 h]

theorem priceId_of_isFirst (keyname : String)
    (h : IsFirst (isUsable capacity term before i) i.prices p) :
    priceId keyname i before capacity term = .ok p.id := by
  obtain ⟨q, hok, hq⟩ | ⟨detail, -, hnone⟩ := priceId_spec keyname i before capacity term
  · have hsame : some p = some q :=
      (find?_eq_some_iff_isFirst.2 h).symm.trans (find?_eq_some_iff_isFirst.2 hq)
    rw [hok, Option.some.inj hsame]
  · have husable := hnone p h.mem
    rw [h.1] at husable
    cases husable

/-- An order goes on behind the items that are chosen for its first key names. -/
theorem Chosen.priceIdsFrom_append (package : String) {front : List String}
    {chosen : List (Item × Price)} (h : Chosen items capacity term before front chosen)
    (rest : List String) :
    priceIdsFrom package items capacity term before (front ++ rest) =
      (priceIdsFrom package items capacity term ((codes chosen).reverse ++ before) rest).map
        (chosen.map (fun x => x.2.id) ++ ·) := by
  induction h with
  | @nil before =>
    have hcodes : (codes []).reverse ++ before = before := rfl
    rw [List.nil_append, hcodes]
    cases priceIdsFrom package items capacity term before rest <;> rfl
  | @cons before front keyname i p chosen hname hprice hrest ih =>
    rw [List.cons_append, priceIdsFrom_cons (itemNamed_of_names package hname)
      (priceId_of_isFirst keyname hprice), ih]
    have hcodes : (codes ((i, p) :: chosen)).reverse ++ before =
        (codes chosen).reverse ++ code i :: before := by simp [codes]
    rw [hcodes]
    cases priceIdsFrom package items capacity term ((codes chosen).reverse ++ code i :: before)
      rest <;> rfl

/-- An item whose next slot has no price ends an order with its key name. -/
theorem priceIdsFrom_of_no_slot (package : String) {stem : String}
    (hname : Names items keyname i) (hstem : slotStem? (code i) = some stem)
    (hnone : ∀ p ∈ i.prices, isForSlot stem (before.count (code i)) p = false)
    (rest : List String) :
    priceIdsFrom package items capacity term before (keyname :: rest) =
      .error (.ordering operation keyname ("Item " ++ keyname ++ " has no price for slot " ++
        (stem ++ Text.ofNat (before.count (code i))))) := by
  have hfind : i.prices.find? (isForSlot stem (before.count (code i))) = none := by
    rw [List.find?_eq_none]
    intro p hp
    simp [hnone p hp]
  have hid : priceId keyname i before capacity term =
      .error (.ordering operation keyname ("Item " ++ keyname ++ " has no price for slot " ++
        (stem ++ Text.ofNat (before.count (code i))))) := by
    have hslot : slotPrice? i.prices (stem ++ Text.ofNat (before.count (code i))) = none := by
      show (i.prices.find? (isForSlot stem (before.count (code i)))).map Price.id = none
      rw [hfind]
      rfl
    simp only [code] at hstem hslot ⊢
    simp only [priceId, hstem, hslot]
  rw [priceIdsFrom, itemNamed_of_names package hname]
  show (priceId keyname i before capacity term >>= _) = _
  rw [hid]
  rfl

/-- A price for a slot is global, and its first category is the name of the slot. -/
theorem isForSlot_iff {stem : String} {n : Nat} :
    isForSlot stem n p = true ↔ p.locationGroup = none ∧
      ∃ first rest, p.categories = first :: rest ∧ first.code = stem ++ Text.ofNat n := by
  rw [isForSlot, Bool.and_eq_true, isGlobal, Option.isNone_iff_eq_none, beq_iff_eq]
  cases p.categories with
  | nil => simp
  | cons first rest => simp

end Orders

/-- How slots are taken.  If an order has price ids, then in each slotted category the `n`-th
item that is ordered is billed at a price of its own that holds everywhere and has the slot of
the number `n` as its first category.  The numbers below `n` are those of items that are ordered
earlier, and no slot is taken twice.  An order fails with the first key name whose next slot has
no such price. -/
theorem slots_in_order (package : String) (items : List Item) (keynames : List String)
    (cores : Option Binary64) (term : Nat) :
    (∀ ids, priceIds package items keynames cores term = .ok ids →
      ∃ chosen : List (Item × Price), chosen.length = keynames.length ∧
        ids = chosen.map (fun x => x.2.id) ∧
        (∀ (j : Nat) keyname, keynames[j]? = some keyname → ∃ i p, chosen[j]? = some (i, p) ∧
          Names items keyname i ∧ p ∈ i.prices) ∧
        (∀ category stem, (category, stem) ∈ slotted → ∀ n j,
          IsNth (codes chosen) category n j →
          (∀ i p, chosen[j]? = some (i, p) → p.locationGroup = none ∧
            ∃ first rest, p.categories = first :: rest ∧ first.code = stem ++ Text.ofNat n) ∧
          ∀ m < n, ∃ k < j, IsNth (codes chosen) category m k) ∧
        ∀ j k slot, Takes (codes chosen) j slot → Takes (codes chosen) k slot → j = k) ∧
    ∀ front keyname rest chosen, keynames = front ++ keyname :: rest →
      Chosen items (usedCapacity items keynames cores) term [] front chosen →
      ∀ i stem, Names items keyname i → (code i, stem) ∈ slotted →
      (∀ p ∈ i.prices, p.locationGroup = none → p.categories.head?.map Category.code ≠
        some (stem ++ Text.ofNat ((codes chosen).count (code i)))) →
      priceIds package items keynames cores term =
        .error (.ordering "get_price_id_list" keyname ("Item " ++ keyname ++
          " has no price for slot " ++ (stem ++ Text.ofNat ((codes chosen).count (code i))))) := by
  have hrun : priceIds package items keynames cores term =
      priceIdsFrom package items (usedCapacity items keynames cores) term [] keynames := rfl
  rw [hrun]
  generalize usedCapacity items keynames cores = capacity
  constructor
  · intro ids hids
    obtain ⟨chosen, hchosen, hok⟩ | ⟨front, keyname, rest, chosen, detail, -, -, -, herror⟩ :=
      priceIdsFrom_spec package items capacity term [] keynames
    · obtain rfl := Except.ok.inj (hids.symm.trans hok)
      refine ⟨chosen, hchosen.at.1, rfl, ?_, ?_, fun j k slot hj hk => hj.position_inj hk⟩
      · intro j keyname hj
        obtain ⟨i, p, hget, hname, hprice⟩ := hchosen.at_start hj
        exact ⟨i, p, hget, hname, hprice.mem⟩
      · intro category stem hstem n j hnth
        refine ⟨fun i p hget => ?_, fun m hm => ?_⟩
        · have hlt : j < keynames.length := by
            rw [← hchosen.at.1]
            exact (List.getElem?_eq_some_iff.1 hget).1
          obtain ⟨i', p', hget', -, hprice⟩ :=
            hchosen.at_start (List.getElem?_eq_getElem hlt)
          obtain ⟨rfl, rfl⟩ := Prod.mk.inj (Option.some.inj (hget.symm.trans hget'))
          obtain ⟨hcode, hcount⟩ := hnth
          have hcategory : code i = category := by
            rw [codes, List.getElem?_map, hget] at hcode
            exact Option.some.inj hcode
          subst hcategory
          have husable := hprice.1
          rw [isUsable_eq_isForSlot (slotStem?_eq_some_iff.2 hstem), codes, List.map_take]
            at husable
          rw [← hcount]
          exact isForSlot_iff.1 husable
        · rw [← hnth.2] at hm
          exact exists_isNth_of_lt_count hm
    · cases hids.symm.trans herror
  · rintro front keyname rest chosen rfl hchosen i stem hname hstem hnone
    have hcount : ((codes chosen).reverse ++ []).count (code i) =
        (codes chosen).count (code i) := by
      rw [List.append_nil, List.count_reverse]
    rw [hchosen.priceIdsFrom_append, priceIdsFrom_of_no_slot package hname
      (slotStem?_eq_some_iff.2 hstem), hcount]
    · rfl
    · intro p hp
      rw [hcount, Bool.eq_false_iff, ne_eq, isForSlot_iff]
      rintro ⟨hglobal, first, others, hcategories, hcode⟩
      apply hnone p hp hglobal
      rw [hcategories, ← hcode]
      rfl

example :
    let price (id : Int) (slot : String) : Price :=
      { Price.blank with id := id, categories := [⟨none, none, slot⟩] }
    let gpu : Item := ⟨1, "GPU", "", none, some ⟨none, none, "gpu0"⟩,
      [price 7 "gpu0", price 8 "gpu1"], none⟩
    priceIds "P" [gpu] ["GPU", "GPU"] none 0 = .ok [7, 8] ∧
      priceIds "P" [gpu] ["GPU", "GPU", "GPU"] none 0 =
        .error (.ordering "get_price_id_list" "GPU" "Item GPU has no price for slot gpu2") :=
  ⟨rfl, rfl⟩

end CloudClient.Catalog.Pricing
