import CloudClient.Proofs.Prices

/-!
# Admission — which ordered prices are admissible

What is not in a slotted category is ordered at an admissible price.  A slot is ordered at
the first global price of its name, and neither the term nor the capacity is looked at: such
a price is admissible only if it allows both by itself.

* `Pricing.isAdmissible_iff_of_isUsable` is the condition on one price.
* `Pricing.admissible_of_slots` has it for all positions of an order.
* `Pricing.slots_ignore_restrictions`: slots that are ordered at prices that are not
  admissible, beside ones that are.
-/

namespace CloudClient.Catalog.Pricing

/-- The capacity that the restricted prices of an order are judged by. -/
def usedCapacity (items : List Item) (keynames : List String) (cores : Option Binary64) :
    Option Binary64 :=
  cores <|> capacity? items keynames

def allows (p : Price) (capacity : Option Binary64) (term : Nat) : Bool :=
  allowsTerm p term && allowsCapacity p capacity

section Admission

variable {capacity : Option Binary64} {term : Nat}

theorem isAdmissible_of_isGlobal {p : Price} (h : p.locationGroup = none) :
    isAdmissible p capacity term = allows p capacity term := by
  rw [isAdmissible, allows, isGlobal, h, Option.isNone_none, Bool.true_and]

/-- A price that may be used is admissible, unless it is that of a slot and does not allow
the term or the capacity. -/
theorem isAdmissible_iff_of_isUsable {earlier : List String} {i : Item} {p : Price}
    (h : isUsable capacity term earlier i p = true) :
    isAdmissible p capacity term = true ↔
      ∀ stem, slotStem? (code i) = some stem → allows p capacity term = true := by
  rw [isAdmissible_of_isGlobal (isGlobal_of_isUsable h)]
  constructor
  · exact fun hallows _ _ => hallows
  · intro hslot
    cases hstem : slotStem? (code i) with
    | some stem => exact hslot stem hstem
    | none =>
      have hadmissible : isAdmissible p capacity term = true := by
        rwa [isUsable_of_not_slotted hstem] at h
      rwa [isAdmissible_of_isGlobal (isGlobal_of_isUsable h)] at hadmissible

/-- Whether a price is a global one for slot `n` of a kind. -/
def isForSlot (stem : String) (n : Nat) (p : Price) : Bool :=
  isGlobal p && (p.categories.head?.map Category.code) == some (stem ++ Text.ofNat n)

/-- The global prices for slots in a catalog all allow a term and a capacity. -/
def SlotsAllow (items : List Item) (capacity : Option Binary64) (term : Nat) : Prop :=
  ∀ i ∈ items, ∀ stem, slotStem? (code i) = some stem → ∀ p ∈ i.prices, ∀ n,
    isForSlot stem n p = true → allows p capacity term = true

theorem isUsable_eq_isForSlot {earlier : List String} {i : Item} {stem : String}
    (h : slotStem? (code i) = some stem) :
    isUsable capacity term earlier i = isForSlot stem (earlier.count (code i)) :=
  isUsable_of_slotted h

theorem mem_of_names {items : List Item} {keyname : String} {i : Item}
    (h : Names items keyname i) : i ∈ items := by
  obtain hkey | ⟨-, hcode⟩ := h
  · exact (List.mem_filter.1 (hkey ▸ List.mem_singleton_self i)).1
  · exact (List.mem_filter.1 (hcode ▸ List.mem_singleton_self i)).1

/-- What is chosen at a position of an order, told by the categories before it. -/
theorem Chosen.at_start {items : List Item} {keynames : List String}
    {chosen : List (Item × Price)} (h : Chosen items capacity term [] keynames chosen) {j : Nat}
    {keyname : String} (hj : keynames[j]? = some keyname) :
    ∃ i p, chosen[j]? = some (i, p) ∧ Names items keyname i ∧
      IsFirst (isUsable capacity term (codes (chosen.take j)) i) i.prices p := by
  obtain ⟨i, p, hget, hname, hprice⟩ := h.at.2 j keyname hj
  have hperm : ((codes (chosen.take j)).reverse ++ []).Perm (codes (chosen.take j)) := by
    simp [List.reverse_perm]
  exact ⟨i, p, hget, hname, isUsable_of_perm hperm ▸ hprice⟩

end Admission

/-- The prices of an order that are admissible.  Every one is a price of the item that its
key name stands for and has no location group.  It is admissible for the term and the
capacity of the order if the item is not in a slotted category, and otherwise exactly if the
first global price of the item for the slot allows both.  So all are admissible where the
prices of slotted items allow the term and the capacity. -/
theorem admissible_of_slots (package : String) (items : List Item) (keynames : List String)
    (cores : Option Binary64) (term : Nat) (ids : List Int)
    (h : priceIds package items keynames cores term = .ok ids) :
    (∃ chosen : List (Item × Price), chosen.length = keynames.length ∧
      ids = chosen.map (fun x => x.2.id) ∧
      ∀ (j : Nat) keyname, keynames[j]? = some keyname → ∃ i p, chosen[j]? = some (i, p) ∧
        Names items keyname i ∧ p ∈ i.prices ∧ p.locationGroup = none ∧
        (slotStem? (code i) = none →
          isAdmissible p (usedCapacity items keynames cores) term = true) ∧
        ∀ stem, slotStem? (code i) = some stem →
          IsFirst (isForSlot stem ((codes (chosen.take j)).count (code i))) i.prices p ∧
          (isAdmissible p (usedCapacity items keynames cores) term = true ↔
            allows p (usedCapacity items keynames cores) term = true)) ∧
    (SlotsAllow items (usedCapacity items keynames cores) term →
      ids.length = keynames.length ∧
      ∀ (j : Nat) keyname, keynames[j]? = some keyname → ∃ i p, Names items keyname i ∧
        p ∈ i.prices ∧ ids[j]? = some p.id ∧
        isAdmissible p (usedCapacity items keynames cores) term = true) := by
  change priceIdsFrom package items (usedCapacity items keynames cores) term [] keynames = _ at h
  generalize usedCapacity items keynames cores = capacity at h ⊢
  obtain ⟨chosen, hchosen, hok⟩ | ⟨front, keyname, rest, chosen, detail, -, -, -, herror⟩ :=
    priceIdsFrom_spec package items capacity term [] keynames
  · obtain rfl := Except.ok.inj (h.symm.trans hok)
    refine ⟨⟨chosen, hchosen.at.1, rfl, fun j keyname hj => ?_⟩, fun hslots => ⟨?_, ?_⟩⟩
    · obtain ⟨i, p, hget, hname, hprice⟩ := hchosen.at_start hj
      have hglobal := isGlobal_of_isUsable hprice.1
      refine ⟨i, p, hget, hname, hprice.mem, hglobal, fun hstem => ?_, fun stem hstem => ⟨?_, ?_⟩⟩
      · refine (isAdmissible_iff_of_isUsable hprice.1).2 fun stem hsome => ?_
        cases hstem.symm.trans hsome
      · exact isUsable_eq_isForSlot hstem ▸ hprice
      · rw [isAdmissible_of_isGlobal hglobal]
    · rw [List.length_map, hchosen.at.1]
    · intro j keyname hj
      obtain ⟨i, p, hget, hname, hprice⟩ := hchosen.at_start hj
      refine ⟨i, p, hname, hprice.mem, ?_, ?_⟩
      · rw [List.getElem?_map, hget, Option.map_some]
      · refine (isAdmissible_iff_of_isUsable hprice.1).2 fun stem hstem => ?_
        have hslot := isUsable_eq_isForSlot hstem ▸ hprice.1
        exact hslots i (mem_of_names hname) stem hstem p hprice.mem _ hslot
  · cases h.symm.trans herror

/-- Two processors for graphics with twelve months of commitment, in slots with prices for
just this term and for any, and memory for eight cores. -/
theorem admissible_of_slots_two :
    let first : Price := { Price.blank with
      id := 1, term := some (.ofInt 12), categories := [⟨none, none, "gpu0"⟩] }
    let second : Price := { Price.blank with id := 2, categories := [⟨none, none, "gpu1"⟩] }
    let gpu : Item := ⟨1, "GPU", "", none, some ⟨none, none, "gpu0"⟩, [first, second], none⟩
    let few : Price := { Price.blank with
      id := 3, restriction := some "CORE", maximum := some (.ofInt 2) }
    let many : Price := { Price.blank with
      id := 4, restriction := some "CORE", minimum := some (.ofInt 4) }
    let ram : Item := ⟨2, "RAM", "", none, none, [few, many], none⟩
    priceIds "BARE_METAL" [gpu, ram] ["GPU", "GPU", "RAM"] (some (.ofInt 8)) 12 =
        .ok [1, 2, 4] ∧
      SlotsAllow [gpu, ram] (some (.ofInt 8)) 12 ∧
      ∃ i p, Names [gpu, ram] "RAM" i ∧ p ∈ i.prices ∧ some 4 = some p.id ∧
        isAdmissible p (some (.ofInt 8)) 12 = true := by
  intro first second gpu few many ram
  have hids : priceIds "BARE_METAL" [gpu, ram] ["GPU", "GPU", "RAM"] (some (.ofInt 8)) 12 =
      .ok [1, 2, 4] := by decide +kernel
  have hslots : SlotsAllow [gpu, ram] (some (.ofInt 8)) 12 := by
    intro i hi stem hstem p hp n _
    obtain rfl | rfl := List.mem_pair.1 hi
    · obtain rfl | rfl := List.mem_pair.1 hp
      · decide +kernel
      · decide +kernel
    · cases hstem
  obtain ⟨-, hall⟩ := admissible_of_slots "BARE_METAL" [gpu, ram] ["GPU", "GPU", "RAM"]
    (some (.ofInt 8)) 12 [1, 2, 4] hids
  exact ⟨hids, hslots, (hall hslots).2 2 "RAM" rfl⟩

/-- A slot is ordered without commitment at a price for twelve months, and for eight cores
at a price for one or two, although another price of the slot is admissible. -/
theorem slots_ignore_restrictions :
    let slot : Category := ⟨none, none, "gpu0"⟩
    let yearly : Price := { Price.blank with
      id := 1, term := some (.ofInt 12), categories := [slot] }
    let small : Price := { Price.blank with
      id := 2, restriction := some "CORE", maximum := some (.ofInt 2), categories := [slot] }
    let plain : Price := { Price.blank with id := 3, categories := [slot] }
    let gpu (prices : List Price) : Item := ⟨1, "GPU", "", none, some slot, prices, none⟩
    (Names [gpu [yearly, plain]] "GPU" (gpu [yearly, plain]) ∧
      priceIds "BARE_METAL" [gpu [yearly, plain]] ["GPU"] none 0 = .ok [1] ∧
      (∀ p ∈ [yearly, plain], p.id = 1 → isAdmissible p none 0 = false) ∧
      isAdmissible plain none 0 = true) ∧
    (Names [gpu [small, plain]] "GPU" (gpu [small, plain]) ∧
      priceIds "BARE_METAL" [gpu [small, plain]] ["GPU"] (some (.ofInt 8)) 0 = .ok [2] ∧
      (∀ p ∈ [small, plain], p.id = 2 → isAdmissible p (some (.ofInt 8)) 0 = false) ∧
      isAdmissible plain (some (.ofInt 8)) 0 = true) := by
  intro slot yearly small plain gpu
  refine ⟨⟨.inl rfl, by decide +kernel, ?_, by decide +kernel⟩,
    ⟨.inl rfl, by decide +kernel, ?_, by decide +kernel⟩⟩
  · decide +kernel
  · decide +kernel

end CloudClient.Catalog.Pricing
