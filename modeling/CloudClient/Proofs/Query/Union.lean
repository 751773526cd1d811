import CloudClient.Proofs.Query.Path

/-!
# Union — the nodes of merged filters

In a deep union the second filter wins.  What it leaves open is taken from the first filter,
and what it has is there as it is, except that two branches at one place are merged.  From
this law at every path follow the laws of the whole filter: merging twice is merging once, the
empty filter changes nothing, and filters that do not meet in a leaf can be merged in either
order.

* `FilterNode.nodeAt?_merge` and `FilterNode.labelAt?_merge` are the law.
* `Filter.Apart`: no leaf of either filter is at a place that the other has.
* `Filter.deep_union` has all of it.
-/

namespace CloudClient

namespace FilterNode

variable {path : List String} {mine theirs : FilterNode}

/-- What is at the end of a path in a deep union. -/
theorem nodeAt?_merge (h : theirs.InKeyOrder) :
    nodeAt? path (merge mine theirs) =
      if isOpen path theirs then nodeAt? path mine
      else (nodeAt? path theirs).map fun their =>
        (nodeAt? path mine).elim their fun child => merge child their := by
  induction path generalizing mine theirs with
  | nil => rfl
  | cons k path ih =>
    cases theirs with
    | leaf op options => rfl
    | branch theirs =>
      cases mine with
      | leaf op options =>
        -- the leaf is gone, and nothing was below it
        by_cases hopen : isOpen (k :: path) (.branch theirs) = true
        · rw [if_pos hopen]
          exact nodeAt?_of_isOpen hopen
        · rw [if_neg hopen]
          change nodeAt? (k :: path) (.branch theirs) =
            (nodeAt? (k :: path) (.branch theirs)).map id
          rw [Option.map_id_fun, id]
      | branch children =>
        rw [merge, nodeAt?, nodeAt?, nodeAt?, isOpen, find?_mergeChildren h.1]
        cases htheirs : Fields.find? k theirs with
        | none => rfl
        | some their =>
          cases hmine : Fields.find? k children with
          | some child => exact ih (h.2.find? htheirs)
          | none =>
            by_cases hopen : isOpen path their = true
            · simp [hopen, nodeAt?_of_isOpen hopen]
            · simp [hopen]

@[simp] theorem label_merge (mine theirs : FilterNode) :
    (merge mine theirs).label = theirs.label := by
  cases theirs with
  | leaf op options => rfl
  | branch theirs => cases mine <;> rfl

/-- A deep union has the leaves and branches of the second node, and those of the first where
the second leaves their paths open. -/
theorem labelAt?_merge (h : theirs.InKeyOrder) :
    labelAt? path (merge mine theirs) =
      if isOpen path theirs then labelAt? path mine else labelAt? path theirs := by
  rw [labelAt?, nodeAt?_merge h]
  split
  · rfl
  · rw [Option.map_map]
    apply Option.map_congr
    intro their _
    cases nodeAt? path mine with
    | none => rfl
    | some child => exact label_merge child their

end FilterNode

namespace Filter

variable {a b : Filter}

def labelAt? (f : Filter) (path : List String) :
    Option (Option (Operation × List FilterOption)) :=
  FilterNode.labelAt? path (.branch f.root)

/-- Whether a filter has nothing at the end of a path and no leaf on the way. -/
def isOpen (f : Filter) (path : List String) : Bool :=
  FilterNode.isOpen path (.branch f.root)

/-- No leaf of either filter is at a place where the other has a node. -/
def Apart (a b : Filter) : Prop :=
  ∀ path op options,
    (a.nodeAt? path = some (.leaf op options) → b.nodeAt? path = none) ∧
      (b.nodeAt? path = some (.leaf op options) → a.nodeAt? path = none)

/-- Filters without a common name at the root do not meet at all. -/
theorem apart_of_disjoint
    (h : ∀ k, Fields.find? k a.root = none ∨ Fields.find? k b.root = none) : Apart a b := by
  have hnone {f : Filter} {k : String} (hk : Fields.find? k f.root = none) (path : List String) :
      f.nodeAt? (k :: path) = none := by
    rw [nodeAt?, FilterNode.nodeAt?, hk]
    rfl
  have hleaf {f : Filter} {path : List String} {op : Operation} {options : List FilterOption}
      (hpath : f.nodeAt? path = some (.leaf op options)) :
      ∃ k rest, path = k :: rest ∧ Fields.find? k f.root ≠ none := by
    cases path with
    | nil => cases hpath
    | cons k rest =>
      refine ⟨k, rest, rfl, fun hk => ?_⟩
      rw [hnone hk] at hpath
      cases hpath
  intro path op options
  constructor
  · intro ha
    obtain ⟨k, rest, rfl, hk⟩ := hleaf ha
    exact hnone ((h k).resolve_left hk) rest
  · intro hb
    obtain ⟨k, rest, rfl, hk⟩ := hleaf hb
    exact hnone ((h k).resolve_right hk) rest

theorem Apart.symm (h : Apart a b) : Apart b a :=
  fun path op options => ⟨(h path op options).2, (h path op options).1⟩

theorem ext_labelAt? (ha : a.InKeyOrder) (hb : b.InKeyOrder)
    (h : ∀ path, a.labelAt? path = b.labelAt? path) : a = b := by
  have hroot := FilterNode.ext_labelAt? ha hb h
  obtain ⟨root⟩ := a
  exact congrArg Filter.mk (FilterNode.branch.inj hroot)

theorem nodeAt?_merge (hb : b.InKeyOrder) (path : List String) :
    (a.merge b).nodeAt? path =
      if b.isOpen path then a.nodeAt? path
      else (b.nodeAt? path).map fun their =>
        (a.nodeAt? path).elim their fun child => child.merge their :=
  @FilterNode.nodeAt?_merge path (.branch a.root) (.branch b.root) hb

/-- Where the second filter has a node, its path is not open. -/
theorem nodeAt?_merge_of_some (hb : b.InKeyOrder) {path : List String} {their : FilterNode}
    (h : b.nodeAt? path = some their) :
    (a.merge b).nodeAt? path =
      some ((a.nodeAt? path).elim their fun child => child.merge their) := by
  have hclosed : ¬ b.isOpen path = true := by
    intro hopen
    have hnone : b.nodeAt? path = none := FilterNode.nodeAt?_of_isOpen hopen
    rw [hnone] at h
    cases h
  rw [nodeAt?_merge hb, if_neg hclosed, h]
  rfl

theorem nodeAt?_merge_of_none (hb : b.InKeyOrder) {path : List String}
    (h : a.nodeAt? path = none) : (a.merge b).nodeAt? path = b.nodeAt? path := by
  cases hnode : b.nodeAt? path with
  | none =>
    rw [nodeAt?_merge hb, hnode, h]
    split <;> rfl
  | some their =>
    rw [nodeAt?_merge_of_some hb hnode, h]
    rfl

theorem labelAt?_merge (hb : b.InKeyOrder) (path : List String) :
    (a.merge b).labelAt? path = if b.isOpen path then a.labelAt? path else b.labelAt? path :=
  @FilterNode.labelAt?_merge path (.branch a.root) (.branch b.root) hb

theorem isOpen_iff {path : List String} :
    a.isOpen path = true ↔ a.nodeAt? path = none ∧ ¬ a.LeafAbove path :=
  FilterNode.isOpen_iff

theorem labelAt?_of_isOpen {path : List String} (h : a.isOpen path = true) :
    a.labelAt? path = none := by
  rw [labelAt?, FilterNode.labelAt?, FilterNode.nodeAt?_of_isOpen h]
  rfl

theorem labelAt?_eq_leaf_iff {path : List String} {op : Operation}
    {options : List FilterOption} :
    a.labelAt? path = some (some (op, options)) ↔ a.nodeAt? path = some (.leaf op options) := by
  change (a.nodeAt? path).map FilterNode.label = _ ↔ _
  constructor
  · intro h
    obtain ⟨node, hnode, hlabel⟩ := Option.map_eq_some_iff.1 h
    cases node with
    | leaf op' options' =>
      cases hlabel
      exact hnode
    | branch children => cases hlabel
  · intro h
    rw [h]
    rfl

/-- The leaves of merged filters are those of the second, and those of the first whose paths the
second leaves open. -/
theorem leaf_merge_iff (hb : b.InKeyOrder) {path : List String} {op : Operation}
    {options : List FilterOption} :
    (a.merge b).nodeAt? path = some (.leaf op options) ↔
      b.nodeAt? path = some (.leaf op options) ∨
        (a.nodeAt? path = some (.leaf op options) ∧ b.isOpen path = true) := by
  rw [← labelAt?_eq_leaf_iff, ← labelAt?_eq_leaf_iff, ← labelAt?_eq_leaf_iff, labelAt?_merge hb]
  by_cases hopen : b.isOpen path = true
  · simp [hopen, labelAt?_of_isOpen hopen]
  · simp [hopen]

theorem inKeyOrder_empty : Filter.empty.InKeyOrder := ⟨List.Pairwise.nil, trivial⟩

/-! ## Laws of the whole filter -/

theorem merge_merge_self (ha : a.InKeyOrder) (hb : b.InKeyOrder) :
    (a.merge b).merge b = a.merge b := by
  have hmerged := ha.merge hb
  apply ext_labelAt? (hmerged.merge hb) hmerged
  intro path
  rw [labelAt?_merge hb, labelAt?_merge hb]
  by_cases hopen : b.isOpen path = true
  · rw [if_pos hopen, if_pos hopen]
  · rw [if_neg hopen, if_neg hopen]

theorem empty_merge (ha : a.InKeyOrder) : Filter.empty.merge a = a := by
  apply ext_labelAt? (inKeyOrder_empty.merge ha) ha
  intro path
  rw [labelAt?_merge ha]
  by_cases hopen : a.isOpen path = true
  · rw [if_pos hopen, labelAt?_of_isOpen hopen]
    cases path with
    | nil => cases hopen
    | cons k path => rfl
  · rw [if_neg hopen]

theorem merge_empty (a : Filter) : a.merge .empty = a := rfl

/-- Below a leaf of one filter the other is open, if the two do not meet in a leaf. -/
theorem Apart.isOpen_of_leafAbove (h : Apart a b) {path : List String} (hb : b.LeafAbove path) :
    a.isOpen path = true := by
  obtain ⟨front, back, op, options, hback, rfl, hleaf⟩ := hb
  have hfront : a.nodeAt? front = none := (h front op options).2 hleaf
  apply FilterNode.isOpen_append
  apply FilterNode.isOpen_iff.2 ⟨hfront, ?_⟩
  rintro ⟨first, rest, op', options', hrest, rfl, hfirst⟩
  -- a leaf of the one above the leaf of the other would be at a branch of the other
  have hnone : b.nodeAt? first = none := (h first op' options').1 hfirst
  change FilterNode.nodeAt? (first ++ rest) _ = _ at hleaf
  change FilterNode.nodeAt? first _ = _ at hnone
  rw [FilterNode.nodeAt?_append, hnone] at hleaf
  cases hleaf

theorem merge_comm (ha : a.InKeyOrder) (hb : b.InKeyOrder) (h : Apart a b) :
    a.merge b = b.merge a := by
  apply ext_labelAt? (ha.merge hb) (hb.merge ha)
  intro path
  rw [labelAt?_merge hb, labelAt?_merge ha]
  by_cases hopenA : a.isOpen path = true
  · rw [if_pos hopenA]
    by_cases hopenB : b.isOpen path = true
    · rw [if_pos hopenB, labelAt?_of_isOpen hopenA, labelAt?_of_isOpen hopenB]
    · rw [if_neg hopenB]
  · rw [if_neg hopenA]
    by_cases hopenB : b.isOpen path = true
    · rw [if_pos hopenB]
    · -- both have a node at the end, and neither is a leaf
      rw [if_neg hopenB]
      have hsomeA : a.nodeAt? path ≠ none := fun hnone =>
        hopenA (isOpen_iff.2 ⟨hnone, fun habove => hopenB (h.symm.isOpen_of_leafAbove habove)⟩)
      have hsomeB : b.nodeAt? path ≠ none := fun hnone =>
        hopenB (isOpen_iff.2 ⟨hnone, fun habove => hopenA (h.isOpen_of_leafAbove habove)⟩)
      change (b.nodeAt? path).map _ = (a.nodeAt? path).map _
      cases hnodeA : a.nodeAt? path with
      | none => exact absurd hnodeA hsomeA
      | some nodeA =>
        cases hnodeB : b.nodeAt? path with
        | none => exact absurd hnodeB hsomeB
        | some nodeB =>
          cases nodeA with
          | leaf op options => exact absurd ((h path op options).1 hnodeA) hsomeB
          | branch mine =>
            cases nodeB with
            | leaf op options => exact absurd ((h path op options).2 hnodeB) hsomeA
            | branch theirs => rfl

/-- What a deep union of filters in key order is.  At every path it has the leaf of the second
filter, if that has one, and nothing below such a leaf; the node of the first, if the second
says nothing; and, where the second has a branch, this branch, merged into that of the first if
there is one.  So a second merge changes nothing, the empty filter is neutral, nothing of the
first filter is lost but below leaves of the second, and the order does not matter for filters
that do not meet in a leaf. -/
theorem deep_union (ha : a.InKeyOrder) (hb : b.InKeyOrder) :
    (∀ path op options, b.nodeAt? path = some (.leaf op options) →
      (a.merge b).nodeAt? path = some (.leaf op options)) ∧
    (∀ path, b.LeafAbove path → (a.merge b).nodeAt? path = none) ∧
    (∀ path, b.nodeAt? path = none → ¬ b.LeafAbove path →
      (a.merge b).nodeAt? path = a.nodeAt? path) ∧
    (∀ path theirs, b.nodeAt? path = some (.branch theirs) →
      (∀ mine, a.nodeAt? path = some (.branch mine) →
        (a.merge b).nodeAt? path = some (.branch (FilterNode.mergeChildren mine theirs))) ∧
      ((∀ mine, a.nodeAt? path ≠ some (.branch mine)) →
        (a.merge b).nodeAt? path = some (.branch theirs))) ∧
    (a.merge b).merge b = a.merge b ∧
    Filter.empty.merge a = a ∧ a.merge .empty = a ∧
    (∀ path, a.nodeAt? path ≠ none → ¬ b.LeafAbove path → (a.merge b).nodeAt? path ≠ none) ∧
    (Apart a b → a.merge b = b.merge a) := by
  refine ⟨fun path op options hleaf => ?_, fun path habove => ?_, fun path hnone habove => ?_,
    fun path theirs hbranch => ⟨fun mine hmine => ?_, fun hmine => ?_⟩, merge_merge_self ha hb,
    empty_merge ha, merge_empty a, fun path hsome habove => ?_, merge_comm ha hb⟩
  · exact (leaf_merge_iff hb).2 (.inl hleaf)
  · have hclosed : ¬ b.isOpen path = true := fun hopen => (isOpen_iff.1 hopen).2 habove
    have hnone : b.nodeAt? path = none := FilterNode.nodeAt?_of_leafAbove habove
    rw [nodeAt?_merge hb, if_neg hclosed, hnone]
    rfl
  · rw [nodeAt?_merge hb, if_pos (isOpen_iff.2 ⟨hnone, habove⟩)]
  · rw [nodeAt?_merge_of_some hb hbranch, hmine]
    rfl
  · rw [nodeAt?_merge_of_some hb hbranch]
    cases hnodeA : a.nodeAt? path with
    | none => rfl
    | some child =>
      cases child with
      | leaf op options => rfl
      | branch mine => exact absurd hnodeA (hmine mine)
  · cases htheir : b.nodeAt? path with
    | none => rwa [nodeAt?_merge hb, if_pos (isOpen_iff.2 ⟨htheir, habove⟩)]
    | some their =>
      rw [nodeAt?_merge_of_some hb htheir]
      exact Option.some_ne_none _

/-- Of two filters on host names the second counts, and what only the first has stays; filters
on different properties can be merged in either order. -/
theorem deep_union_hostname :
    let web : Filter := ⟨[("virtualGuests", .branch [("hostname", .leaf (.text "^= web") []),
      ("maxCpu", .leaf (.integer 2) [])])]⟩
    let db : Filter := ⟨[("virtualGuests", .branch [("hostname", .leaf (.text "^= db") [])])]⟩
    let five : Filter := ⟨[("id", .leaf (.integer 5) [])]⟩
    web.InKeyOrder ∧ db.InKeyOrder ∧ five.InKeyOrder ∧
      (web.merge db).nodeAt? ["virtualGuests", "hostname"] = some (.leaf (.text "^= db") []) ∧
      (web.merge db).nodeAt? ["virtualGuests", "maxCpu"] = some (.leaf (.integer 2) []) ∧
      web.merge five = five.merge web := by
  intro web db five
  have hweb : web.InKeyOrder := by
    refine ⟨List.pairwise_singleton _ _, ⟨?_, trivial, trivial, trivial⟩, trivial⟩
    exact List.pairwise_pair.2 (by decide +kernel)
  have hdb : db.InKeyOrder :=
    ⟨List.pairwise_singleton _ _, ⟨List.pairwise_singleton _ _, trivial, trivial⟩, trivial⟩
  have hfive : five.InKeyOrder := ⟨List.pairwise_singleton _ _, trivial, trivial⟩
  obtain ⟨hleaf, -, hkept, -⟩ := deep_union hweb hdb
  obtain ⟨-, -, -, -, -, -, -, -, hswap⟩ := deep_union hweb hfive
  have hopen : db.isOpen ["virtualGuests", "maxCpu"] = true := by decide +kernel
  obtain ⟨hnone, habove⟩ := isOpen_iff.1 hopen
  refine ⟨hweb, hdb, hfive, hleaf _ _ _ rfl, (hkept _ hnone habove).trans rfl, ?_⟩
  apply hswap
  apply apart_of_disjoint
  intro k
  by_cases hk : "id" = k
  · exact .inl (by rw [← hk]; rfl)
  · exact .inr (if_neg hk)

end Filter

end CloudClient
