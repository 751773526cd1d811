import CloudClient.Query.Filter

/-!
# Merge — the leaves of a deep union

A filter is what its leaves are: the operations at the ends of its paths.  In a deep union
a leaf of the first filter is kept where the second leaves its path open, that is, has no
leaf on the way and nothing at the end.  Elsewhere the leaves are those of the second.

* `FilterNode.operationAt?_merge` is this law.
* `FilterNode.hasOperation_iff`: an operation is somewhere in a filter if a path leads to it.
* `Filter.InKeyOrder`: names are in order, as they stay when filters are read, set and merged.
-/

namespace CloudClient

namespace Fields

variable {α : Type}

theorem mem_of_find? {k : String} {v : α} {fs : Fields α} (h : find? k fs = some v) :
    (k, v) ∈ fs := by
  induction fs with
  | nil => cases h
  | cons e r ih =>
    obtain ⟨j, w⟩ := e
    rw [find?] at h
    split at h
    · rename_i hjk
      obtain rfl := Option.some.inj h
      exact hjk ▸ List.mem_cons_self
    · exact List.mem_cons_of_mem _ (ih h)

/-- No later field has the name of the first. -/
theorem find?_of_sorted_cons {k : String} {v : α} {r : Fields α} (h : Sorted ((k, v) :: r)) :
    find? k r = none := by
  cases hfind : find? k r with
  | none => rfl
  | some w =>
    have hlt : k < k := (List.pairwise_cons.1 h).1 (k, w) (mem_of_find? hfind)
    exact absurd hlt (String.lt_irrefl k)

end Fields

namespace FilterNode

/-! ## Key order -/

mutual

/-- The names in the node are in order and differ, on every level. -/
def InKeyOrder : FilterNode → Prop
  | .leaf _ _ => True
  | .branch children => Fields.Sorted children ∧ AllInKeyOrder children

def AllInKeyOrder : List (String × FilterNode) → Prop
  | [] => True
  | (_, node) :: r => node.InKeyOrder ∧ AllInKeyOrder r

end

theorem allInKeyOrder_iff (fs : List (String × FilterNode)) :
    AllInKeyOrder fs ↔ ∀ e ∈ fs, e.2.InKeyOrder := by
  induction fs with
  | nil => simp [AllInKeyOrder]
  | cons e r ih => simp [AllInKeyOrder, ih]

theorem AllInKeyOrder.find? {k : String} {node : FilterNode} {fs : Fields FilterNode}
    (h : AllInKeyOrder fs) (hfind : Fields.find? k fs = some node) : node.InKeyOrder :=
  (allInKeyOrder_iff fs).1 h _ (Fields.mem_of_find? hfind)

theorem AllInKeyOrder.insert {k : String} {node : FilterNode} {fs : Fields FilterNode}
    (h : AllInKeyOrder fs) (hnode : node.InKeyOrder) : AllInKeyOrder (Fields.insert k node fs) := by
  rw [allInKeyOrder_iff] at h ⊢
  intro e he
  rcases Fields.mem_insert he with rfl | he
  · exact hnode
  · exact h e he

mutual

/-- Merging keeps names in order. -/
theorem inKeyOrder_merge {mine : FilterNode} :
    ∀ theirs : FilterNode, mine.InKeyOrder → theirs.InKeyOrder → (merge mine theirs).InKeyOrder
  | .leaf _ _, _, _ => trivial
  | .branch theirs, hmine, htheirs => by
    cases mine with
    | leaf op options => exact htheirs
    | branch children => exact inKeyOrder_mergeChildren theirs hmine htheirs.2

theorem inKeyOrder_mergeChildren {mine : Fields FilterNode} :
    ∀ theirs : List (String × FilterNode), Fields.Sorted mine ∧ AllInKeyOrder mine →
      AllInKeyOrder theirs →
      Fields.Sorted (mergeChildren mine theirs) ∧ AllInKeyOrder (mergeChildren mine theirs)
  | [], hmine, _ => hmine
  | (k, their) :: r, hmine, htheirs => by
    refine inKeyOrder_mergeChildren r ⟨Fields.sorted_insert hmine.1, hmine.2.insert ?_⟩ htheirs.2
    cases hfind : Fields.find? k mine with
    | none => exact htheirs.1
    | some child => exact inKeyOrder_merge their (hmine.2.find? hfind) htheirs.1

end

/-- Putting a node at the end of a path keeps names in order. -/
theorem inKeyOrder_setAt? {node : FilterNode} (hnode : node.InKeyOrder) {path : List String}
    {children result : Fields FilterNode} (h : (branch children).InKeyOrder)
    (hset : setAt? node path children = some result) : (branch result).InKeyOrder := by
  induction path generalizing children result with
  | nil =>
    obtain rfl := Option.some.inj hset
    exact h
  | cons k path ih =>
    have hinsert {child : FilterNode} (hchild : child.InKeyOrder) :
        (branch (Fields.insert k child children)).InKeyOrder :=
      ⟨Fields.sorted_insert h.1, h.2.insert hchild⟩
    cases path with
    | nil =>
      obtain rfl := Option.some.inj hset
      exact hinsert hnode
    | cons j path =>
      rw [setAt?] at hset
      · split at hset
        · cases hset
        · rename_i below hfind
          obtain ⟨placed, hplaced, rfl⟩ := Option.map_eq_some_iff.1 hset
          exact hinsert (ih (h.2.find? hfind) hplaced)
        · obtain ⟨placed, hplaced, rfl⟩ := Option.map_eq_some_iff.1 hset
          exact hinsert (ih ⟨List.Pairwise.nil, trivial⟩ hplaced)
      · exact List.cons_ne_nil j path

theorem inKeyOrder_leafOfJson {path : String} {operation : Json} {options : Option Json}
    {node : FilterNode} (h : leafOfJson path operation options = .ok node) : node.InKeyOrder := by
  unfold leafOfJson at h
  split at h
  · cases h
  · split at h
    · cases h
    · cases h
      trivial

mutual

/-- Reading keeps names in order. -/
theorem inKeyOrder_ofJson : ∀ (v : Json) {path : String} {node : FilterNode}, v.Ordered →
    ofJson path v = .ok node → node.InKeyOrder
  | .obj members, path, node, hv, h => by
    rw [ofJson] at h
    split at h
    · exact inKeyOrder_leafOfJson h
    · split at h
      · cases h
      · rename_i children hchildren
        cases h
        obtain ⟨hnames, hkeys⟩ := allInKeyOrder_childrenOfJson members hv.2 hchildren
        refine ⟨?_, hkeys⟩
        have hsorted := List.pairwise_map.2 hv.1
        rw [← hnames] at hsorted
        exact List.pairwise_map.1 hsorted

theorem allInKeyOrder_childrenOfJson : ∀ (members : List (String × Json)) {path : String}
    {children : List (String × FilterNode)}, Json.OrderedMembers members →
    childrenOfJson path members = .ok children →
    children.map Prod.fst = members.map Prod.fst ∧ AllInKeyOrder children
  | [], _, _, _, h => by
    cases h
    exact ⟨rfl, trivial⟩
  | (k, v) :: r, path, children, hv, h => by
    rw [childrenOfJson] at h
    split at h
    · cases h
    · rename_i node hnode
      split at h
      · cases h
      · rename_i rest hrest
        cases h
        obtain ⟨hnames, hkeys⟩ := allInKeyOrder_childrenOfJson r hv.2 hrest
        exact ⟨congrArg (k :: ·) hnames, inKeyOrder_ofJson v hv.1 hnode, hkeys⟩

end

end FilterNode

namespace Filter

def InKeyOrder (f : Filter) : Prop := (FilterNode.branch f.root).InKeyOrder

theorem InKeyOrder.set {f g : Filter} (hf : f.InKeyOrder) {path : String} {node : FilterNode}
    (hnode : node.InKeyOrder) (h : f.set path node = .ok g) : g.InKeyOrder := by
  unfold Filter.set at h
  split at h
  · cases h
  · split at h
    · cases h
    · rename_i root hset
      cases h
      exact FilterNode.inKeyOrder_setAt? hnode hf hset

theorem InKeyOrder.merge {f upper : Filter} (hf : f.InKeyOrder) (hupper : upper.InKeyOrder) :
    (f.merge upper).InKeyOrder :=
  FilterNode.inKeyOrder_merge _ hf hupper

/-- A filter that is read has its names in order if the value has. -/
theorem inKeyOrder_ofJson {v : Json} {f : Filter} (hv : v.Ordered) (h : ofJson v = .ok f) :
    f.InKeyOrder := by
  unfold ofJson at h
  split at h
  · cases h
  · rename_i root hroot
    cases h
    exact FilterNode.inKeyOrder_ofJson v hv hroot
  · cases h

end Filter

namespace FilterNode

/-! ## Leaves at the ends of paths -/

/-- The operation of the leaf at the end of a path below a node. -/
def operationAt? : List String → FilterNode → Option Operation
  | [], .leaf op _ => some op
  | k :: path, .branch children => (Fields.find? k children).bind (operationAt? path)
  | _, _ => none

/-- Whether a path below a node meets no leaf on its way and nothing at its end. -/
def isOpen : List String → FilterNode → Bool
  | k :: path, .branch children =>
    match Fields.find? k children with
    | some node => isOpen path node
    | none => true
  | _, _ => false

theorem operationAt?_of_isOpen {path : List String} {node : FilterNode}
    (h : isOpen path node = true) : operationAt? path node = none := by
  induction path generalizing node with
  | nil => cases h
  | cons k path ih =>
    cases node with
    | leaf op options => cases h
    | branch children =>
      rw [isOpen] at h
      rw [operationAt?]
      cases hfind : Fields.find? k children with
      | none => rfl
      | some node =>
        rw [hfind] at h
        exact ih h

/-- What a deep union has under a name. -/
theorem find?_mergeChildren {k : String} {mine theirs : Fields FilterNode}
    (h : Fields.Sorted theirs) :
    Fields.find? k (mergeChildren mine theirs) =
      match Fields.find? k theirs with
      | none => Fields.find? k mine
      | some their => some ((Fields.find? k mine).elim their fun child => merge child their) := by
  induction theirs generalizing mine with
  | nil => rfl
  | cons e r ih =>
    obtain ⟨j, their⟩ := e
    -- no later name is that of the first, so what is merged under it first stays
    rw [mergeChildren, ih (List.pairwise_cons.1 h).2, Fields.find?_insert]
    by_cases hjk : j = k
    · subst hjk
      simp only [Fields.find?_of_sorted_cons h, Fields.find?, if_true]
      cases Fields.find? j mine <;> rfl
    · simp [Fields.find?, hjk]

/-- In a deep union a path ends at the leaf of the first node if the second leaves it
open, and at that of the second otherwise. -/
theorem operationAt?_merge {path : List String} {mine theirs : FilterNode}
    (h : theirs.InKeyOrder) :
    operationAt? path (merge mine theirs) =
      if isOpen path theirs then operationAt? path mine else operationAt? path theirs := by
  induction path generalizing mine theirs with
  | nil => cases theirs <;> cases mine <;> rfl
  | cons k path ih =>
    cases theirs with
    | leaf op options => rfl
    | branch theirs =>
      cases mine with
      | leaf op options =>
        -- the leaf is gone, and an open path ends nowhere
        cases hopen : isOpen (k :: path) (.branch theirs) with
        | true => exact operationAt?_of_isOpen hopen
        | false => rfl
      | branch children =>
        rw [merge, operationAt?, operationAt?, operationAt?, isOpen, find?_mergeChildren h.1]
        cases htheirs : Fields.find? k theirs with
        | none => rfl
        | some their =>
          cases hmine : Fields.find? k children with
          | some child => exact ih (h.2.find? htheirs)
          | none =>
            cases hopen : isOpen path their with
            | true => simp [hopen, operationAt?_of_isOpen hopen]
            | false => simp [hopen]

/-- A path that the first node of a deep union leaves open is open if the second does. -/
theorem isOpen_merge {path : List String} {mine theirs : FilterNode} (h : theirs.InKeyOrder)
    (hmine : isOpen path mine = true) : isOpen path (merge mine theirs) = isOpen path theirs := by
  induction path generalizing mine theirs with
  | nil => cases hmine
  | cons k path ih =>
    cases mine with
    | leaf op options => cases hmine
    | branch children =>
      cases theirs with
      | leaf op options => rfl
      | branch theirs =>
        rw [isOpen] at hmine
        rw [merge, isOpen, isOpen, find?_mergeChildren h.1]
        cases htheirs : Fields.find? k theirs with
        | none => exact hmine
        | some their =>
          cases hfind : Fields.find? k children with
          | none => rfl
          | some child =>
            rw [hfind] at hmine
            exact ih (h.2.find? htheirs) hmine

/-! ## Operations somewhere in a filter -/

variable {op : String}

theorem anyHasOperation_iff (fs : List (String × FilterNode)) :
    anyHasOperation op fs = true ↔ ∃ e ∈ fs, e.2.hasOperation op = true := by
  induction fs with
  | nil => simp [anyHasOperation]
  | cons e r ih => simp [anyHasOperation, ih]

theorem hasOperation_of_operationAt? {path : List String} {node : FilterNode}
    (h : operationAt? path node = some (.text op)) : node.hasOperation op = true := by
  induction path generalizing node with
  | nil =>
    cases node with
    | leaf operation options => exact decide_eq_true (Option.some.inj h)
    | branch children => cases h
  | cons k path ih =>
    cases node with
    | leaf operation options => cases h
    | branch children =>
      obtain ⟨child, hfind, hchild⟩ := Option.bind_eq_some_iff.1 h
      exact (anyHasOperation_iff children).2 ⟨_, Fields.mem_of_find? hfind, ih hchild⟩

mutual

theorem exists_operationAt? : ∀ node : FilterNode, node.InKeyOrder →
    node.hasOperation op = true → ∃ path, operationAt? path node = some (.text op)
  | .leaf _ _, _, h => ⟨[], congrArg some (of_decide_eq_true h)⟩
  | .branch children, hkeys, h => by
    obtain ⟨k, node, path, hfind, hpath⟩ := exists_operationAt?_child children hkeys.1 hkeys.2 h
    exact ⟨k :: path, Option.bind_eq_some_iff.2 ⟨node, hfind, hpath⟩⟩

theorem exists_operationAt?_child : ∀ children : List (String × FilterNode),
    Fields.Sorted children → AllInKeyOrder children → anyHasOperation op children = true →
    ∃ k node path, Fields.find? k children = some node ∧
      operationAt? path node = some (.text op)
  | (k, node) :: r, hsorted, hkeys, h => by
    rcases Bool.or_eq_true_iff.1 h with hnode | hrest
    · obtain ⟨path, hpath⟩ := exists_operationAt? node hkeys.1 hnode
      exact ⟨k, node, path, if_pos rfl, hpath⟩
    · obtain ⟨j, child, path, hfind, hpath⟩ :=
        exists_operationAt?_child r (List.pairwise_cons.1 hsorted).2 hkeys.2 hrest
      have hne : k ≠ j := by
        rintro rfl
        rw [Fields.find?_of_sorted_cons hsorted] at hfind
        cases hfind
      exact ⟨j, child, path, (if_neg hne).trans hfind, hpath⟩

end

/-- An operation is somewhere in a node if, and only if, a path leads to it. -/
theorem hasOperation_iff {node : FilterNode} (h : node.InKeyOrder) :
    node.hasOperation op = true ↔ ∃ path, operationAt? path node = some (.text op) :=
  ⟨exists_operationAt? node h, fun ⟨_, hpath⟩ => hasOperation_of_operationAt? hpath⟩

/-- A deep union has an operation if the second node has it, or the first has it where the
second leaves its path open. -/
theorem hasOperation_merge (op : String) {mine theirs : FilterNode} (hmine : mine.InKeyOrder)
    (htheirs : theirs.InKeyOrder) :
    (merge mine theirs).hasOperation op = true ↔ theirs.hasOperation op = true ∨
      ∃ path, operationAt? path mine = some (.text op) ∧ isOpen path theirs = true := by
  rw [hasOperation_iff (inKeyOrder_merge theirs hmine htheirs), hasOperation_iff htheirs]
  simp only [operationAt?_merge htheirs]
  constructor
  · rintro ⟨path, hpath⟩
    cases hopen : isOpen path theirs with
    | true => exact .inr ⟨path, by simpa [hopen] using hpath, hopen⟩
    | false => exact .inl ⟨path, by simpa [hopen] using hpath⟩
  · rintro (⟨path, hpath⟩ | ⟨path, hpath, hopen⟩)
    · cases hopen : isOpen path theirs with
      | true =>
        rw [operationAt?_of_isOpen hopen] at hpath
        cases hpath
      | false => exact ⟨path, by simpa [hopen] using hpath⟩
    · exact ⟨path, by simpa [hopen] using hpath⟩

theorem hasOperation_merge_of_none {mine theirs : FilterNode} (hmine : mine.InKeyOrder)
    (htheirs : theirs.InKeyOrder) (hnone : mine.hasOperation op = false) :
    (merge mine theirs).hasOperation op = theirs.hasOperation op := by
  rw [Bool.eq_iff_iff, hasOperation_merge op hmine htheirs]
  refine or_iff_left ?_
  rintro ⟨path, hpath, -⟩
  rw [hasOperation_of_operationAt? hpath] at hnone
  cases hnone

/-! ## A leaf by itself -/

theorem operationAt?_under {path p : List String} {operation : Operation}
    {options : List FilterOption} :
    operationAt? p (under (.leaf operation options) path) =
      if p = path then some operation else none := by
  induction path generalizing p with
  | nil => cases p <;> rfl
  | cons k path ih =>
    cases p with
    | nil => rfl
    | cons j p =>
      rw [under, operationAt?, Fields.find?]
      by_cases hjk : k = j
      · subst hjk
        simp [ih]
      · simp [hjk, Ne.symm hjk]

theorem inKeyOrder_under {node : FilterNode} (h : node.InKeyOrder) (path : List String) :
    (under node path).InKeyOrder := by
  induction path with
  | nil => exact h
  | cons k path ih => exact ⟨List.pairwise_singleton _ _, ih, trivial⟩

/-- Where a name is not in use, a node is put below it with the branches on the way. -/
theorem setAt?_of_find?_eq_none {node : FilterNode} {k : String} {path : List String}
    {children : Fields FilterNode} (h : Fields.find? k children = none) :
    setAt? node (k :: path) children = some (Fields.insert k (under node path) children) := by
  induction path generalizing k children with
  | nil => rfl
  | cons j path ih =>
    rw [setAt?, h]
    · simp only [ih (k := j) (Fields.find?_nil j)]
      rfl
    · exact List.cons_ne_nil j path

end FilterNode

end CloudClient
