import CloudClient.Proofs.Query.Merge
import CloudClient.Proofs.Text.Split

/-!
# Paths — the nodes of a filter

A path is a list of names, and a dotted path a text with a point between its names.  A filter
is what stands at the ends of its paths: two filters in key order that hold the same leaves
and have branches at the same places are equal.

* `FilterNode.nodeAt?` is the node at the end of a path, and `FilterNode.LeafAbove` tells that
  a leaf stands on the way.
* `FilterNode.ext_labelAt?`: nodes in key order are told by their leaves and branches.
* `Filter.get?_eq` and `Filter.exists_dotted` tie dotted paths to lists of names.
-/

namespace CloudClient

/-! ## Fields told by what is found in them -/

namespace Fields

variable {α : Type} {fs gs : Fields α}

theorem find?_eq_none_of_lt {k : String} (h : ∀ e ∈ fs, k < e.1) : find? k fs = none := by
  cases hfind : find? k fs with
  | none => rfl
  | some v =>
    have hlt : k < k := h (k, v) (mem_of_find? hfind)
    exact absurd hlt (String.lt_irrefl k)

theorem find?_cons_of_lt {j k : String} {w : α} (h : Sorted ((j, w) :: fs)) (hkj : k < j) :
    find? k ((j, w) :: fs) = none := by
  apply find?_eq_none_of_lt
  intro e he
  rcases List.mem_cons.1 he with rfl | he
  · exact hkj
  · exact String.lt_trans hkj ((List.pairwise_cons.1 h).1 e he)

theorem ext_find? (hf : Sorted fs) (hg : Sorted gs) (h : ∀ k, find? k fs = find? k gs) :
    fs = gs := by
  induction fs generalizing gs with
  | nil =>
    cases gs with
    | nil => rfl
    | cons e s => simpa [find?] using h e.1
  | cons e r ih =>
    obtain ⟨k, v⟩ := e
    cases gs with
    | nil => simpa [find?] using h k
    | cons e s =>
      obtain ⟨j, w⟩ := e
      -- a smaller first name would be found in one of the two only
      have hkj : ¬ k < j := by
        intro hlt
        have hnone := find?_cons_of_lt hg hlt
        rw [← h k] at hnone
        simp [find?] at hnone
      have hjk : ¬ j < k := by
        intro hlt
        have hnone := find?_cons_of_lt hf hlt
        rw [h j] at hnone
        simp [find?] at hnone
      obtain rfl : k = j := String.le_antisymm (String.not_lt.1 hjk) (String.not_lt.1 hkj)
      have hv : some v = some w := by simpa [find?] using h k
      obtain rfl := Option.some.inj hv
      congr 1
      apply ih (List.pairwise_cons.1 hf).2 (List.pairwise_cons.1 hg).2
      intro i
      by_cases hki : k = i
      · subst hki
        rw [find?_of_sorted_cons hf, find?_of_sorted_cons hg]
      · have hi := h i
        rwa [find?, if_neg hki, find?, if_neg hki] at hi

/-- Putting a value where it is already changes nothing. -/
theorem insert_of_find? {k : String} {v : α} (hf : Sorted fs) (h : find? k fs = some v) :
    insert k v fs = fs := by
  apply ext_find? (sorted_insert hf) hf
  intro j
  rw [find?_insert]
  split
  · rename_i hkj
    rw [← hkj, h]
  · rfl

theorem insert_insert {k : String} (v w : α) (hf : Sorted fs) :
    insert k v (insert k w fs) = insert k v fs := by
  apply ext_find? (sorted_insert (sorted_insert hf)) (sorted_insert hf)
  intro j
  rw [find?_insert, find?_insert, find?_insert]
  split <;> rfl

end Fields

namespace FilterNode

/-- What holds of leaves, and of a branch if it holds of its children, holds of every node. -/
@[elab_as_elim]
theorem induct {motive : FilterNode → Prop} (leaf : ∀ op options, motive (.leaf op options))
    (branch : ∀ children, (∀ e ∈ children, motive e.2) → motive (.branch children)) :
    ∀ node, motive node
  | .leaf op options => leaf op options
  | .branch children => branch children fun e _ => induct leaf branch e.2
termination_by node => sizeOf node
decreasing_by
  rename_i he
  have hlt := List.sizeOf_lt_of_mem he
  obtain ⟨k, node⟩ := e
  simp only [Prod.mk.sizeOf_spec, FilterNode.branch.sizeOf_spec] at hlt ⊢
  omega

/-! ## The end of a path -/

def nodeAt? : List String → FilterNode → Option FilterNode
  | [], node => some node
  | k :: path, .branch children => (Fields.find? k children).bind (nodeAt? path)
  | _ :: _, .leaf _ _ => none

/-- A leaf stands on the way to the end of a path. -/
def LeafAbove (path : List String) (node : FilterNode) : Prop :=
  ∃ front back op options, back ≠ [] ∧ path = front ++ back ∧
    nodeAt? front node = some (.leaf op options)

variable {k : String} {path : List String} {node : FilterNode} {children : Fields FilterNode}

theorem nodeAt?_append (front back : List String) (node : FilterNode) :
    nodeAt? (front ++ back) node = (nodeAt? front node).bind (nodeAt? back) := by
  induction front generalizing node with
  | nil => rfl
  | cons k front ih =>
    cases node with
    | leaf op options => rfl
    | branch children =>
      rw [List.cons_append, nodeAt?, nodeAt?, Option.bind_assoc]
      exact Option.bind_congr fun child _ => ih child

/-- The operation at the end of a path is that of the node there. -/
theorem operationAt?_eq (path : List String) (node : FilterNode) :
    operationAt? path node = (nodeAt? path node).bind operation? := by
  induction path generalizing node with
  | nil => cases node <;> rfl
  | cons k path ih =>
    cases node with
    | leaf op options => rfl
    | branch children =>
      rw [operationAt?, nodeAt?, Option.bind_assoc]
      exact Option.bind_congr fun child _ => ih child

theorem nodeAt?_of_leafAbove (h : LeafAbove path node) : nodeAt? path node = none := by
  obtain ⟨front, back, op, options, hback, rfl, hleaf⟩ := h
  obtain ⟨k, back, rfl⟩ := List.exists_cons_of_ne_nil hback
  rw [nodeAt?_append, hleaf]
  rfl

theorem not_leafAbove_nil : ¬ LeafAbove [] node := by
  rintro ⟨front, back, op, options, hback, hnil, -⟩
  exact hback (List.append_eq_nil_iff.1 hnil.symm).2

theorem leafAbove_leaf (op : Operation) (options : List FilterOption) :
    LeafAbove (k :: path) (.leaf op options) :=
  ⟨[], k :: path, op, options, List.cons_ne_nil k path, rfl, rfl⟩

theorem leafAbove_branch :
    LeafAbove (k :: path) (.branch children) ↔
      ∃ child, Fields.find? k children = some child ∧ LeafAbove path child := by
  constructor
  · rintro ⟨front, back, op, options, hback, hpath, hleaf⟩
    cases front with
    | nil => cases hleaf
    | cons j front =>
      obtain ⟨rfl, hbelow⟩ := List.cons.inj hpath
      obtain ⟨child, hfind, hend⟩ := Option.bind_eq_some_iff.1 hleaf
      exact ⟨child, hfind, front, back, op, options, hback, hbelow, hend⟩
  · rintro ⟨child, hfind, front, back, op, options, hback, rfl, hleaf⟩
    refine ⟨k :: front, back, op, options, hback, rfl, ?_⟩
    rw [nodeAt?, hfind]
    exact hleaf

/-- A path is open if nothing is at its end and no leaf on the way. -/
theorem isOpen_iff :
    isOpen path node = true ↔ nodeAt? path node = none ∧ ¬ LeafAbove path node := by
  induction path generalizing node with
  | nil => simp [isOpen, nodeAt?]
  | cons k path ih =>
    cases node with
    | leaf op options => simp [isOpen, nodeAt?, leafAbove_leaf]
    | branch children =>
      rw [isOpen, nodeAt?, leafAbove_branch]
      cases hfind : Fields.find? k children with
      | none => simp
      | some child => simpa using ih

theorem nodeAt?_of_isOpen (h : isOpen path node = true) : nodeAt? path node = none :=
  (isOpen_iff.1 h).1

/-- What is behind the end of an open path is open. -/
theorem isOpen_append {front : List String} (back : List String)
    (h : isOpen front node = true) : isOpen (front ++ back) node = true := by
  obtain ⟨hnone, habove⟩ := isOpen_iff.1 h
  refine isOpen_iff.2 ⟨?_, ?_⟩
  · rw [nodeAt?_append, hnone]
    rfl
  · rintro ⟨first, rest, op, options, hrest, hpath, hleaf⟩
    rcases List.append_eq_append_iff.1 hpath with ⟨middle, rfl, -⟩ | ⟨middle, rfl, -⟩
    · -- the leaf would be behind the open end
      rw [nodeAt?_append, hnone] at hleaf
      cases hleaf
    · -- the leaf would be on the way there, or at the end itself
      by_cases hmiddle : middle = []
      · rw [hmiddle, List.append_nil] at hnone
        rw [hnone] at hleaf
        cases hleaf
      · exact habove ⟨first, middle, op, options, hmiddle, rfl, hleaf⟩

theorem getAt?_cons (k : String) (path : List String) (children : Fields FilterNode) :
    getAt? (k :: path) children = nodeAt? (k :: path) (.branch children) := by
  induction path generalizing k children with
  | nil =>
    rw [getAt?, nodeAt?]
    cases Fields.find? k children <;> rfl
  | cons j path ih =>
    rw [getAt?, nodeAt?]
    · cases Fields.find? k children with
      | none => rfl
      | some child =>
        cases child with
        | leaf op options => rfl
        | branch below => exact ih j below
    · exact List.cons_ne_nil j path

/-! ## Equal nodes -/

/-- What a node is by itself: a leaf with its options, or a branch. -/
def label : FilterNode → Option (Operation × List FilterOption)
  | .leaf op options => some (op, options)
  | .branch _ => none

def labelAt? (path : List String) (node : FilterNode) :
    Option (Option (Operation × List FilterOption)) :=
  (nodeAt? path node).map label

theorem labelAt?_cons (k : String) (path : List String) (children : Fields FilterNode) :
    labelAt? (k :: path) (.branch children) =
      (Fields.find? k children).bind (labelAt? path) := by
  rw [labelAt?, nodeAt?, Option.map_bind]
  rfl

/-- Nodes in key order are equal if they have the same leaves and branches. -/
theorem ext_labelAt? {a b : FilterNode} (ha : a.InKeyOrder) (hb : b.InKeyOrder)
    (h : ∀ path, labelAt? path a = labelAt? path b) : a = b := by
  induction a using induct generalizing b with
  | leaf op options =>
    have hroot : some (some (op, options)) = some b.label := h []
    cases b with
    | leaf op' options' =>
      obtain ⟨rfl, rfl⟩ := Prod.mk.inj (Option.some.inj (Option.some.inj hroot))
      rfl
    | branch children => cases Option.some.inj hroot
  | branch mine ih =>
    have hroot : some none = some b.label := h []
    cases b with
    | leaf op options => cases Option.some.inj hroot
    | branch theirs =>
      congr 1
      apply Fields.ext_find? ha.1 hb.1
      intro k
      have hbelow (path : List String) : (Fields.find? k mine).bind (labelAt? path) =
          (Fields.find? k theirs).bind (labelAt? path) := by
        rw [← labelAt?_cons, ← labelAt?_cons, h]
      -- the empty path tells whether there is a child at all
      have hname := hbelow []
      cases hmine : Fields.find? k mine with
      | none =>
        cases htheirs : Fields.find? k theirs with
        | none => rfl
        | some their =>
          rw [hmine, htheirs] at hname
          cases hname
      | some child =>
        cases htheirs : Fields.find? k theirs with
        | none =>
          rw [hmine, htheirs] at hname
          cases hname
        | some their =>
          rw [hmine, htheirs] at hbelow
          congr 1
          exact ih _ (Fields.mem_of_find? hmine) (ha.2.find? hmine) (hb.2.find? htheirs) hbelow

end FilterNode

namespace Filter

/-! ## Filters and dotted paths -/

def nodeAt? (f : Filter) (path : List String) : Option FilterNode :=
  FilterNode.nodeAt? path (.branch f.root)

def LeafAbove (f : Filter) (path : List String) : Prop :=
  FilterNode.LeafAbove path (.branch f.root)

theorem segments_append (front back : String) :
    segments (front ++ "." ++ back) = segments front ++ segments back := by
  unfold segments Text.splitString
  rw [← List.map_append, ← Text.splitAll_append_cons (c := '.') rfl]
  simp [String.toList_append]

theorem segments_ne_nil (path : String) : segments path ≠ [] := by
  simp [segments, Text.splitString, Text.splitAll_ne_nil]

theorem get?_eq (f : Filter) (path : String) : f.get? path = f.nodeAt? (segments path) := by
  obtain ⟨k, names, hpath⟩ := List.exists_cons_of_ne_nil (segments_ne_nil path)
  rw [get?, hpath, FilterNode.getAt?_cons]
  rfl

theorem segments_intercalate {pieces : List (List Char)} (hne : pieces ≠ [])
    (h : ∀ piece ∈ pieces, ∀ c ∈ piece, (c == '.') = false) :
    segments (.ofList (['.'].intercalate pieces)) = pieces.map .ofList := by
  rw [segments, Text.splitString, String.toList_ofList, Text.splitAll_intercalate rfl hne h]

/-- A dotted path is cut between any two of its names by a point. -/
theorem exists_dotted {path : String} {front back : List String}
    (h : segments path = front ++ back) (hfront : front ≠ []) (hback : back ≠ []) :
    ∃ p q, path = p ++ "." ++ q ∧ segments p = front ∧ segments q = back := by
  unfold segments Text.splitString at h
  obtain ⟨first, rest, hpieces, rfl, rfl⟩ := List.map_eq_append_iff.1 h
  have hfirst : first ≠ [] := fun hnil => hfront (congrArg (List.map String.ofList) hnil)
  have hrest : rest ≠ [] := fun hnil => hback (congrArg (List.map String.ofList) hnil)
  have hplain : ∀ piece ∈ first ++ rest, ∀ c ∈ piece, (c == '.') = false := by
    rw [← hpieces]
    exact fun piece hpiece => Text.not_mem_of_mem_splitAll hpiece
  obtain ⟨hplainFirst, hplainRest⟩ := List.forall_mem_append.1 hplain
  have hwhole : path.toList =
      ['.'].intercalate first ++ '.' :: ['.'].intercalate rest := by
    rw [← Text.intercalate_append hfirst hrest, ← hpieces, Text.intercalate_splitAll]
  refine ⟨.ofList (['.'].intercalate first), .ofList (['.'].intercalate rest), ?_,
    segments_intercalate hfirst hplainFirst, segments_intercalate hrest hplainRest⟩
  apply String.toList_inj.1
  rw [hwhole]
  simp [String.toList_append]

end Filter

end CloudClient
