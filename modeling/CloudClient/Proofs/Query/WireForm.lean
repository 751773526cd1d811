import CloudClient.Proofs.Query.Merge

/-!
# The wire form of filters — leaves and branches told apart

On the wire a leaf and a branch are both objects, told apart by a member `operation`.  So a
filter can be read back exactly if no branch has a child of this name.  Every filter that is
read is of this kind, and stays so when such filters are merged.

* `FilterNode.Writable` is the condition on trees.
* `FilterNode.ofJson_toJson`: writing and reading gives the tree back.
* `FilterNode.writable_ofJson` and `FilterNode.writable_merge`: trees that are read or merged
  can be written.
* `Filter.wire_form` has it for whole filters.
-/

namespace CloudClient

/-- An integer operation has 64 bits with sign. -/
def Operation.Fits : Operation → Prop
  | .integer i => -9223372036854775808 ≤ i ∧ i ≤ 9223372036854775807
  | _ => True

theorem Operation.ofJson?_toJson {op : Operation} (h : op.Fits) : ofJson? op.toJson = some op := by
  cases op with
  | text s => rfl
  | boolean b => rfl
  | integer i =>
    have hrange : -9223372036854775808 ≤ i ∧ i ≤ 9223372036854775807 := h
    change (if _ then some i else none).map integer = _
    rw [if_pos hrange]
    rfl

theorem Operation.fits_of_ofJson? {v : Json} {op : Operation} (h : ofJson? v = some op) :
    op.Fits := by
  unfold ofJson? at h
  split at h
  · cases h
    trivial
  · cases h
    trivial
  · obtain ⟨i, hi, rfl⟩ := Option.map_eq_some_iff.1 h
    unfold Json.i64? at hi
    split at hi
    · split at hi
      · rename_i hrange
        exact Option.some.inj hi ▸ hrange
      · cases hi
    · cases hi

namespace FilterOption

theorem ofJson?_toJson (o : FilterOption) : ofJson? o.toJson = some o := rfl

theorem listOfJson?_map_toJson (options : List FilterOption) :
    listOfJson? (some (.arr (options.map toJson))) = some options := by
  change (options.map toJson).mapM ofJson? = some options
  induction options with
  | nil => rfl
  | cons o r ih => rw [List.map_cons, List.mapM_cons, ofJson?_toJson, ih]; rfl

end FilterOption

namespace FilterNode

/-! ## Trees that can be written -/

mutual

/-- No branch of the tree has a child with the name that marks a leaf, and integers fit
their 64 bits. -/
def Writable : FilterNode → Prop
  | .leaf op _ => op.Fits
  | .branch children => AllWritable children

def AllWritable : List (String × FilterNode) → Prop
  | [] => True
  | (k, node) :: r => k ≠ "operation" ∧ node.Writable ∧ AllWritable r

end

theorem allWritable_iff (fs : List (String × FilterNode)) :
    AllWritable fs ↔ ∀ e ∈ fs, e.1 ≠ "operation" ∧ e.2.Writable := by
  induction fs with
  | nil => simp [AllWritable]
  | cons e r ih => simp [AllWritable, ih, and_assoc]

/-! ## Writing and reading -/

theorem find?_childrenToJson {fs : List (String × FilterNode)} (h : AllWritable fs) :
    Fields.find? "operation" (childrenToJson fs) = none := by
  induction fs with
  | nil => rfl
  | cons e r ih => rw [childrenToJson, Fields.find?, if_neg h.1, ih h.2.2]

theorem ofJson_leafJson {path : String} {op : Operation} (options : List FilterOption)
    (h : op.Fits) : ofJson path (leafJson op options) = .ok (.leaf op options) := by
  -- options are written only if there are some, and are looked for in both cases
  have hread (written : Option Json) (hwritten : FilterOption.listOfJson? written = some options) :
      leafOfJson path op.toJson written = .ok (.leaf op options) := by
    rw [leafOfJson, Operation.ofJson?_toJson h, hwritten]
  cases options with
  | nil => exact hread none rfl
  | cons o r => exact hread _ (FilterOption.listOfJson?_map_toJson (o :: r))

mutual

/-- A tree that can be written is read back. -/
theorem ofJson_toJson : ∀ (node : FilterNode) {path : String}, node.Writable →
    ofJson path node.toJson = .ok node
  | .leaf op options, path, h => ofJson_leafJson options h
  | .branch children, path, h => by
    rw [toJson, ofJson, find?_childrenToJson h]
    simp only [childrenOfJson_childrenToJson children h]

theorem childrenOfJson_childrenToJson : ∀ (children : List (String × FilterNode))
    {path : String}, AllWritable children →
    childrenOfJson path (childrenToJson children) = .ok children
  | [], path, _ => rfl
  | (k, node) :: r, path, h => by
    rw [childrenToJson, childrenOfJson, ofJson_toJson node h.2.1]
    simp only [childrenOfJson_childrenToJson r h.2.2]

end

/-! ## What is read can be written -/

theorem writable_leafOfJson {path : String} {operation : Json} {options : Option Json}
    {node : FilterNode} (h : leafOfJson path operation options = .ok node) : node.Writable := by
  unfold leafOfJson at h
  split at h
  · cases h
  · rename_i op hop
    split at h
    · cases h
    · cases h
      exact Operation.fits_of_ofJson? hop

mutual

/-- A tree that is read can be written. -/
theorem writable_ofJson : ∀ (v : Json) {path : String} {node : FilterNode},
    ofJson path v = .ok node → node.Writable
  | .obj members, path, node, h => by
    rw [ofJson] at h
    split at h
    · exact writable_leafOfJson h
    · rename_i hbranch
      split at h
      · cases h
      · rename_i children hchildren
        cases h
        exact allWritable_childrenOfJson members hbranch hchildren

/-- The children of an object without the mark of a leaf can be written. -/
theorem allWritable_childrenOfJson : ∀ (members : List (String × Json)) {path : String}
    {children : List (String × FilterNode)}, Fields.find? "operation" members = none →
    childrenOfJson path members = .ok children → AllWritable children
  | [], _, _, _, h => by
    cases h
    trivial
  | (k, v) :: r, path, children, hbranch, h => by
    rw [Fields.find?] at hbranch
    rw [childrenOfJson] at h
    split at hbranch
    · cases hbranch
    · rename_i hk
      split at h
      · cases h
      · rename_i node hnode
        split at h
        · cases h
        · rename_i rest hrest
          cases h
          exact ⟨hk, writable_ofJson v hnode, allWritable_childrenOfJson r hbranch hrest⟩

end

/-! ## What is merged can be written -/

theorem AllWritable.find? {k : String} {node : FilterNode} {fs : Fields FilterNode}
    (h : AllWritable fs) (hfind : Fields.find? k fs = some node) : node.Writable :=
  ((allWritable_iff fs).1 h _ (Fields.mem_of_find? hfind)).2

theorem AllWritable.insert {k : String} {node : FilterNode} {fs : Fields FilterNode}
    (h : AllWritable fs) (hk : k ≠ "operation") (hnode : node.Writable) :
    AllWritable (Fields.insert k node fs) := by
  rw [allWritable_iff] at h ⊢
  intro e he
  rcases Fields.mem_insert he with rfl | he
  · exact ⟨hk, hnode⟩
  · exact h e he

mutual

/-- The deep union of trees that can be written can be written. -/
theorem writable_merge {mine : FilterNode} :
    ∀ theirs : FilterNode, mine.Writable → theirs.Writable → (merge mine theirs).Writable
  | .leaf _ _, _, htheirs => htheirs
  | .branch theirs, hmine, htheirs => by
    cases mine with
    | leaf op options => exact htheirs
    | branch children => exact allWritable_mergeChildren theirs hmine htheirs

theorem allWritable_mergeChildren {mine : Fields FilterNode} :
    ∀ theirs : List (String × FilterNode), AllWritable mine → AllWritable theirs →
      AllWritable (mergeChildren mine theirs)
  | [], hmine, _ => hmine
  | (k, their) :: r, hmine, htheirs => by
    refine allWritable_mergeChildren r (hmine.insert htheirs.1 ?_) htheirs.2.2
    cases hfind : Fields.find? k mine with
    | none => exact htheirs.2.1
    | some child => exact writable_merge their (hmine.find? hfind) htheirs.2.1

end

end FilterNode

namespace Filter

/-! ## Filters -/

/-- No branch of the filter has a child with the name that marks a leaf, and integers fit
their 64 bits. -/
def Writable (f : Filter) : Prop := (FilterNode.branch f.root).Writable

/-- Filters that are read, and those that are merged from them in any order. -/
inductive Accepted : Filter → Prop
  | read {v : Json} {f : Filter} (h : ofJson v = .ok f) : Accepted f
  | merge {f upper : Filter} (hf : Accepted f) (hupper : Accepted upper) :
    Accepted (f.merge upper)

/-- The wire form of the filter that a value is read as. -/
def normal (v : Json) : Except QueryError Json := (ofJson v).map toJson

theorem ofJson_toJson {f : Filter} (h : f.Writable) : ofJson f.toJson = .ok f := by
  change ofJson (FilterNode.branch f.root).toJson = _
  rw [ofJson, FilterNode.ofJson_toJson _ h]

theorem writable_ofJson {v : Json} {f : Filter} (h : ofJson v = .ok f) : f.Writable := by
  unfold ofJson at h
  split at h
  · cases h
  · rename_i root hroot
    cases h
    exact FilterNode.writable_ofJson v hroot
  · cases h

theorem Writable.merge {f upper : Filter} (hf : f.Writable) (hupper : upper.Writable) :
    (f.merge upper).Writable :=
  FilterNode.writable_merge _ hf hupper

theorem Accepted.writable {f : Filter} (h : f.Accepted) : f.Writable := by
  induction h with
  | read h => exact writable_ofJson h
  | merge _ _ hf hupper => exact hf.merge hupper

/-- The wire form and its reader.  A filter is read back from its wire form exactly if no
branch has a child with the name that marks a leaf; filters that are read are of this kind,
and merging keeps it.  So the two are inverse on every filter that is read or merged from
such ones, and the wire form of the filter that a value is read as is read as this filter
again. -/
theorem wire_form :
    (∀ f : Filter, ofJson f.toJson = .ok f ↔ f.Writable) ∧
    (∀ v f, ofJson v = .ok f → f.Writable) ∧
    (∀ f upper : Filter, f.Writable → upper.Writable → (f.merge upper).Writable) ∧
    (∀ f : Filter, f.Accepted → ofJson f.toJson = .ok f) ∧
    (∀ v w, normal v = .ok w → normal w = .ok w) := by
  refine ⟨fun f => ⟨writable_ofJson, ofJson_toJson⟩, fun v f => writable_ofJson,
    fun f upper => Writable.merge, fun f h => ofJson_toJson h.writable, fun v w h => ?_⟩
  rw [normal] at h
  cases hv : ofJson v with
  | error e =>
    rw [hv] at h
    cases h
  | ok f =>
    rw [hv] at h
    obtain rfl := Except.ok.inj h
    rw [normal, ofJson_toJson (writable_ofJson hv)]
    rfl

/-- A child with the name of the mark makes a branch unreadable. -/
example : ofJson (Filter.only "id" ["operation"] (.leaf (.integer 5) [])).toJson = .error
    (.invalidFilter "id" "operation must be an integer, string or boolean") := rfl

end Filter

end CloudClient
