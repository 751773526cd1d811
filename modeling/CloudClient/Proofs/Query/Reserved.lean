import CloudClient.Proofs.Query.Kept
import CloudClient.Proofs.Query.Placed
import CloudClient.Proofs.Query.WireForm

/-!
# Reserved — the name that no branch can carry

On the wire a member `operation` marks a leaf, so a branch with a child of this name is not read
back.  The paths of filters know of no such name: whatever its names, a path can be set, and a
listing is put into order under whatever its method says it lists.  So filters survive the wire
only along paths without the name of the mark.

* `FilterNode.not_mem_of_writable`: no path through a tree that can be written has the name.
* `Filter.writable_set_iff` and `Filter.writable_ordered_iff`: what setting and ordering keep.
* `Filter.set_survives_iff` has both for filters that are read back.
-/

namespace CloudClient

namespace FilterNode

/-- In a tree that can be written no path goes through the name of the mark. -/
theorem not_mem_of_writable {path : List String} {node below : FilterNode} (h : node.Writable)
    (hbelow : nodeAt? path node = some below) : "operation" ∉ path := by
  induction path generalizing node with
  | nil => exact List.not_mem_nil
  | cons k path ih =>
    cases node with
    | leaf op options => cases hbelow
    | branch children =>
      obtain ⟨child, hfind, hend⟩ := Option.bind_eq_some_iff.1 hbelow
      obtain ⟨hk, hchild⟩ := (allWritable_iff children).1 h _ (Fields.mem_of_find? hfind)
      exact List.not_mem_cons_of_ne_of_not_mem hk.symm (ih hchild hend)

/-- What is set along a path without the name of the mark can be written. -/
theorem allWritable_setAt? {node : FilterNode} {path : List String}
    {children result : Fields FilterNode} (hnode : node.Writable) (h : AllWritable children)
    (hpath : "operation" ∉ path) (hset : setAt? node path children = some result) :
    AllWritable result := by
  induction path generalizing children result with
  | nil =>
    cases hset
    exact h
  | cons k path ih =>
    obtain ⟨hk, hrest⟩ := List.ne_and_not_mem_of_not_mem_cons hpath
    obtain ⟨child, rfl, hchild⟩ := exists_of_setAt? hset
    refine h.insert hk.symm ?_
    rcases hchild with ⟨-, rfl⟩ | ⟨-, below, placed, hentry, hplaced, rfl⟩
    · exact hnode
    · have hbelow : AllWritable below := by
        cases hfind : Fields.find? k children with
        | none =>
          rw [hfind] at hentry
          cases hentry
          trivial
        | some child =>
          rw [hfind] at hentry
          cases hentry
          exact h.find? hfind
      exact ih hbelow hrest hplaced

theorem writable_under {node : FilterNode} {path : List String} (h : node.Writable)
    (hpath : "operation" ∉ path) : (under node path).Writable := by
  induction path with
  | nil => exact h
  | cons k path ih =>
    obtain ⟨hk, hrest⟩ := List.ne_and_not_mem_of_not_mem_cons hpath
    exact ⟨hk.symm, ih hrest, trivial⟩

theorem ofJson_toJson_iff {node : FilterNode} {path : String} :
    ofJson path node.toJson = .ok node ↔ node.Writable :=
  ⟨writable_ofJson _, ofJson_toJson node⟩

end FilterNode

namespace Filter

open FilterNode (invalid)

theorem ofJson_toJson_iff {f : Filter} : ofJson f.toJson = .ok f ↔ f.Writable :=
  ⟨writable_ofJson, ofJson_toJson⟩

theorem Writable.not_mem {f : Filter} {path : List String} {node : FilterNode} (h : f.Writable)
    (hnode : f.nodeAt? path = some node) : "operation" ∉ path :=
  FilterNode.not_mem_of_writable h hnode

/-- A node that can be written is set in a filter that can be written: the filter can be written
then, exactly if the path does not have the name of the mark. -/
theorem writable_set_iff {f g : Filter} {path : String} {node : FilterNode} (hf : f.Writable)
    (hnode : node.Writable) (h : f.set path node = .ok g) :
    g.Writable ↔ "operation" ∉ segments path := by
  rcases set_cases f path node with ⟨-, hset⟩ | ⟨-, g', hset, hroot⟩
  · rw [h] at hset
    cases hset
  · rw [h] at hset
    cases hset
    constructor
    · intro hg
      have hend := FilterNode.nodeAt?_setAt?_append (segments_ne_nil path) hroot []
      rw [List.append_nil] at hend
      exact hg.not_mem hend
    · exact fun hpath => FilterNode.allWritable_setAt? hnode hf hpath hroot

/-- A filter that can be written is put into order: it can be written then, exactly if it stays
as it is or the path to the id does not have the name of the mark. -/
theorem writable_ordered_iff {filter : Option Filter} {scope : Option String}
    (hkeys : (filter.getD .empty).InKeyOrder) (hf : (filter.getD .empty).Writable) :
    (ordered filter scope).Writable ↔
      ordered filter scope = filter.getD .empty ∨ "operation" ∉ idPath scope := by
  by_cases hsame : ordered filter scope = filter.getD .empty
  · rw [hsame]
    exact iff_of_true hf (.inl rfl)
  · have horder : (filter.getD .empty).hasOperation "orderBy" = false :=
      Bool.eq_false_iff.2 fun h => hsame (ordered_of_hasOperation h)
    have hscope : IsPath scope := Classical.not_not.1 fun h => hsame (ordered_of_not_isPath h)
    obtain ⟨k, rest, hid, heq⟩ := ordered_eq_merge hscope horder
    rw [or_iff_right hsame]
    constructor
    · intro hg
      -- the leaf is at the end of the path, as the filter does not stay as it is
      have hopen : (filter.getD .empty).isOpen (idPath scope) = true := by
        refine Classical.not_not.1 fun hclosed => hsame ?_
        rw [hid] at hclosed
        rw [heq]
        exact merge_under_of_not_isOpen hkeys hclosed
      exact hg.not_mem ((leaf_ordered_iff hkeys).2 (.inr ⟨rfl, rfl, hopen, horder, hscope⟩))
    · intro hpath
      have hleaf : (Shorthand.orderBy .ascending).Writable := trivial
      rw [hid] at hpath
      rw [heq]
      exact Writable.merge (FilterNode.writable_under hleaf hpath) hf

/-- What keeps a filter that survives the wire.  A leaf or branch that is read back is set in
it: what comes out is read back exactly if no name of the path is `operation`.  And the filter,
or none if it is empty, is put into order for a method: what comes out is read back exactly if
it is the same filter, or no name of what the method lists is `operation`. -/
theorem set_survives_iff {f : Filter} (hf : ofJson f.toJson = .ok f) :
    (∀ (path : String) (node : FilterNode) (g : Filter),
      FilterNode.ofJson "" node.toJson = .ok node → f.set path node = .ok g →
      (ofJson g.toJson = .ok g ↔ "operation" ∉ segments path)) ∧
    (f.InKeyOrder → ∀ (filter : Option Filter) (method : String), filter.getD .empty = f →
      let scope := Naming.listingScope method
      let g := ordered filter scope
      (ofJson g.toJson = .ok g ↔ g = f ∨ "operation" ∉ idPath scope)) := by
  have hwritable := ofJson_toJson_iff.1 hf
  refine ⟨fun path node g hnode hset => ?_, fun hkeys filter method hfilter => ?_⟩
  · exact ofJson_toJson_iff.trans
      (writable_set_iff hwritable (FilterNode.ofJson_toJson_iff.1 hnode) hset)
  · subst hfilter
    exact ofJson_toJson_iff.trans (writable_ordered_iff hkeys hwritable)

/-- A condition on host names survives the wire, and so does the order of a listing of servers
under it. -/
theorem set_survives_hostname :
    let web := Shorthand.exact "_= web"
    ∃ f, Filter.empty.set "virtualGuests.hostname" web = .ok f ∧ ofJson f.toJson = .ok f ∧
      f.InKeyOrder ∧
      let g := ordered (some f) (Naming.listingScope "getVirtualGuests")
      ofJson g.toJson = .ok g := by
  intro web
  have hpath : segments "virtualGuests.hostname" = ["virtualGuests", "hostname"] := by
    decide +kernel
  have hscope : Naming.listingScope "getVirtualGuests" = some "virtualGuests" := by decide +kernel
  have hid : idPath (some "virtualGuests") = ["virtualGuests", "id"] := by decide +kernel
  have hset := set_empty hpath (by rw [hpath]; decide +kernel) web
  have hweb : FilterNode.ofJson "" web.toJson = .ok web := rfl
  have hempty : ofJson Filter.empty.toJson = .ok Filter.empty := rfl
  have hf := ((set_survives_iff hempty).1 _ web _ hweb hset).2 (by rw [hpath]; decide +kernel)
  have hleaf : web.InKeyOrder := trivial
  have hkeys : (Filter.mk [("virtualGuests", web.under ["hostname"])]).InKeyOrder :=
    FilterNode.inKeyOrder_under hleaf ["virtualGuests", "hostname"]
  refine ⟨_, hset, hf, hkeys, ?_⟩
  refine ((set_survives_iff hf).2 hkeys (some _) "getVirtualGuests" rfl).2 (.inr ?_)
  rw [hscope, hid]
  decide +kernel

/-- The name of the mark can be set, and is what one method lists; neither filter is read
back. -/
theorem operation_not_read_back :
    ∃ f, Filter.empty.set "operation" (Shorthand.integer 5) = .ok f ∧
      ofJson f.toJson = .error (invalid "" "operation must be an integer, string or boolean") ∧
      let g := ordered none (Naming.listingScope "getOperation")
      ofJson g.toJson = .error (invalid "" "operation must be an integer, string or boolean") := by
  have hpath : segments "operation" = ["operation"] := by decide +kernel
  have hscope : Naming.listingScope "getOperation" = some "operation" := by decide +kernel
  have hnames : IsPath (some "operation") := by
    rintro s ⟨⟩
    rw [hpath]
    decide +kernel
  obtain ⟨k, rest, hid, horder⟩ := @ordered_eq_merge none _ hnames rfl
  rw [idPath, hpath] at hid
  obtain ⟨rfl, rfl⟩ := List.cons.inj hid
  refine ⟨_, set_empty hpath (by rw [hpath]; decide +kernel) _, rfl, ?_⟩
  rw [hscope, horder]
  rfl

end Filter

end CloudClient
