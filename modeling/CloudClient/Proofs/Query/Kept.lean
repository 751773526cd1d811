import CloudClient.Proofs.Query.Order
import CloudClient.Proofs.Query.Union

/-!
# Kept — what an order leaves of a filter

The leaf that orders a listing is put under the caller's filter, so that whatever the filter has
on the path to the id stays in front of it.  The filter that comes out has every leaf of the
caller's, and differs from it only by the new leaf and the branches on the way to that.

* `Filter.merge_under_of_not_isOpen`: a filter that has something on the path stays as it is.
* `Filter.nodeAt?_merge_under_cases`: what a leaf does that is put under a filter.
* `Filter.leaf_ordered_iff`: which leaves a listing has when it is put into order.
* `Filter.order_keeps` has what is kept, and that putting an order twice is putting it once.
-/

namespace CloudClient

namespace FilterNode

theorem nodeAt?_under_append (front back : List String) (node : FilterNode) :
    nodeAt? front (under node (front ++ back)) = some (under node back) := by
  induction front with
  | nil => rfl
  | cons k front ih =>
    rw [List.cons_append, under, nodeAt?, Fields.find?, if_pos rfl]
    exact ih

theorem nodeAt?_under_of_not_prefix {p path : List String} (op : Operation)
    (options : List FilterOption) (h : ¬ p <+: path) :
    nodeAt? p (under (.leaf op options) path) = none := by
  induction p generalizing path with
  | nil => exact absurd List.nil_prefix h
  | cons k p ih =>
    cases path with
    | nil => rfl
    | cons j path =>
      rw [under, nodeAt?, Fields.find?]
      by_cases hjk : j = k
      · rw [if_pos hjk]
        apply ih
        intro hprefix
        exact h (List.cons_prefix_cons.2 ⟨hjk.symm, hprefix⟩)
      · rw [if_neg hjk]
        rfl

/-- A node at the end of a path has one leaf, if it is one. -/
theorem leaf_under_iff {p path : List String} {op op' : Operation}
    {options options' : List FilterOption} :
    nodeAt? p (under (.leaf op options) path) = some (.leaf op' options') ↔
      p = path ∧ FilterNode.leaf op' options' = .leaf op options := by
  by_cases hprefix : p <+: path
  · obtain ⟨back, rfl⟩ := hprefix
    rw [nodeAt?_under_append]
    cases back with
    | nil => simp [under, eq_comm]
    | cons k rest => simp [under]
  · have hnone := nodeAt?_under_of_not_prefix op options hprefix
    rw [hnone]
    constructor
    · intro h
      cases h
    · rintro ⟨rfl, -⟩
      exact absurd List.prefix_rfl hprefix

end FilterNode

namespace Filter

variable {f : Filter} {filter : Option Filter} {scope : Option String}

/-- A leaf under a filter that has something at its path, or a leaf on the way, is gone. -/
theorem merge_under_of_not_isOpen (hf : f.InKeyOrder) {k : String} {rest : List String}
    {op : Operation} {options : List FilterOption} (h : ¬ f.isOpen (k :: rest) = true) :
    Filter.merge ⟨[(k, FilterNode.under (.leaf op options) rest)]⟩ f = f := by
  have hleaf : (FilterNode.leaf op options).InKeyOrder := trivial
  have hunder : InKeyOrder ⟨[(k, FilterNode.under (.leaf op options) rest)]⟩ :=
    FilterNode.inKeyOrder_under hleaf (k :: rest)
  apply ext_labelAt? (hunder.merge hf) hf
  intro p
  rw [labelAt?_merge hf]
  by_cases hopen : f.isOpen p = true
  · -- an open path is no way to the leaf
    have hprefix : ¬ p <+: k :: rest := by
      rintro ⟨back, hback⟩
      apply h
      rw [← hback]
      exact FilterNode.isOpen_append back hopen
    have hnone := FilterNode.nodeAt?_under_of_not_prefix op options hprefix
    rw [if_pos hopen, labelAt?_of_isOpen hopen]
    change (FilterNode.nodeAt? p (FilterNode.under (.leaf op options) (k :: rest))).map _ = none
    rw [hnone]
    rfl
  · rw [if_neg hopen]

/-- At a path is what was there, or the leaf that was put under the filter, or a branch on the
way to it. -/
theorem nodeAt?_merge_under_cases (hf : f.InKeyOrder) {j : String} {names : List String}
    (op : Operation) (options : List FilterOption) (path : List String) :
    let g := Filter.merge ⟨[(j, FilterNode.under (.leaf op options) names)]⟩ f
    g.nodeAt? path = f.nodeAt? path ∨
      (path = j :: names ∧ f.nodeAt? path = none ∧
        g.nodeAt? path = some (.leaf op options)) ∨
      (∃ k rest, j :: names = path ++ k :: rest ∧
        (f.nodeAt? path = none ∨ ∃ mine, f.nodeAt? path = some (.branch mine)) ∧
        ∃ below, g.nodeAt? path = some (.branch below)) := by
  intro g
  let leaf : Filter := ⟨[(j, FilterNode.under (.leaf op options) names)]⟩
  change (leaf.merge f).nodeAt? path = _ ∨ (_ ∧ _ ∧ (leaf.merge f).nodeAt? path = _) ∨
    ∃ k rest, _ ∧ _ ∧ ∃ below, (leaf.merge f).nodeAt? path = _
  by_cases hprefix : path <+: j :: names
  · obtain ⟨back, hback⟩ := hprefix
    have hleaf : leaf.nodeAt? path = some (FilterNode.under (.leaf op options) back) := by
      change FilterNode.nodeAt? path (FilterNode.under (.leaf op options) (j :: names)) = _
      rw [← hback, FilterNode.nodeAt?_under_append]
    cases hnode : f.nodeAt? path with
    | none =>
      by_cases hopen : f.isOpen path = true
      · rw [nodeAt?_merge hf, if_pos hopen, hleaf]
        cases back with
        | nil => exact .inr (.inl ⟨by simpa using hback, rfl, rfl⟩)
        | cons k rest => exact .inr (.inr ⟨k, rest, hback.symm, .inl rfl, _, rfl⟩)
      · -- a leaf of the filter is on the way
        left
        rw [nodeAt?_merge hf, if_neg hopen, hnode]
        rfl
    | some node =>
      rw [nodeAt?_merge_of_some hf hnode, hleaf]
      cases node with
      | leaf op options => exact .inl rfl
      | branch mine =>
        cases back with
        | nil => exact .inl rfl
        | cons k rest => exact .inr (.inr ⟨k, rest, hback.symm, .inr ⟨mine, rfl⟩, _, rfl⟩)
  · -- the new leaf is not to be seen from here
    left
    exact nodeAt?_merge_of_none hf (FilterNode.nodeAt?_under_of_not_prefix op options hprefix)

theorem ordered_of_hasOperation (h : (filter.getD .empty).hasOperation "orderBy" = true) :
    ordered filter scope = filter.getD .empty :=
  if_pos h

theorem ordered_of_not_isPath (h : ¬ IsPath scope) :
    ordered filter scope = filter.getD .empty := by
  cases scope with
  | none => exact absurd (fun s hs => nomatch hs) h
  | some s =>
    have hblank : (segments (s ++ ".id")).any Text.isBlankText = true := by
      rw [segments_id, List.any_append, Bool.or_eq_true]
      left
      rw [← Bool.not_eq_false]
      intro hnames
      apply h
      rintro s' ⟨⟩
      exact hnames
    simp only [ordered, set, hblank, if_true]
    split <;> rfl

/-- A listing that is put into order twice is put into order once. -/
theorem ordered_ordered (hkeys : (filter.getD .empty).InKeyOrder) :
    ordered (some (ordered filter scope)) scope = ordered filter scope := by
  by_cases horder : (ordered filter scope).hasOperation "orderBy" = true
  · exact ordered_of_hasOperation horder
  · -- without an order the filter is what it was
    have hsame : ordered filter scope = filter.getD .empty := by
      by_cases hfirst : (filter.getD .empty).hasOperation "orderBy" = true
      · exact ordered_of_hasOperation hfirst
      · by_cases hscope : IsPath scope
        · obtain ⟨k, rest, hid, heq⟩ := ordered_eq_merge hscope (Bool.eq_false_iff.2 hfirst)
          rw [heq]
          apply merge_under_of_not_isOpen hkeys
          intro hopen
          apply horder
          rw [hasOperation_ordered hscope hkeys, canBeOrdered, hid, Bool.or_eq_true]
          exact .inr hopen
        · exact ordered_of_not_isPath hscope
    rw [hsame]
    exact hsame

theorem nodeAt?_ordered_cases (hkeys : (filter.getD .empty).InKeyOrder)
    (path : List String) :
    (ordered filter scope).nodeAt? path = (filter.getD .empty).nodeAt? path ∨
      (path = idPath scope ∧ (filter.getD .empty).nodeAt? path = none ∧
        (ordered filter scope).nodeAt? path = some (Shorthand.orderBy .ascending)) ∨
      (∃ k rest, idPath scope = path ++ k :: rest ∧
        ((filter.getD .empty).nodeAt? path = none ∨
          ∃ mine, (filter.getD .empty).nodeAt? path = some (.branch mine)) ∧
        ∃ below, (ordered filter scope).nodeAt? path = some (.branch below)) := by
  by_cases horder : (filter.getD .empty).hasOperation "orderBy" = true
  · left
    rw [ordered_of_hasOperation horder]
  · by_cases hscope : IsPath scope
    · obtain ⟨j, names, hid, heq⟩ := ordered_eq_merge hscope (Bool.eq_false_iff.2 horder)
      rw [heq, hid]
      exact nodeAt?_merge_under_cases hkeys _ _ path
    · left
      rw [ordered_of_not_isPath hscope]

/-- The leaves of an ordered listing are those of the caller's filter, and the order itself if
the filter has none and leaves the path to the id open. -/
theorem leaf_ordered_iff (hkeys : (filter.getD .empty).InKeyOrder) {path : List String}
    {op : Operation} {options : List FilterOption} :
    (ordered filter scope).nodeAt? path = some (.leaf op options) ↔
      (filter.getD .empty).nodeAt? path = some (.leaf op options) ∨
        (path = idPath scope ∧ FilterNode.leaf op options = Shorthand.orderBy .ascending ∧
          (filter.getD .empty).isOpen path = true ∧
          (filter.getD .empty).hasOperation "orderBy" = false ∧ IsPath scope) := by
  by_cases horder : (filter.getD .empty).hasOperation "orderBy" = true
  · rw [ordered_of_hasOperation horder]
    simp [horder]
  · by_cases hscope : IsPath scope
    · have hnone := Bool.eq_false_iff.2 horder
      obtain ⟨j, names, hid, heq⟩ := ordered_eq_merge hscope hnone
      have hunder : nodeAt? ⟨[(j, FilterNode.under (Shorthand.orderBy .ascending) names)]⟩ path =
          some (.leaf op options) ↔
            path = j :: names ∧ FilterNode.leaf op options = Shorthand.orderBy .ascending :=
        @FilterNode.leaf_under_iff path (j :: names) _ _ _ _
      rw [heq, leaf_merge_iff hkeys, hunder, hid]
      simp only [hnone, hscope, and_true, and_assoc]
    · rw [ordered_of_not_isPath hscope]
      simp [hscope]

/-- What an order leaves of a caller's filter.  Every leaf of the filter is at its place with
its options.  At every path there is the node that was there, or the new leaf at the path to the
id, where nothing was, or a branch on the way to it, where there was nothing or a branch.  A
filter that orders the listing itself stays as it is, as does any filter if the scope is no
path.  And a second order changes nothing. -/
theorem order_keeps (hkeys : ∀ f, filter = some f → f.InKeyOrder) :
    let f := filter.getD .empty
    let g := ordered filter scope
    (∀ path op options, f.nodeAt? path = some (.leaf op options) →
      g.nodeAt? path = some (.leaf op options)) ∧
    (∀ path, g.nodeAt? path = f.nodeAt? path ∨
      (path = idPath scope ∧ f.nodeAt? path = none ∧
        g.nodeAt? path = some (.leaf (.text "orderBy") [⟨"sort", [.str "ASC"]⟩])) ∨
      (∃ k rest, idPath scope = path ++ k :: rest ∧
        (f.nodeAt? path = none ∨ ∃ mine, f.nodeAt? path = some (.branch mine)) ∧
        ∃ below, g.nodeAt? path = some (.branch below))) ∧
    (f.hasOperation "orderBy" = true ∨ ¬ IsPath scope → g = f) ∧
    ordered (some g) scope = g := by
  intro f g
  have hf := inKeyOrder_getD hkeys
  exact ⟨fun path op options hleaf => (leaf_ordered_iff hf).2 (.inl hleaf),
    nodeAt?_ordered_cases hf,
    fun h => h.elim ordered_of_hasOperation ordered_of_not_isPath, ordered_ordered hf⟩

/-- The host name stays under the order of a listing of servers, and so does all of a filter
that has a leaf at the scope. -/
theorem order_keeps_hostname :
    let named : Filter := .only "virtualGuests" ["hostname"] (Shorthand.text "web")
    let blunt : Filter := .only "virtualGuests" [] (Shorthand.text "web")
    named.InKeyOrder ∧ blunt.InKeyOrder ∧
      (ordered (some named) (some "virtualGuests")).nodeAt? ["virtualGuests", "hostname"] =
        some (Shorthand.text "web") ∧
      ordered (some (ordered (some blunt) (some "virtualGuests"))) (some "virtualGuests") =
        ordered (some blunt) (some "virtualGuests") := by
  intro named blunt
  have hleaf : (Shorthand.text "web").InKeyOrder := trivial
  have hnamed : named.InKeyOrder :=
    FilterNode.inKeyOrder_under hleaf ["virtualGuests", "hostname"]
  have hblunt : blunt.InKeyOrder := FilterNode.inKeyOrder_under hleaf ["virtualGuests"]
  have hkeys {f : Filter} (hf : f.InKeyOrder) : ∀ g, some f = some g → g.InKeyOrder := by
    rintro g ⟨⟩
    exact hf
  obtain ⟨hkept, -⟩ := @order_keeps (some named) (some "virtualGuests") (hkeys hnamed)
  obtain ⟨-, -, -, htwice⟩ := @order_keeps (some blunt) (some "virtualGuests") (hkeys hblunt)
  exact ⟨hnamed, hblunt, hkept _ _ _ rfl, htwice⟩

end Filter

end CloudClient
