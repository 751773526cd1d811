import CloudClient.Proofs.Query.Kept

/-!
# Servers — the filter of a listing of servers

What a listing is asked for becomes leaves at fixed places, none of them in the way of another
or of the order.  The caller's filter goes over them, so that every leaf of it stays and hides
what the listing sets at its place or behind it.

* `Guests.Listing.leaf_toFilter_iff`: where a leaf of the filter that is sent comes from.
* `Guests.Listing.toFilter_leaves`: what is asked for and what the caller gives is sent, and
  nothing else but an order.
-/

namespace CloudClient

namespace Guests.Listing

variable {l : Listing}

/-- The leaves of the filter that is sent: those of the caller's filter, what the listing is
asked for where that filter leaves the place open, and the order if nothing is in its way. -/
theorem leaf_toFilter_iff (hkeys : ∀ f, l.filter = some f → f.InKeyOrder) :
    let f := l.filter.getD .empty
    ∃ g, l.toFilter = .ok g ∧ ∀ path op options,
      g.nodeAt? path = some (.leaf op options) ↔
        (f.nodeAt? path = some (.leaf op options) ∨
          (l.Asks path (.leaf op options) ∧ f.isOpen path = true)) ∨
        (path = ["virtualGuests", "id"] ∧
          FilterNode.leaf op options = Shorthand.orderBy .ascending ∧
          f.isOpen path = true ∧ f.hasOperation "orderBy" = false) := by
  intro f
  have hf : f.InKeyOrder := Filter.inKeyOrder_getD hkeys
  obtain ⟨own, hown, hholds, hnone, hopen⟩ := l.ownFilter_spec
  refine ⟨_, toFilter_eq hown, fun path op options => ?_⟩
  have hleaf := @Filter.leaf_ordered_iff (some (own.merge f)) (some scope) (hholds.keys.merge hf)
    path op options
  rw [hleaf, Option.getD_some, Filter.leaf_merge_iff hf, hholds.leaf_iff, mem_entries_iff,
    idPath_scope]
  -- what the listing sets is no order, and not in the way of one
  have horder : (own.merge f).hasOperation "orderBy" = f.hasOperation "orderBy" :=
    FilterNode.hasOperation_merge_of_none hholds.keys hf hnone
  have hid : path = ["virtualGuests", "id"] → (own.merge f).isOpen path = f.isOpen path := by
    rintro rfl
    rw [idPath_scope] at hopen
    exact FilterNode.isOpen_merge hf hopen
  rw [horder]
  refine or_congr_right (and_congr_right fun hpath => ?_)
  rw [hid hpath]
  simp only [isPath_scope, and_true]

/-- The filter that a listing of servers sends.  There always is one.  It has the leaf of
everything that the listing is asked for, unless the caller's filter has a node at that place or
a leaf on the way to it; it has every leaf of the caller's filter; and it has no other leaf, but
for an ascending order at the id.  If the caller gives no filter, this order is there. -/
theorem toFilter_leaves (l : Listing) (hkeys : ∀ f, l.filter = some f → f.InKeyOrder) :
    let f := l.filter.getD .empty
    ∃ g, l.toFilter = .ok g ∧
      (∀ path node, l.Asks path node → f.nodeAt? path = none → ¬ f.LeafAbove path →
        g.nodeAt? path = some node) ∧
      (∀ path op options, f.nodeAt? path = some (.leaf op options) →
        g.nodeAt? path = some (.leaf op options)) ∧
      (∀ path op options, g.nodeAt? path = some (.leaf op options) →
        f.nodeAt? path = some (.leaf op options) ∨
        (l.Asks path (.leaf op options) ∧ f.nodeAt? path = none ∧ ¬ f.LeafAbove path) ∨
        (path = ["virtualGuests", "id"] ∧ op = .text "orderBy" ∧
          options = [⟨"sort", [.str "ASC"]⟩])) ∧
      (l.filter = none → g.nodeAt? ["virtualGuests", "id"] =
        some (.leaf (.text "orderBy") [⟨"sort", [.str "ASC"]⟩])) := by
  intro f
  obtain ⟨g, hg, hleaves⟩ := leaf_toFilter_iff hkeys
  refine ⟨g, hg, fun path node hasks hnone habove => ?_,
    fun path op options h => (hleaves ..).2 (.inl (.inl h)), fun path op options h => ?_,
    fun hfilter => ?_⟩
  · obtain ⟨op, options, rfl⟩ := hasks.leaf.1
    exact (hleaves ..).2 (.inl (.inr ⟨hasks, Filter.isOpen_iff.2 ⟨hnone, habove⟩⟩))
  · rcases (hleaves ..).1 h with (hcaller | ⟨hasks, hopen⟩) | ⟨hpath, horder, -⟩
    · exact .inl hcaller
    · exact .inr (.inl ⟨hasks, Filter.isOpen_iff.1 hopen⟩)
    · exact .inr (.inr ⟨hpath, FilterNode.leaf.inj horder⟩)
  · refine (hleaves ..).2 (.inr ⟨rfl, rfl, ?_, ?_⟩)
    · rw [hfilter]
      rfl
    · rw [hfilter]
      rfl

/-- A listing by host name and processors, under a filter on host names: the caller's host name
is sent, and the number of processors. -/
theorem toFilter_leaves_hostname :
    let web : Filter := .only "virtualGuests" ["hostname"] (Shorthand.exact "_= web")
    let l : Listing :=
      { Listing.all with hostname := some "db", cpus := some 2, filter := some web }
    web.InKeyOrder ∧ ∃ g, l.toFilter = .ok g ∧
      g.nodeAt? ["virtualGuests", "hostname"] = some (Shorthand.exact "_= web") ∧
      g.nodeAt? ["virtualGuests", "maxCpu"] = some (Shorthand.integer 2) := by
  intro web l
  have hleaf : (Shorthand.exact "_= web").InKeyOrder := trivial
  have hweb : web.InKeyOrder :=
    FilterNode.inKeyOrder_under hleaf ["virtualGuests", "hostname"]
  have hkeys : ∀ f, l.filter = some f → f.InKeyOrder := by
    rintro f ⟨⟩
    exact hweb
  obtain ⟨g, hg, hasked, hcaller, -⟩ := l.toFilter_leaves hkeys
  have hopen : web.isOpen ["virtualGuests", "maxCpu"] = true := by decide +kernel
  obtain ⟨hnone, habove⟩ := Filter.isOpen_iff.1 hopen
  exact ⟨hweb, g, hg, hcaller _ _ _ rfl, hasked _ _ (.cpus rfl) hnone habove⟩

end Guests.Listing

end CloudClient
