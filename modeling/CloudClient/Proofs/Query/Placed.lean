import CloudClient.Proofs.Query.Path

/-!
# Placed — a node at the end of a dotted path

A node is put at a path name by name, and branches are made on the way.  The walk can only be
stopped by a leaf, and there is none below a branch that has just been made: so it is stopped
before anything is made, and a filter that cannot take the node is left as it is.

* `FilterNode.setAt?_eq_none_iff`: what stops the walk.
* `Filter.Holds`: which leaves a filter has, and `Filter.Holds.foldlM_set`: those that were set.
* `Filter.place_eq`: to change a filter in place is to set the node, or to leave the filter.
* `Filter.place_laws` has what can be looked up afterwards.
-/

namespace CloudClient

namespace FilterNode

variable {k : String} {path : List String} {node : FilterNode}
  {children result : Fields FilterNode}

theorem setAt?_cons (hpath : path ≠ []) :
    setAt? node (k :: path) children =
      match (Fields.find? k children).getD (.branch []) with
      | .leaf _ _ => none
      | .branch below =>
        (setAt? node path below).map fun placed => Fields.insert k (.branch placed) children := by
  rw [setAt?]
  · cases Fields.find? k children with
    | none => rfl
    | some child => cases child <;> rfl
  · exact hpath

/-- A node can be put at the end of a path unless a leaf stands on the way. -/
theorem setAt?_eq_none_iff (hpath : path ≠ []) :
    setAt? node path children = none ↔ LeafAbove path (.branch children) := by
  induction path generalizing children with
  | nil => exact absurd rfl hpath
  | cons k path ih =>
    rw [leafAbove_branch]
    cases path with
    | nil => simp [setAt?, not_leafAbove_nil]
    | cons j path =>
      have hrest := List.cons_ne_nil j path
      rw [setAt?_cons hrest]
      cases hfind : Fields.find? k children with
      | none =>
        -- in a new branch there are no leaves
        have hnew : ¬ LeafAbove (j :: path) (.branch []) := by
          rw [leafAbove_branch]
          rintro ⟨child, hchild, -⟩
          cases hchild
        simp [ih hrest, hnew]
      | some child =>
        cases child with
        | leaf op options => simp [leafAbove_leaf]
        | branch below => simp [ih hrest]

/-- Setting a node puts it, or a branch that holds it, under the first name of the path. -/
theorem exists_of_setAt? (h : setAt? node (k :: path) children = some result) :
    ∃ child, result = Fields.insert k child children ∧
      ((path = [] ∧ child = node) ∨
        (path ≠ [] ∧ ∃ below placed, (Fields.find? k children).getD (.branch []) = .branch below ∧
          setAt? node path below = some placed ∧ child = .branch placed)) := by
  by_cases hpath : path = []
  · subst hpath
    exact ⟨node, (Option.some.inj h).symm, .inl ⟨rfl, rfl⟩⟩
  · rw [setAt?_cons hpath] at h
    split at h
    · cases h
    · rename_i below hentry
      obtain ⟨placed, hplaced, rfl⟩ := Option.map_eq_some_iff.1 h
      exact ⟨.branch placed, rfl, .inr ⟨hpath, below, placed, hentry, hplaced, rfl⟩⟩

/-! ## What is there afterwards -/

theorem nodeAt?_setAt?_append (hpath : path ≠ []) (h : setAt? node path children = some result)
    (back : List String) : nodeAt? (path ++ back) (.branch result) = nodeAt? back node := by
  induction path generalizing children result with
  | nil => exact absurd rfl hpath
  | cons k path ih =>
    obtain ⟨child, rfl, hchild⟩ := exists_of_setAt? h
    rw [List.cons_append, nodeAt?, Fields.find?_insert, if_pos rfl]
    rcases hchild with ⟨rfl, rfl⟩ | ⟨hrest, below, placed, -, hplaced, rfl⟩
    · rfl
    · exact ih hrest hplaced

/-- On the way to the node there are branches. -/
theorem nodeAt?_setAt?_above {front back : List String} (hback : back ≠ [])
    (h : setAt? node (front ++ back) children = some result) :
    ∃ below, nodeAt? front (.branch result) = some (.branch below) := by
  induction front generalizing children result with
  | nil => exact ⟨result, rfl⟩
  | cons k front ih =>
    obtain ⟨child, rfl, hchild⟩ := exists_of_setAt? h
    rw [nodeAt?, Fields.find?_insert, if_pos rfl]
    rcases hchild with ⟨hnil, -⟩ | ⟨-, below, placed, -, hplaced, rfl⟩
    · exact absurd (List.append_eq_nil_iff.1 hnil).2 hback
    · exact ih hplaced

/-- Beside the path nothing changes. -/
theorem nodeAt?_setAt?_beside {other : List String} (h : setAt? node path children = some result)
    (hbehind : ¬ path <+: other) (habove : ¬ other <+: path) :
    nodeAt? other (.branch result) = nodeAt? other (.branch children) := by
  induction path generalizing other children result with
  | nil => exact absurd List.nil_prefix hbehind
  | cons k path ih =>
    cases other with
    | nil => exact absurd List.nil_prefix habove
    | cons i other =>
      obtain ⟨child, rfl, hchild⟩ := exists_of_setAt? h
      rw [nodeAt?, nodeAt?, Fields.find?_insert]
      by_cases hki : k = i
      · subst hki
        rw [if_pos rfl]
        have hbehind' : ¬ path <+: other := fun h => hbehind (List.cons_prefix_cons.2 ⟨rfl, h⟩)
        have habove' : ¬ other <+: path := fun h => habove (List.cons_prefix_cons.2 ⟨rfl, h⟩)
        rcases hchild with ⟨rfl, -⟩ | ⟨-, below, placed, hentry, hplaced, rfl⟩
        · exact absurd List.nil_prefix hbehind'
        · refine (ih hplaced hbehind' habove').trans ?_
          cases hfind : Fields.find? k children with
          | none =>
            -- the branch was made, and nothing else is in it
            rw [hfind] at hentry
            obtain rfl := branch.inj hentry
            cases other with
            | nil => exact absurd List.nil_prefix habove'
            | cons j other => rfl
          | some child =>
            rw [hfind] at hentry
            obtain rfl : child = .branch below := hentry
            rfl
      · rw [if_neg hki]

/-- Neither of two paths extends the other. -/
def PathsApart (p q : List String) : Prop := ¬ p <+: q ∧ ¬ q <+: p

instance (p q : List String) : Decidable (PathsApart p q) :=
  inferInstanceAs (Decidable (_ ∧ _))

/-- What is at any path after a leaf has been set: what was there, or a branch on the way to the
leaf, or the leaf, and nothing behind it. -/
theorem nodeAt?_setAt?_leaf_cases {op : Operation} {options : List FilterOption} (hpath : path ≠ [])
    (h : setAt? (.leaf op options) path children = some result) (other : List String) :
    (PathsApart other path ∧ nodeAt? other (.branch result) = nodeAt? other (.branch children)) ∨
    (other <+: path ∧ ∃ below, nodeAt? other (.branch result) = some (.branch below)) ∨
    (other = path ∧ nodeAt? other (.branch result) = some (.leaf op options)) ∨
    nodeAt? other (.branch result) = none := by
  have hend := nodeAt?_setAt?_append hpath h
  by_cases hbehind : path <+: other
  · obtain ⟨back, rfl⟩ := hbehind
    cases back with
    | nil => exact .inr (.inr (.inl ⟨List.append_nil path, hend []⟩))
    | cons k back => exact .inr (.inr (.inr (hend (k :: back))))
  · by_cases habove : other <+: path
    · obtain ⟨back, rfl⟩ := habove
      have hback : back ≠ [] := by
        rintro rfl
        exact hbehind ⟨[], by simp⟩
      exact .inr (.inl ⟨⟨back, rfl⟩, nodeAt?_setAt?_above hback h⟩)
    · exact .inl ⟨⟨habove, hbehind⟩, nodeAt?_setAt?_beside h hbehind habove⟩

/-! ## Changes in place -/

theorem placeAt_cons {source : String} (hpath : path ≠ []) :
    placeAt source node (k :: path) children =
      let entry := (Fields.find? k children).getD (.branch [])
      match entry with
      | .leaf _ _ => .error (QueryError.invalidPath source) (Fields.insert k entry children)
      | .branch below =>
        within k (placeAt source node path) below (Fields.insert k entry children) := by
  rw [placeAt]
  · change (match (Fields.find? k children).getD (.branch []) with
      | .leaf _ _ => throw (QueryError.invalidPath source)
      | .branch below => within k (placeAt source node path) below) _ = _
    cases (Fields.find? k children).getD (.branch []) <;> rfl
  · exact hpath

/-- A walk that is stopped leaves the nodes as they were. -/
theorem placeAt_eq {source : String} (h : (branch children).InKeyOrder) :
    placeAt source node path children =
      match setAt? node path children with
      | some result => .ok () result
      | none => .error (.invalidPath source) children := by
  induction path generalizing children with
  | nil => rfl
  | cons k path ih =>
    cases path with
    | nil => rfl
    | cons j path =>
      have hrest := List.cons_ne_nil j path
      rw [placeAt_cons hrest, setAt?_cons hrest]
      cases hfind : Fields.find? k children with
      | none =>
        -- nothing can stop the walk in a new branch
        obtain ⟨placed, hplaced⟩ : ∃ placed, setAt? node (j :: path) [] = some placed := by
          apply Option.ne_none_iff_exists'.1
          rw [ne_eq, setAt?_eq_none_iff hrest, leafAbove_branch]
          rintro ⟨child, hchild, -⟩
          cases hchild
        have hnew : (branch []).InKeyOrder := ⟨List.Pairwise.nil, trivial⟩
        simp only [Option.getD_none, within, ih hnew, hplaced, Option.map_some,
          Fields.insert_insert _ _ h.1]
      | some child =>
        have hsame := Fields.insert_of_find? h.1 hfind
        cases child with
        | leaf op options => simp only [Option.getD_some, hsame]
        | branch below =>
          have hbelow := ih (h.2.find? hfind)
          simp only [Option.getD_some, hsame, within, hbelow]
          cases setAt? node (j :: path) below with
          | none => simp only [Option.map_none, hsame]
          | some placed => rfl

end FilterNode

namespace Filter

open FilterNode (PathsApart)

variable {f : Filter}

/-- To change a filter in place is to set the node, or to leave the filter as it is. -/
theorem place_eq (hf : f.InKeyOrder) (path : String) (node : FilterNode) :
    (place path node).run f =
      match f.set path node with
      | .ok g => .ok () g
      | .error e => .error e f := by
  change place path node f = _
  unfold place set
  split
  · rfl
  · rw [FilterNode.placeAt_eq hf]
    cases FilterNode.setAt? node (segments path) f.root <;> rfl

theorem leafAbove_segments_iff {path : String} :
    f.LeafAbove (segments path) ↔
      ∃ p q op options, path = p ++ "." ++ q ∧ f.get? p = some (.leaf op options) := by
  constructor
  · rintro ⟨front, back, op, options, hback, hpath, hleaf⟩
    have hfront : front ≠ [] := by
      rintro rfl
      cases hleaf
    obtain ⟨p, q, rfl, rfl, rfl⟩ := exists_dotted hpath hfront hback
    exact ⟨p, q, op, options, rfl, (get?_eq f p).trans hleaf⟩
  · rintro ⟨p, q, op, options, rfl, hleaf⟩
    rw [get?_eq] at hleaf
    exact ⟨segments p, segments q, op, options, segments_ne_nil q, segments_append p q, hleaf⟩

/-- Nothing can be put at a path with a blank name, or behind a leaf. -/
def Refuses (f : Filter) (path : String) : Prop :=
  (∃ name ∈ segments path, Text.isBlankText name = true) ∨ f.LeafAbove (segments path)

theorem set_cases (f : Filter) (path : String) (node : FilterNode) :
    (f.Refuses path ∧ f.set path node = .error (.invalidPath path)) ∨
      (¬ f.Refuses path ∧ ∃ g, f.set path node = .ok g ∧
        FilterNode.setAt? node (segments path) f.root = some g.root) := by
  have hstop : FilterNode.setAt? node (segments path) f.root = none ↔
      f.LeafAbove (segments path) :=
    FilterNode.setAt?_eq_none_iff (segments_ne_nil path)
  unfold set
  split
  · rename_i hblank
    exact .inl ⟨.inl (List.any_eq_true.1 hblank), rfl⟩
  · rename_i hnames
    cases hroot : FilterNode.setAt? node (segments path) f.root with
    | none => exact .inl ⟨.inr (hstop.1 hroot), rfl⟩
    | some root =>
      refine .inr ⟨?_, ⟨root⟩, rfl, rfl⟩
      rintro (hname | habove)
      · exact hnames (List.any_eq_true.2 hname)
      · rw [← hstop, hroot] at habove
        cases habove

/-! ## Filters of leaves -/

/-- The filter has the given leaves at their paths, and otherwise only the branches on the way
to them. -/
structure Holds (leaves : List (List String × FilterNode)) (f : Filter) : Prop where
  keys : f.InKeyOrder
  nodeAt : ∀ e ∈ leaves, f.nodeAt? e.1 = some e.2
  leafAt : ∀ path op options, f.nodeAt? path = some (.leaf op options) →
    (path, .leaf op options) ∈ leaves
  onWay : ∀ path node, path ≠ [] → f.nodeAt? path = some node → ∃ e ∈ leaves, path <+: e.1

variable {leaves : List (List String × FilterNode)}

theorem holds_empty : Holds [] .empty where
  keys := ⟨List.Pairwise.nil, trivial⟩
  nodeAt := fun _ he => absurd he List.not_mem_nil
  leafAt := by
    intro path op options h
    cases path <;> cases h
  onWay := by
    intro path node hne h
    cases path with
    | nil => exact absurd rfl hne
    | cons k path => cases h

theorem Holds.leaf_iff (hf : Holds leaves f) {path : List String} {op : Operation}
    {options : List FilterOption} :
    f.nodeAt? path = some (.leaf op options) ↔ (path, FilterNode.leaf op options) ∈ leaves :=
  ⟨hf.leafAt path op options, hf.nodeAt _⟩

/-- Apart from its leaves a filter has nothing, and no leaf is on the way. -/
theorem Holds.open_of_apart (hf : Holds leaves f) {path : List String} (hpath : path ≠ [])
    (hapart : ∀ e ∈ leaves, PathsApart e.1 path) :
    f.nodeAt? path = none ∧ ¬ f.LeafAbove path := by
  constructor
  · cases hnode : f.nodeAt? path with
    | none => rfl
    | some node =>
      obtain ⟨e, he, hprefix⟩ := hf.onWay path node hpath hnode
      exact absurd hprefix (hapart e he).2
  · rintro ⟨front, back, op, options, -, hsplit, hleaf⟩
    exact (hapart _ (hf.leafAt _ _ _ hleaf)).1 ⟨back, hsplit.symm⟩

/-- A filter has no operation that none of its leaves has. -/
theorem Holds.hasOperation_eq_false (hf : Holds leaves f) {op : String}
    (h : ∀ e ∈ leaves, e.2.hasOperation op = false) : f.hasOperation op = false := by
  rw [Bool.eq_false_iff]
  intro hop
  obtain ⟨path, hpath⟩ := (FilterNode.hasOperation_iff hf.keys).1 hop
  rw [FilterNode.operationAt?_eq] at hpath
  obtain ⟨node, hnode, hoperation⟩ := Option.bind_eq_some_iff.1 hpath
  cases node with
  | leaf operation options =>
    cases hoperation
    have hnone := h _ (hf.leafAt path _ options hnode)
    simp [FilterNode.hasOperation] at hnone
  | branch children => cases hoperation

/-- A leaf can be set apart from those that are there. -/
theorem Holds.set (hf : Holds leaves f) {path : String} {op : Operation}
    {options : List FilterOption} (hnames : (segments path).any Text.isBlankText = false)
    (hapart : ∀ e ∈ leaves, PathsApart e.1 (segments path)) :
    ∃ g, f.set path (.leaf op options) = .ok g ∧
      Holds (leaves ++ [(segments path, .leaf op options)]) g := by
  have hpath := segments_ne_nil path
  rcases set_cases f path (.leaf op options) with ⟨hrefuses, -⟩ | ⟨-, g, hset, hroot⟩
  · exfalso
    rcases hrefuses with hblank | habove
    · rw [List.any_eq_true.2 hblank] at hnames
      cases hnames
    · exact (hf.open_of_apart hpath hapart).2 habove
  · have hcases := FilterNode.nodeAt?_setAt?_leaf_cases hpath hroot
    have hbeside (other : List String) (h : PathsApart other (segments path)) :
        g.nodeAt? other = f.nodeAt? other :=
      FilterNode.nodeAt?_setAt?_beside hroot h.2 h.1
    have hend : g.nodeAt? (segments path) = some (.leaf op options) := by
      have h := FilterNode.nodeAt?_setAt?_append hpath hroot []
      rwa [List.append_nil] at h
    have hlast : (segments path, .leaf op options) ∈ leaves ++ [(segments path, .leaf op options)] :=
      List.mem_append_right _ (List.mem_singleton_self _)
    have hleaf : (FilterNode.leaf op options).InKeyOrder := trivial
    refine ⟨g, hset, hf.keys.set hleaf hset, ?_, fun other op' options' h => ?_,
      fun other node hother h => ?_⟩
    · refine List.forall_mem_append.2 ⟨fun e he => ?_, List.forall_mem_singleton.2 hend⟩
      rw [hbeside e.1 (hapart e he)]
      exact hf.nodeAt e he
    · rcases hcases other with ⟨-, hsame⟩ | ⟨-, below, hbranch⟩ | ⟨rfl, hnew⟩ | hnone
      · exact List.mem_append_left _ (hf.leafAt _ _ _ (hsame.symm.trans h))
      · cases h.symm.trans hbranch
      · cases h.symm.trans hnew
        exact hlast
      · cases h.symm.trans hnone
    · rcases hcases other with ⟨-, hsame⟩ | ⟨habove, -⟩ | ⟨rfl, -⟩ | hnone
      · obtain ⟨e, he, hprefix⟩ := hf.onWay other node hother (hsame.symm.trans h)
        exact ⟨e, List.mem_append_left _ he, hprefix⟩
      · exact ⟨_, hlast, habove⟩
      · exact ⟨_, hlast, List.prefix_refl _⟩
      · cases h.symm.trans hnone

/-- Leaves that are set one after the other, at paths of which none extends another, are all
there, and nothing else. -/
theorem Holds.foldlM_set (hf : Holds leaves f) {entries : List (String × FilterNode)}
    (hentries : ∀ e ∈ entries, (segments e.1).any Text.isBlankText = false ∧
      ∃ op options, e.2 = .leaf op options)
    (hapart : (leaves ++ entries.map fun e => (segments e.1, e.2)).Pairwise
      fun a b => PathsApart a.1 b.1) :
    ∃ g, entries.foldlM (fun f e => f.set e.1 e.2) f = .ok g ∧
      Holds (leaves ++ entries.map fun e => (segments e.1, e.2)) g := by
  induction entries generalizing leaves f with
  | nil => exact ⟨f, rfl, by simpa using hf⟩
  | cons e r ih =>
    obtain ⟨path, node⟩ := e
    obtain ⟨⟨hnames, op, options, rfl⟩, hr⟩ := List.forall_mem_cons.1 hentries
    have hfirst : ∀ e ∈ leaves, PathsApart e.1 (segments path) := fun e he =>
      (List.pairwise_append.1 hapart).2.2 e he _ List.mem_cons_self
    obtain ⟨g, hset, hg⟩ := @Holds.set f leaves hf path op options hnames hfirst
    rw [List.map_cons, List.append_cons] at hapart ⊢
    obtain ⟨h, hfold, hh⟩ := ih hg hr hapart
    refine ⟨h, ?_, hh⟩
    rw [List.foldlM_cons, hset]
    exact hfold

/-- What changing a filter in place does.  It fails exactly if a name of the dotted path is
blank or a leaf stands on the way, and then leaves the filter as it was.  Otherwise the node is
at the path, with its own nodes behind it; on the way there are branches; and what neither
extends the path nor is on the way is what it was. -/
theorem place_laws (hf : f.InKeyOrder) (path : String) (node : FilterNode) :
    ((∃ e left, (place path node).run f = .error e left) ↔
      (∃ name ∈ segments path, Text.isBlankText name = true) ∨
        ∃ p q op options, path = p ++ "." ++ q ∧ f.get? p = some (.leaf op options)) ∧
    (∀ e left, (place path node).run f = .error e left → e = .invalidPath path ∧ left = f) ∧
    (∀ g, (place path node).run f = .ok () g →
      g.get? path = some node ∧
      (∀ q, g.get? (path ++ "." ++ q) = node.nodeAt? (segments q)) ∧
      (∀ p q, path = p ++ "." ++ q → ∃ below, g.get? p = some (.branch below)) ∧
      (∀ p, ¬ segments path <+: segments p → ¬ segments p <+: segments path →
        g.get? p = f.get? p)) := by
  rw [place_eq hf, ← leafAbove_segments_iff]
  rcases set_cases f path node with ⟨hrefuses, hset⟩ | ⟨htakes, g, hset, hroot⟩
  · rw [hset]
    refine ⟨iff_of_true ⟨_, _, rfl⟩ hrefuses, ?_, nofun⟩
    rintro e left ⟨⟩
    exact ⟨rfl, rfl⟩
  · rw [hset]
    refine ⟨iff_of_false nofun htakes, nofun, ?_⟩
    rintro g' ⟨⟩
    have hpath := segments_ne_nil path
    refine ⟨?_, fun q => ?_, fun p q hpq => ?_, fun p hbehind habove => ?_⟩
    · have hend := FilterNode.nodeAt?_setAt?_append hpath hroot []
      rw [List.append_nil] at hend
      rw [get?_eq]
      exact hend
    · rw [get?_eq, segments_append]
      exact FilterNode.nodeAt?_setAt?_append hpath hroot (segments q)
    · rw [hpq, segments_append] at hroot
      rw [get?_eq]
      exact FilterNode.nodeAt?_setAt?_above (segments_ne_nil q) hroot
    · rw [get?_eq, get?_eq]
      exact FilterNode.nodeAt?_setAt?_beside hroot hbehind habove

/-- A name behind an id is refused, and nothing is left of the attempt; beside the id it is
taken. -/
theorem place_laws_id :
    let f : Filter := ⟨[("id", .leaf (.integer 5) [])]⟩
    let web : FilterNode := .leaf (.text "_= web") []
    f.InKeyOrder ∧
      (place "id.name.first" web).run f = .error (.invalidPath "id.name.first") f ∧
      ∃ g, (place "virtualGuests.hostname" web).run f = .ok () g ∧
        g.get? "virtualGuests.hostname" = some web ∧ g.get? "id" = f.get? "id" := by
  intro f web
  have hf : f.InKeyOrder := ⟨List.pairwise_singleton _ _, trivial, trivial⟩
  have hid : segments "id" = ["id"] := by decide +kernel
  have hguests : segments "virtualGuests.hostname" = ["virtualGuests", "hostname"] := by
    decide +kernel
  refine ⟨hf, ?_, ?_⟩
  · obtain ⟨hfails, hleft, -⟩ := place_laws hf "id.name.first" web
    have hleaf : f.get? "id" = some (.leaf (.integer 5) []) := by
      rw [get?_eq, hid]
      rfl
    obtain ⟨e, left, herror⟩ :=
      hfails.2 (.inr ⟨"id", "name.first", _, _, by decide +kernel, hleaf⟩)
    obtain ⟨rfl, rfl⟩ := hleft e left herror
    exact herror
  · obtain ⟨-, -, hdone⟩ := place_laws hf "virtualGuests.hostname" web
    have hrun : ∃ g, (place "virtualGuests.hostname" web).run f = .ok () g := by
      have hset : f.set "virtualGuests.hostname" web =
          .ok ⟨[("id", .leaf (.integer 5) []), ("virtualGuests", .branch [("hostname", web)])]⟩ := by
        rw [set, hguests]
        rfl
      rw [place_eq hf, hset]
      exact ⟨_, rfl⟩
    obtain ⟨g, hg⟩ := hrun
    obtain ⟨hnode, -, -, hbeside⟩ := hdone g hg
    refine ⟨g, hg, hnode, hbeside "id" ?_ ?_⟩
    · rw [hguests, hid]
      decide +kernel
    · rw [hguests, hid]
      decide +kernel

end Filter

end CloudClient
