import CloudClient.Guests
import CloudClient.Proofs.Pages
import CloudClient.Proofs.Query.Placed

/-!
# Order — which paged listings have one

A paged listing is put into order by a leaf at the path to the id.  The caller's filter goes
over that leaf: it is kept if the filter leaves the path open, and lost if the filter has
something of its own at the id or a leaf on the way.  A listing is then in order only if the
caller's filter orders it.

* `Filter.canBeOrdered` is the condition on the caller's filter.
* `Filter.hasOperation_ordered`: the leaf is there exactly under this condition.
* `Guests.Listing.Asks` has the place and the leaf of everything that servers can be listed by.
* `Guests.Listing.ownFilter_spec`: what a listing of servers sets itself is these leaves, and
  not in the way of an order.
* `Filter.order_of_listings` has it for all pages that are fetched.
-/

namespace CloudClient

/-! ## Dotted paths -/

namespace Filter

def idPath : Option String → List String
  | none => ["id"]
  | some scope => segments scope ++ ["id"]

theorem segments_id (scope : String) : segments (scope ++ ".id") = segments scope ++ ["id"] := by
  rw [show ".id" = "." ++ "id" from rfl, ← String.append_assoc, segments_append]
  rfl

/-- Whether the names of a scope are not blank, if there is one. -/
def IsPath (scope : Option String) : Prop :=
  ∀ s, scope = some s → (segments s).any Text.isBlankText = false

/-- Whether a listing has an order under a caller's filter: the filter gives one, or leaves
the path to the id open. -/
def canBeOrdered (filter : Option Filter) (scope : Option String) : Bool :=
  let f := filter.getD .empty
  f.hasOperation "orderBy" || FilterNode.isOpen (idPath scope) (.branch f.root)

/-- The filter of one node, at a path of names that are not blank. -/
theorem set_empty {p k : String} {rest : List String} (hpath : segments p = k :: rest)
    (hnames : (segments p).any Text.isBlankText = false) (node : FilterNode) :
    Filter.empty.set p node = .ok ⟨[(k, node.under rest)]⟩ := by
  rw [set, hnames, hpath]
  simp only [Bool.false_eq_true, if_false, empty,
    FilterNode.setAt?_of_find?_eq_none (Fields.find?_nil k)]
  rfl

/-- A filter that does not order a listing goes over the leaf that does. -/
theorem ordered_eq_merge {filter : Option Filter} {scope : Option String} (hscope : IsPath scope)
    (horder : (filter.getD .empty).hasOperation "orderBy" = false) :
    ∃ k rest, idPath scope = k :: rest ∧ Filter.ordered filter scope =
      Filter.merge ⟨[(k, (Shorthand.orderBy .ascending).under rest)]⟩ (filter.getD .empty) := by
  cases scope with
  | none =>
    have hpath : segments "id" = ["id"] := by decide +kernel
    refine ⟨"id", [], rfl, ?_⟩
    simp only [ordered, horder, Bool.false_eq_true, if_false]
    rw [set_empty hpath (hpath ▸ rfl)]
  | some s =>
    have hpath := segments_id s
    have hnames : (segments (s ++ ".id")).any Text.isBlankText = false := by
      rw [hpath, List.any_append, hscope s rfl]
      rfl
    obtain ⟨k, rest, hsplit⟩ : ∃ k rest, segments s ++ ["id"] = k :: rest :=
      List.exists_cons_of_ne_nil (by simp)
    refine ⟨k, rest, hsplit, ?_⟩
    simp only [ordered, horder, Bool.false_eq_true, if_false]
    rw [set_empty (hpath.trans hsplit) hnames]

theorem inKeyOrder_getD {filter : Option Filter} (h : ∀ f, filter = some f → f.InKeyOrder) :
    (filter.getD .empty).InKeyOrder := by
  cases filter with
  | none => exact ⟨List.Pairwise.nil, trivial⟩
  | some f => exact h f rfl

/-- The filter of a listing orders it exactly if the caller's filter allows it. -/
theorem hasOperation_ordered {filter : Option Filter} {scope : Option String}
    (hscope : IsPath scope) (hkeys : (filter.getD .empty).InKeyOrder) :
    (Filter.ordered filter scope).hasOperation "orderBy" = canBeOrdered filter scope := by
  cases horder : (filter.getD .empty).hasOperation "orderBy" with
  | true => simp [ordered, canBeOrdered, horder]
  | false =>
    obtain ⟨k, rest, hid, heq⟩ := ordered_eq_merge hscope horder
    rw [heq, canBeOrdered, horder, hid, Bool.false_or, Bool.eq_iff_iff]
    -- the only leaf below the caller's filter is at the path to the id
    have hleaf : (Shorthand.orderBy .ascending).InKeyOrder := trivial
    have hmerge := FilterNode.hasOperation_merge "orderBy"
      (FilterNode.inKeyOrder_under hleaf (k :: rest)) hkeys
    refine hmerge.trans ?_
    have htheirs : (FilterNode.branch (filter.getD .empty).root).hasOperation "orderBy" = false :=
      horder
    simp only [htheirs, Bool.false_eq_true, false_or, Shorthand.orderBy,
      FilterNode.operationAt?_under]
    constructor
    · rintro ⟨path, hpath, hopen⟩
      split at hpath
      · rename_i heq
        exact heq ▸ hopen
      · cases hpath
    · exact fun hopen => ⟨k :: rest, if_pos rfl, hopen⟩

end Filter

/-! ## Pages -/

/-- Every call for items of a listing is for one of its pages. -/
theorem Pager.page_of_runs {call : Call} {n : Nat} {p : Pager} {made : List (Call × CallResult)}
    {out : List (Except Failure Json)} (h : (Pager.plan call n p).Runs made out) :
    ∀ x ∈ made, ∃ offset limit, x.1 = call.page offset limit := by
  induction n generalizing p made out with
  | zero =>
    obtain ⟨rfl, -⟩ := Plan.runs_done.1 h
    exact fun x hx => absurd hx List.not_mem_nil
  | succ n ih =>
    obtain ⟨first, ⟨item, q⟩, rest, rfl, hfirst, hrest⟩ := Plan.runs_bind.1 h
    have hpoll : ∀ x ∈ first, x.1 = call.page p.offset p.limit := by
      unfold poll at hfirst
      split at hfirst
      · obtain ⟨rfl, -⟩ := Plan.runs_done.1 hfirst
        exact fun x hx => absurd hx List.not_mem_nil
      · obtain ⟨r, last, rfl, hlast⟩ := Plan.runs_ask.1 hfirst
        have hnone : last = [] := by
          cases r with
          | ok r => exact (Plan.runs_done.1 hlast).1
          | error e => exact (Plan.runs_done.1 hlast).1
        subst hnone
        exact fun x hx => congrArg Prod.fst (List.mem_singleton.1 hx)
    intro x hx
    rcases List.mem_append.1 hx with hx | hx
    · exact ⟨_, _, hpoll x hx⟩
    · cases item with
      | none =>
        obtain ⟨rfl, -⟩ := Plan.runs_done.1 hrest
        exact absurd hx List.not_mem_nil
      | some item =>
        obtain ⟨later, hlater, -⟩ := Plan.runs_map.1 hrest
        exact ih hlater x hx

theorem Procedure.page_of_runs_items {call : Call} {n : Nat} {made : List (Call × CallResult)}
    {result : Except Failure (List (Except Failure Json))}
    (h : (Procedure.items call n).Runs made result) :
    ∀ x ∈ made, ∃ offset limit, x.1 = call.page offset limit := by
  cases hp : call.pager with
  | error e =>
    rw [Procedure.items, hp] at h
    obtain ⟨rfl, -⟩ := Plan.runs_done.1 h
    exact fun x hx => absurd hx List.not_mem_nil
  | ok p =>
    obtain ⟨out, hout, -⟩ := Procedure.runs_items hp h
    exact Pager.page_of_runs hout

theorem Procedure.page_of_runs_listing {call : Call} {made : List (Call × CallResult)}
    {result : Except Failure (List Json)} (h : (Procedure.listing call).Runs made result) :
    ∀ x ∈ made, ∃ offset limit, x.1 = call.page offset limit := by
  cases hp : call.pager with
  | error e =>
    rw [Procedure.listing, hp] at h
    obtain ⟨rfl, -⟩ := Plan.runs_done.1 h
    exact fun x hx => absurd hx List.not_mem_nil
  | ok p =>
    rw [Procedure.listing, hp] at h
    obtain ⟨out, hout, -⟩ := Plan.runs_map.1 h
    exact Pager.page_of_runs hout

/-! ## Listings of servers -/

namespace Shorthand

/-- An operation that users type orders nothing, as it has a blank after its operator. -/
theorem apply_ne_orderBy (op : String) (operand : List Char) :
    apply op operand ≠ .text "orderBy" := by
  intro h
  have htext : op ++ " " ++ String.ofList operand = "orderBy" := Operation.text.inj h
  have hblank : ' ' ∈ (op ++ " " ++ String.ofList operand).toList := by
    simp [String.toList_append]
  rw [htext] at hblank
  revert hblank
  decide

theorem wildcard_ne_orderBy (cs : List Char) : wildcard cs ≠ .text "orderBy" := by
  unfold wildcard
  dsimp only
  split
  · exact apply_ne_orderBy _ _
  · split
    · exact apply_ne_orderBy _ _
    · split
      · exact apply_ne_orderBy _ _
      · exact apply_ne_orderBy _ _

theorem hasOperation_text (query : String) : (text query).hasOperation "orderBy" = false := by
  refine decide_eq_false ?_
  unfold operation
  dsimp only
  split
  · exact nofun
  · split
    · exact apply_ne_orderBy _ _
    · exact wildcard_ne_orderBy _

end Shorthand

namespace Guests.Listing

def paths : List String :=
  ["tagReferences.tag.name", "maxCpu", "maxMemory", "hostname", "domain", "localDiskFlag",
    "datacenter.name", "networkComponents.maxSpeed", "primaryIpAddress",
    "primaryBackendIpAddress"]

theorem sublist_paths (l : Listing) : (l.leaves.map Prod.fst).Sublist paths := by
  have hopt {α : Type} (x : Option α) (path : String) (node : α → FilterNode) :
      ((x.map fun a => (path, node a)).toList.map Prod.fst).Sublist [path] := by
    cases x with
    | none => exact List.nil_sublist _
    | some a => exact List.Sublist.refl _
  change List.Sublist _ (["tagReferences.tag.name"] ++ ["maxCpu"] ++ ["maxMemory"] ++
    ["hostname"] ++ ["domain"] ++ ["localDiskFlag"] ++ ["datacenter.name"] ++
    ["networkComponents.maxSpeed"] ++ ["primaryIpAddress"] ++ ["primaryBackendIpAddress"])
  simp only [leaves, List.map_append]
  iterate 9 refine List.Sublist.append ?_ (hopt _ _ _)
  split
  · exact List.nil_sublist _
  · exact List.Sublist.refl _

/-- The leaves of what is set, at their whole paths. -/
def entries (l : Listing) : List (List String × FilterNode) :=
  l.leaves.map fun e => (Filter.segments (scope ++ "." ++ e.1), e.2)

/-- The names on the way to these properties. -/
def names : List (List String) :=
  [["virtualGuests", "tagReferences", "tag", "name"], ["virtualGuests", "maxCpu"],
    ["virtualGuests", "maxMemory"], ["virtualGuests", "hostname"], ["virtualGuests", "domain"],
    ["virtualGuests", "localDiskFlag"], ["virtualGuests", "datacenter", "name"],
    ["virtualGuests", "networkComponents", "maxSpeed"], ["virtualGuests", "primaryIpAddress"],
    ["virtualGuests", "primaryBackendIpAddress"]]

theorem segments_paths :
    paths.map (fun path => Filter.segments (scope ++ "." ++ path)) = names := by
  decide +kernel

/-- What a listing is asked for, as the leaf that its filter has to have and the place of the
leaf. -/
inductive Asks (l : Listing) : List String → FilterNode → Prop where
  | tags : l.tags ≠ [] → Asks l ["virtualGuests", "tagReferences", "tag", "name"]
      (Shorthand.among (l.tags.map Json.str))
  | cpus {n : Nat} : l.cpus = some n →
      Asks l ["virtualGuests", "maxCpu"] (Shorthand.integer n)
  | memory {n : Nat} : l.memory = some n →
      Asks l ["virtualGuests", "maxMemory"] (Shorthand.integer n)
  | hostname {s : String} : l.hostname = some s →
      Asks l ["virtualGuests", "hostname"] (Shorthand.text s)
  | domain {s : String} : l.domain = some s →
      Asks l ["virtualGuests", "domain"] (Shorthand.text s)
  | localDisk {b : Bool} : l.localDisk = some b →
      Asks l ["virtualGuests", "localDiskFlag"] (Shorthand.boolean b)
  | datacenter {s : String} : l.datacenter = some s →
      Asks l ["virtualGuests", "datacenter", "name"] (Shorthand.text s)
  | nicSpeed {n : Nat} : l.nicSpeed = some n →
      Asks l ["virtualGuests", "networkComponents", "maxSpeed"] (Shorthand.integer n)
  | publicIp {s : String} : l.publicIp = some s →
      Asks l ["virtualGuests", "primaryIpAddress"] (Shorthand.text s)
  | privateIp {s : String} : l.privateIp = some s →
      Asks l ["virtualGuests", "primaryBackendIpAddress"] (Shorthand.text s)

/-- What a listing sets is what it is asked for. -/
theorem mem_entries_iff {l : Listing} {path : List String} {node : FilterNode} :
    (path, node) ∈ l.entries ↔ l.Asks path node := by
  have hpaths := segments_paths
  simp only [paths, names, List.map_cons, List.map_nil, List.cons.injEq, and_true] at hpaths
  have hopt {α : Type} (x : Option α) (name : String) (leaf : α → FilterNode) :
      (path, node) ∈ (x.map fun a => (name, leaf a)).toList.map
          (fun e => (Filter.segments (scope ++ "." ++ e.1), e.2)) ↔
        ∃ a, x = some a ∧ Filter.segments (scope ++ "." ++ name) = path ∧ leaf a = node := by
    cases x <;> simp [eq_comm]
  simp only [entries, leaves, List.map_append, List.mem_append, hopt, hpaths]
  constructor
  · rintro (((((((((h | h) | h) | h) | h) | h) | h) | h) | h) | h)
    · split at h
      · cases h
      · rename_i htags
        obtain ⟨rfl, rfl⟩ := Prod.mk.inj (List.mem_singleton.1 h)
        rw [hpaths.1]
        exact .tags (mt List.isEmpty_iff.2 htags)
    · obtain ⟨n, hn, rfl, rfl⟩ := h
      exact .cpus hn
    · obtain ⟨n, hn, rfl, rfl⟩ := h
      exact .memory hn
    · obtain ⟨s, hs, rfl, rfl⟩ := h
      exact .hostname hs
    · obtain ⟨s, hs, rfl, rfl⟩ := h
      exact .domain hs
    · obtain ⟨b, hb, rfl, rfl⟩ := h
      exact .localDisk hb
    · obtain ⟨s, hs, rfl, rfl⟩ := h
      exact .datacenter hs
    · obtain ⟨n, hn, rfl, rfl⟩ := h
      exact .nicSpeed hn
    · obtain ⟨s, hs, rfl, rfl⟩ := h
      exact .publicIp hs
    · obtain ⟨s, hs, rfl, rfl⟩ := h
      exact .privateIp hs
  · intro h
    cases h with
    | tags htags => simp [htags, hpaths.1]
    | cpus h => simp [h]
    | memory h => simp [h]
    | hostname h => simp [h]
    | domain h => simp [h]
    | localDisk h => simp [h]
    | datacenter h => simp [h]
    | nicSpeed h => simp [h]
    | publicIp h => simp [h]
    | privateIp h => simp [h]

/-- What a listing is asked for is a leaf, and orders nothing. -/
theorem Asks.leaf {l : Listing} {path : List String} {node : FilterNode} (h : l.Asks path node) :
    (∃ op options, node = .leaf op options) ∧ node.hasOperation "orderBy" = false := by
  cases h with
  | tags => exact ⟨⟨_, _, rfl⟩, rfl⟩
  | cpus => exact ⟨⟨_, _, rfl⟩, rfl⟩
  | memory => exact ⟨⟨_, _, rfl⟩, rfl⟩
  | hostname => exact ⟨⟨_, _, rfl⟩, Shorthand.hasOperation_text _⟩
  | domain => exact ⟨⟨_, _, rfl⟩, Shorthand.hasOperation_text _⟩
  | localDisk => exact ⟨⟨_, _, rfl⟩, rfl⟩
  | datacenter => exact ⟨⟨_, _, rfl⟩, Shorthand.hasOperation_text _⟩
  | nicSpeed => exact ⟨⟨_, _, rfl⟩, rfl⟩
  | publicIp => exact ⟨⟨_, _, rfl⟩, Shorthand.hasOperation_text _⟩
  | privateIp => exact ⟨⟨_, _, rfl⟩, Shorthand.hasOperation_text _⟩

theorem idPath_scope : Filter.idPath (some scope) = ["virtualGuests", "id"] := by
  decide +kernel

/-- No path of a property extends another or the path to the id. -/
theorem apart_names :
    names.Pairwise FilterNode.PathsApart ∧
      ∀ p ∈ names, FilterNode.PathsApart p ["virtualGuests", "id"] := by
  decide +kernel

theorem sublist_names (l : Listing) : (l.entries.map Prod.fst).Sublist names := by
  have h := l.sublist_paths.map fun path => Filter.segments (scope ++ "." ++ path)
  rw [segments_paths, List.map_map] at h
  rw [entries, List.map_map]
  exact h

theorem apart_entries (l : Listing) :
    l.entries.Pairwise (fun a b => FilterNode.PathsApart a.1 b.1) ∧
      ∀ e ∈ l.entries, FilterNode.PathsApart e.1 (Filter.idPath (some scope)) := by
  refine ⟨List.pairwise_map.1 (apart_names.1.sublist l.sublist_names), fun e he => ?_⟩
  rw [idPath_scope]
  exact apart_names.2 e.1 (l.sublist_names.subset (List.mem_map_of_mem he))

/-- What a listing sets itself can be set, and is all that its own filter has. -/
theorem ownFilter_holds (l : Listing) :
    ∃ own, l.ownFilter = .ok own ∧ Filter.Holds l.entries own := by
  have hnames : ∀ p ∈ names, p.any Text.isBlankText = false := by decide +kernel
  have hentries : ∀ e ∈ l.leaves.map fun e => (scope ++ "." ++ e.1, e.2),
      (Filter.segments e.1).any Text.isBlankText = false ∧
        ∃ op options, e.2 = .leaf op options := by
    refine List.forall_mem_map.2 fun e he => ?_
    have hentry : (Filter.segments (scope ++ "." ++ e.1), e.2) ∈ l.entries :=
      List.mem_map_of_mem he
    exact ⟨hnames _ (l.sublist_names.subset (List.mem_map_of_mem hentry)),
      (mem_entries_iff.1 hentry).leaf.1⟩
  have hmap : (l.leaves.map fun e => (scope ++ "." ++ e.1, e.2)).map
      (fun e => (Filter.segments e.1, e.2)) = l.entries := by
    rw [List.map_map]
    rfl
  have hset := Filter.holds_empty.foldlM_set hentries
    (by rw [hmap, List.nil_append]; exact l.apart_entries.1)
  rw [hmap, List.nil_append, List.foldlM_map] at hset
  exact hset

/-- What a listing sets itself is all that its own filter has.  It orders nothing, and is not at
the id. -/
theorem ownFilter_spec (l : Listing) :
    ∃ own, l.ownFilter = .ok own ∧ Filter.Holds l.entries own ∧
      own.hasOperation "orderBy" = false ∧
      FilterNode.isOpen (Filter.idPath (some scope)) (.branch own.root) = true := by
  obtain ⟨own, hown, hholds⟩ := l.ownFilter_holds
  refine ⟨own, hown, hholds, hholds.hasOperation_eq_false ?_, FilterNode.isOpen_iff.2 ?_⟩
  · exact fun e he => (mem_entries_iff.1 he).leaf.2
  · exact hholds.open_of_apart (by simp [Filter.idPath]) l.apart_entries.2

theorem toFilter_eq {l : Listing} {own : Filter} (h : l.ownFilter = .ok own) :
    l.toFilter =
      .ok (Filter.ordered (some (own.merge (l.filter.getD .empty))) (some scope)) := by
  rw [toFilter, h]
  cases l.filter <;> rfl

theorem isPath_scope : Filter.IsPath (some scope) := by
  rintro s ⟨⟩
  decide +kernel

/-- The filter of a listing orders it exactly if the caller's filter allows it. -/
theorem hasOperation_toFilter (l : Listing) (hkeys : ∀ f, l.filter = some f → f.InKeyOrder) :
    ∃ g, l.toFilter = .ok g ∧
      g.hasOperation "orderBy" = Filter.canBeOrdered l.filter (some scope) := by
  obtain ⟨own, hown, hholds, hownNone, hownOpen⟩ := l.ownFilter_spec
  have hf := Filter.inKeyOrder_getD hkeys
  have horder := @Filter.hasOperation_ordered (some (own.merge (l.filter.getD .empty))) _
    isPath_scope (hholds.keys.merge hf)
  refine ⟨_, toFilter_eq hown, ?_⟩
  rw [horder]
  simp only [Filter.canBeOrdered, Option.getD_some]
  generalize l.filter.getD .empty = f at hf
  -- nothing of its own is an order, or in the way of one
  have hsame : (own.merge f).hasOperation "orderBy" = f.hasOperation "orderBy" :=
    FilterNode.hasOperation_merge_of_none hholds.keys hf hownNone
  have hopen : FilterNode.isOpen (Filter.idPath (some scope)) (.branch (own.merge f).root) =
      FilterNode.isOpen (Filter.idPath (some scope)) (.branch f.root) :=
    FilterNode.isOpen_merge hf hownOpen
  rw [hsame, hopen]

end Guests.Listing

/-- A listing that its filter orders keeps this filter on every page. -/
theorem Guests.filter_of_runs_list {l : Guests.Listing} {g : Filter} (hg : l.toFilter = .ok g)
    (horder : g.hasOperation "orderBy" = true) {made : List (Call × CallResult)}
    {result : Except Failure (List Json)} (h : (Guests.list l).Runs made result) :
    ∀ x ∈ made, x.1.options.filter = some g := by
  rw [Guests.list, hg] at h
  intro x hx
  obtain ⟨offset, limit, hpage⟩ := Procedure.page_of_runs_listing h x hx
  rw [hpage]
  simp [Call.page, Filter.ordered, horder]

namespace Filter

/-- Which listings have an order: those with a filter that allows it.  This is so of the
filter, of every page that a client fetches, and of every listing of servers. -/
theorem order_of_listings {filter : Option Filter} {scope : Option String}
    (hscope : IsPath scope) (hkeys : ∀ f, filter = some f → f.InKeyOrder) :
    (Filter.ordered filter scope).hasOperation "orderBy" = canBeOrdered filter scope ∧
    (∀ call count made result, call.options.filter = filter →
      Naming.listingScope call.method = scope → (Procedure.items call count).Runs made result →
      ∀ x ∈ made, ∃ g, x.1.options.filter = some g ∧
        g.hasOperation "orderBy" = canBeOrdered filter scope) ∧
    (∀ l : Guests.Listing, l.filter = filter → scope = some Guests.Listing.scope →
      ∃ g, l.toFilter = .ok g ∧ g.hasOperation "orderBy" = canBeOrdered filter scope ∧
        (canBeOrdered filter scope = true → ∀ made result, (Guests.list l).Runs made result →
          ∀ x ∈ made, x.1.options.filter = some g)) := by
  have hordered := hasOperation_ordered hscope (inKeyOrder_getD hkeys)
  refine ⟨hordered, ?_, ?_⟩
  · rintro call count made result rfl rfl hrun x hx
    obtain ⟨offset, limit, hpage⟩ := Procedure.page_of_runs_items hrun x hx
    rw [hpage]
    exact ⟨_, rfl, hordered⟩
  · rintro l rfl rfl
    obtain ⟨g, hg, horder⟩ := l.hasOperation_toFilter hkeys
    refine ⟨g, hg, horder, fun hcan made result hrun => ?_⟩
    exact Guests.filter_of_runs_list hg (horder.trans hcan) hrun

/-- Servers with a host name are listed in order. -/
theorem order_of_listings_hostname :
    let named : Filter := .only "virtualGuests" ["hostname"] (Shorthand.text "web")
    IsPath (some "virtualGuests") ∧ named.InKeyOrder ∧
      (Filter.ordered (some named) (some "virtualGuests")).hasOperation "orderBy" = true := by
  intro named
  have hscope : IsPath (some "virtualGuests") := by
    rintro s ⟨⟩
    decide +kernel
  have hleaf : (Shorthand.text "web").InKeyOrder := trivial
  have hnamed : named.InKeyOrder :=
    FilterNode.inKeyOrder_under hleaf ["virtualGuests", "hostname"]
  have hcan : canBeOrdered (some named) (some "virtualGuests") = true := by decide +kernel
  have hkeys : ∀ f, some named = some f → f.InKeyOrder := by
    rintro f ⟨⟩
    exact hnamed
  exact ⟨hscope, hnamed, (order_of_listings hscope hkeys).1.trans hcan⟩

/-- A filter on the id takes the place of the order, even one that says nothing. -/
theorem unordered_at_id :
    let five : Filter := .only "id" [] (Shorthand.integer 5)
    let blank : Filter := .only "id" [] (.branch [])
    let call : Call :=
      ⟨"Account", "getAllObjects", [], { CallOptions.none with filter := some five }⟩
    (Filter.ordered (some five) none).hasOperation "orderBy" = false ∧
      (Filter.ordered (some blank) none).hasOperation "orderBy" = false ∧
      ((call.page 0 100).options.filter.getD .empty).hasOperation "orderBy" = false := by
  decide +kernel

end Filter

end CloudClient
