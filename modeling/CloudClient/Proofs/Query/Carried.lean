import CloudClient.Proofs.Query.Acceptance
import CloudClient.Proofs.Query.Path

/-!
# Carried — what of a value is in the filter that it is read as

A branch is read with all its members.  A leaf is read for its operation and its options, and
whatever else stands in the object, a condition of its own even, is passed over without a word.
So a value is written again as it was exactly if its leaves hold nothing else; options that are
null or an empty list are not written in any case.

* `FilterNode.tidy` is the value without such options.
* `FilterNode.IsPlain`: an object with nothing but an operation and its options.
* `FilterNode.toJson_eq_tidy_iff`: which values are written as they were.
* `Filter.carried_iff` has it for whole filters, with what is kept in any case.
-/

namespace CloudClient

namespace Fields

variable {α : Type} {fs : Fields α}

theorem find?_filter {k : String} {p : String × α → Bool} (h : Sorted fs) :
    find? k (fs.filter p) = (find? k fs).filter fun v => p (k, v) := by
  induction fs with
  | nil => rfl
  | cons e r ih =>
    obtain ⟨j, v⟩ := e
    have hrest := ih (List.pairwise_cons.1 h).2
    rw [List.filter_cons, find?]
    by_cases hjk : j = k
    · subst hjk
      rw [find?_of_sorted_cons h] at hrest
      rw [if_pos rfl]
      by_cases hp : p (j, v) = true
      · rw [if_pos hp, find?, if_pos rfl, Option.filter_some, if_pos hp]
      · rw [if_neg hp, hrest, Option.filter_some, if_neg hp]
        rfl
    · rw [if_neg hjk]
      split
      · rw [find?, if_neg hjk, hrest]
      · exact hrest

theorem sorted_filter {p : String × α → Bool} (h : Sorted fs) : Sorted (fs.filter p) :=
  List.Pairwise.filter p h

end Fields

theorem Operation.toJson_of_ofJson? {v : Json} {op : Operation} (h : ofJson? v = some op) :
    op.toJson = v := by
  unfold ofJson? at h
  split at h
  · cases h
    rfl
  · cases h
    rfl
  · obtain ⟨i, hi, rfl⟩ := Option.map_eq_some_iff.1 h
    unfold Json.i64? at hi
    split at hi
    · split at hi
      · cases hi
        rfl
      · cases hi
    · cases hi

namespace FilterOption

/-- Options that say nothing: null and the empty list. -/
def isIdle : Json → Bool
  | .null => true
  | .arr [] => true
  | _ => false

/-- Options that are read are missing or idle, or a list. -/
theorem listOfJson?_cases {written : Option Json} {options : List FilterOption}
    (h : listOfJson? written = some options) :
    (options = [] ∧ ∀ v ∈ written, isIdle v = true) ∨
      ∃ item items, written = some (.arr (item :: items)) ∧
        (item :: items).mapM ofJson? = some options := by
  unfold listOfJson? at h
  split at h
  · cases h
    exact .inl ⟨rfl, nofun⟩
  · cases h
    refine .inl ⟨rfl, ?_⟩
    rintro v ⟨⟩
    rfl
  · rename_i items
    cases items with
    | nil =>
      cases h
      refine .inl ⟨rfl, ?_⟩
      rintro v ⟨⟩
      rfl
    | cons item items => exact .inr ⟨item, items, rfl, h⟩
  · cases h

/-- Options that have just a name and values are written as they were. -/
theorem map_toJson_of_mapM {items : List Json} {options : List FilterOption}
    (h : items.mapM ofJson? = some options)
    (hplain : ∀ item ∈ items, ∃ o : FilterOption, item = o.toJson) :
    options.map toJson = items := by
  induction items generalizing options with
  | nil =>
    cases h
    rfl
  | cons item r ih =>
    obtain ⟨⟨o, rfl⟩, hr⟩ := List.forall_mem_cons.1 hplain
    rw [List.mapM_cons, ofJson?_toJson] at h
    cases hrest : r.mapM ofJson? with
    | none =>
      rw [hrest] at h
      cases h
    | some rest =>
      rw [hrest] at h
      cases h
      rw [List.map_cons, ih hrest hr]

end FilterOption

namespace FilterNode

/-! ## Values without idle options -/

mutual

/-- The value without the idle options of its leaves. -/
def tidy : Json → Json
  | .obj members =>
    match Fields.find? "operation" members with
    | some _ => .obj (members.filter fun e => !(e.1 == "options" && FilterOption.isIdle e.2))
    | none => .obj (tidyMembers members)
  | v => v

def tidyMembers : List (String × Json) → List (String × Json)
  | [] => []
  | (k, v) :: r => (k, tidy v) :: tidyMembers r

end

/-- An object with nothing but an operation and options, each of them an object with just its
name and its values. -/
structure IsPlain (members : List (String × Json)) : Prop where
  names : ∀ e ∈ members, e.1 = "operation" ∨ e.1 = "options"
  options : ∀ items, Fields.find? "options" members = some (.arr items) →
    ∀ item ∈ items, ∃ o : FilterOption, item = o.toJson

def LeavesPlain (v : Json) : Prop :=
  ∀ path members op, Reached v path (.obj members) →
    Fields.find? "operation" members = some op → IsPlain members

/-! ## Leaves -/

/-- The members of the wire form of a leaf. -/
def leafMembers (op : Operation) (options : List FilterOption) : Fields Json :=
  ("operation", op.toJson) ::
    if options.isEmpty then [] else [("options", .arr (options.map FilterOption.toJson))]

theorem leafJson_eq (op : Operation) (options : List FilterOption) :
    leafJson op options = .obj (leafMembers op options) := by
  cases options <;> rfl

theorem sorted_leafMembers (op : Operation) (options : List FilterOption) :
    Fields.Sorted (leafMembers op options) := by
  cases options with
  | nil => exact List.pairwise_singleton _ _
  | cons o r => exact List.pairwise_pair.2 (show "operation" < "options" by decide +kernel)

theorem find?_leafMembers {k : String} (op : Operation) (options : List FilterOption) :
    Fields.find? k (leafMembers op options) =
      if k = "operation" then some op.toJson
      else if k = "options" ∧ options ≠ [] then some (.arr (options.map FilterOption.toJson))
      else none := by
  by_cases hop : k = "operation"
  · subst hop
    cases options <;> rfl
  · rw [leafMembers, Fields.find?, if_neg (Ne.symm hop), if_neg hop]
    cases options with
    | nil => simp
    | cons o r => by_cases hk : k = "options" <;> simp [Fields.find?, hk, Ne.symm]

theorem mem_leafMembers {op : Operation} {options : List FilterOption} {e : String × Json}
    (h : e ∈ leafMembers op options) : e.1 = "operation" ∨ e.1 = "options" := by
  cases options with
  | nil => exact .inl (congrArg Prod.fst (List.mem_singleton.1 h))
  | cons o r =>
    rcases List.mem_cons.1 h with h | h
    · exact .inl (congrArg Prod.fst h)
    · exact .inr (congrArg Prod.fst (List.mem_singleton.1 h))

/-- A leaf is written as it was, but for idle options, exactly if it is plain. -/
theorem leafJson_eq_tidy_iff {members : List (String × Json)} {op : Json} {operation : Operation}
    {options : List FilterOption} (hsorted : Fields.Sorted members)
    (hop : Fields.find? "operation" members = some op)
    (hoperation : Operation.ofJson? op = some operation)
    (hoptions : FilterOption.listOfJson? (Fields.find? "options" members) = some options) :
    leafJson operation options = tidy (.obj members) ↔ IsPlain members := by
  have hcases := FilterOption.listOfJson?_cases hoptions
  rw [leafJson_eq, tidy, hop]
  dsimp only
  constructor
  · intro h
    have hsame := Json.obj.inj h
    refine ⟨fun e he => ?_, fun items hitems item hitem => ?_⟩
    · by_cases hk : e.1 = "options"
      · exact .inr hk
      · apply mem_leafMembers
        rw [hsame]
        exact List.mem_filter.2 ⟨he, by simp [hk]⟩
    · rcases hcases with ⟨-, hidle⟩ | ⟨first, rest, hwritten, -⟩
      · -- an idle list has no items
        have hnil := hidle _ hitems
        cases items with
        | nil => cases hitem
        | cons first rest => cases hnil
      · obtain ⟨⟩ := hwritten.symm.trans hitems
        have hfind := congrArg (Fields.find? "options") hsame
        rw [find?_leafMembers, Fields.find?_filter hsorted, hwritten] at hfind
        change _ = some (Json.arr (first :: rest)) at hfind
        rw [if_neg (by decide)] at hfind
        split at hfind
        · rw [← Json.arr.inj (Option.some.inj hfind)] at hitem
          obtain ⟨o, -, rfl⟩ := List.mem_map.1 hitem
          exact ⟨o, rfl⟩
        · cases hfind
  · intro hplain
    congr 1
    apply Fields.ext_find? (sorted_leafMembers _ _) (Fields.sorted_filter hsorted)
    intro k
    rw [find?_leafMembers, Fields.find?_filter hsorted]
    by_cases hk : k = "operation"
    · subst hk
      rw [if_pos rfl, hop, Operation.toJson_of_ofJson? hoperation]
      rfl
    · rw [if_neg hk]
      by_cases hko : k = "options"
      · subst hko
        rcases hcases with ⟨rfl, hidle⟩ | ⟨first, rest, hwritten, hread⟩
        · rw [if_neg (by simp)]
          cases hfind : Fields.find? "options" members with
          | none => rfl
          | some v => simp [Option.filter_some, hidle v hfind]
        · have hitems := FilterOption.map_toJson_of_mapM hread (hplain.options _ hwritten)
          have hne : options ≠ [] := by
            rintro rfl
            cases hitems
          rw [if_pos ⟨rfl, hne⟩, hitems, hwritten]
          rfl
      · -- no other name is in the object
        have hnone : Fields.find? k members = none := by
          apply Fields.find?_eq_none
          intro hmem
          obtain ⟨e, he, rfl⟩ := List.mem_map.1 hmem
          exact (hplain.names e he).elim hk hko
        rw [if_neg fun h => hko h.1, hnone]
        rfl

/-! ## Trees -/

theorem leavesPlain_leaf {members : List (String × Json)} {op : Json}
    (hop : Fields.find? "operation" members = some op) :
    LeavesPlain (.obj members) ↔ IsPlain members := by
  constructor
  · exact fun h => h [] members op (.root _) hop
  · intro hplain path members' op' hw
    cases hw with
    | root => exact fun _ => hplain
    | member hbranch =>
      rw [hop] at hbranch
      cases hbranch

theorem leavesPlain_branch {members : List (String × Json)}
    (hbranch : Fields.find? "operation" members = none) :
    LeavesPlain (.obj members) ↔ ∀ e ∈ members, LeavesPlain e.2 := by
  constructor
  · exact fun h e he path members' op hw => h (e.1 :: path) members' op (.member hbranch he hw)
  · intro h path members' op hw hop
    cases hw with
    | root =>
      rw [hbranch] at hop
      cases hop
    | member _ hk hchild => exact h _ hk _ _ _ hchild hop

/-- Members are written as they were if each of them is. -/
theorem childrenToJson_eq_tidyMembers_iff {path : String} {members : List (String × Json)}
    {children : List (String × FilterNode)} (h : childrenOfJson path members = .ok children)
    (hmembers : ∀ e ∈ members, ∀ path node, ofJson path e.2 = .ok node →
      (node.toJson = tidy e.2 ↔ LeavesPlain e.2)) :
    childrenToJson children = tidyMembers members ↔ ∀ e ∈ members, LeavesPlain e.2 := by
  induction members generalizing children with
  | nil =>
    cases h
    exact iff_of_true rfl fun e he => absurd he List.not_mem_nil
  | cons m r ih =>
    obtain ⟨k, v⟩ := m
    obtain ⟨hv, hr⟩ := List.forall_mem_cons.1 hmembers
    rw [childrenOfJson] at h
    split at h
    · cases h
    · rename_i node hnode
      split at h
      · cases h
      · rename_i rest hrest
        cases h
        rw [childrenToJson, tidyMembers, List.forall_mem_cons, ← hv _ node hnode, ← ih hrest hr,
          List.cons.injEq, Prod.mk.injEq]
        exact and_congr_left' (and_iff_right rfl)

/-- A value that is read is written as it was, but for idle options, exactly if all its leaves
are plain. -/
theorem toJson_eq_tidy_iff {v : Json} (hv : v.Ordered) {path : String} {node : FilterNode}
    (h : ofJson path v = .ok node) : node.toJson = tidy v ↔ LeavesPlain v := by
  induction v using Json.induct generalizing path node with
  | other v hobj =>
    rcases ofJson_cases path v with ⟨-, reason, herror⟩ | ⟨-, members, _, _, _, rfl, -⟩ |
      ⟨members, rfl, -⟩
    · rw [h] at herror
      cases herror
    · cases hobj
    · cases hobj
  | obj members ih =>
    rcases ofJson_cases path (.obj members) with ⟨-, reason, herror⟩ |
      ⟨-, _, op, operation, options, ⟨⟩, hop, hoperation, hoptions, hread⟩ |
      ⟨_, ⟨⟩, hbranch, hread⟩
    · rw [h] at herror
      cases herror
    · obtain rfl := Except.ok.inj (h.symm.trans hread)
      rw [leavesPlain_leaf hop]
      exact leafJson_eq_tidy_iff hv.1 hop hoperation hoptions
    · rw [h] at hread
      cases hchildren : childrenOfJson path members with
      | error e =>
        rw [hchildren] at hread
        cases hread
      | ok children =>
        rw [hchildren] at hread
        cases hread
        rw [leavesPlain_branch hbranch, toJson, tidy, hbranch]
        dsimp only
        rw [Json.obj.injEq]
        refine childrenToJson_eq_tidyMembers_iff hchildren fun e he path node hnode => ?_
        exact ih e he ((Json.orderedMembers_iff _).1 hv.2 e he) hnode

/-! ## What is kept in any case -/

theorem keys_childrenToJson (children : List (String × FilterNode)) :
    (childrenToJson children).map Prod.fst = children.map Prod.fst := by
  induction children with
  | nil => rfl
  | cons e r ih => rw [childrenToJson, List.map_cons, List.map_cons, ih]

theorem mem_childrenToJson {k : String} {node : FilterNode}
    {children : List (String × FilterNode)} (h : (k, node) ∈ children) :
    (k, node.toJson) ∈ childrenToJson children := by
  induction children with
  | nil => cases h
  | cons e r ih =>
    rw [childrenToJson]
    rcases List.mem_cons.1 h with rfl | h
    · exact List.mem_cons_self
    · exact List.mem_cons_of_mem _ (ih h)

theorem Reached.ordered {v w : Json} {names : List String} (hw : Reached v names w)
    (hv : v.Ordered) : w.Ordered := by
  induction hw with
  | root => exact hv
  | member _ hk _ ih => exact ih ((Json.orderedMembers_iff _).1 hv.2 _ hk)

/-- At every place that is read stands, when the node is written, what is read there. -/
theorem Reached.exists_toJson {v w : Json} {names : List String} (hw : Reached v names w)
    {path : String} {node : FilterNode} (h : ofJson path v = .ok node) :
    ∃ place below, ofJson place w = .ok below ∧ Reached node.toJson names below.toJson := by
  induction hw generalizing path node with
  | root v => exact ⟨path, node, h, .root _⟩
  | @member members k child w names hbranch hk hchild ih =>
    rw [ofJson, hbranch] at h
    dsimp only at h
    split at h
    · cases h
    · rename_i children hchildren
      cases h
      obtain ⟨node, hnode, hread⟩ := exists_of_childrenOfJson_ok hchildren _ hk
      obtain ⟨place, below, hbelow, hreached⟩ := ih hread
      have hmark := find?_childrenToJson (allWritable_childrenOfJson members hbranch hchildren)
      exact ⟨place, below, hbelow, .member hmark (mem_childrenToJson hnode) hreached⟩

end FilterNode

namespace Filter

open FilterNode

theorem exists_of_ofJson_ok {v : Json} {f : Filter} (h : ofJson v = .ok f) :
    ∃ node, FilterNode.ofJson "" v = .ok node ∧ f.toJson = node.toJson := by
  unfold ofJson at h
  split at h
  · cases h
  · rename_i root hroot
    cases h
    exact ⟨.branch root, hroot, rfl⟩
  · cases h

/-- What is left of a value that is read as a filter and written again.  It is the value without
idle options exactly if every leaf holds nothing but its operation and its options, and each of
these just a name and its values.  In any case a branch has all its names, and a leaf has its
operation and the options that are read, and nothing else. -/
theorem carried_iff {v : Json} {f : Filter} (hv : v.Ordered) (h : ofJson v = .ok f) :
    (f.toJson = tidy v ↔ LeavesPlain v) ∧
    (∀ path members, Reached v path (.obj members) →
      Fields.find? "operation" members = none →
      ∃ kept, Reached f.toJson path (.obj kept) ∧
        kept.map Prod.fst = members.map Prod.fst) ∧
    ∀ path members op, Reached v path (.obj members) →
      Fields.find? "operation" members = some op →
      ∃ operation options, operation.toJson = op ∧
        FilterOption.listOfJson? (Fields.find? "options" members) = some options ∧
        Reached f.toJson path (leafJson operation options) := by
  obtain ⟨node, hnode, hwire⟩ := exists_of_ofJson_ok h
  rw [hwire]
  refine ⟨toJson_eq_tidy_iff hv hnode, fun path members hw hbranch => ?_,
    fun path members op hw hop => ?_⟩
  · obtain ⟨place, below, hbelow, hreached⟩ := hw.exists_toJson hnode
    rw [FilterNode.ofJson, hbranch] at hbelow
    dsimp only at hbelow
    split at hbelow
    · cases hbelow
    · rename_i children hchildren
      cases hbelow
      refine ⟨_, hreached, ?_⟩
      rw [keys_childrenToJson]
      exact (allInKeyOrder_childrenOfJson members (hw.ordered hv).2 hchildren).1
  · obtain ⟨place, below, hbelow, hreached⟩ := hw.exists_toJson hnode
    rcases FilterNode.ofJson_cases place (.obj members) with ⟨-, reason, herror⟩ |
      ⟨-, _, op', operation, options, ⟨⟩, hop', hoperation, hoptions, hread⟩ |
      ⟨_, ⟨⟩, hbranch, -⟩
    · rw [hbelow] at herror
      cases herror
    · rw [hop] at hop'
      cases hop'
      rw [hbelow] at hread
      cases hread
      exact ⟨operation, options, Operation.toJson_of_ofJson? hoperation, hoptions, hreached⟩
    · rw [hop] at hbranch
      cases hbranch

/-- An order is written as it was, and null beside a number of processors is not. -/
theorem carried_iff_cpus :
    let order : Json := .obj [("operation", .str "orderBy"),
      ("options", .arr [.obj [("name", .str "sort"), ("value", .arr [.str "ASC"])]])]
    let v : Json := .obj [("id", order),
      ("maxCpu", .obj [("operation", .num (.int 4)), ("options", .null)])]
    let f : Filter := ⟨[("id", .leaf (.text "orderBy") [⟨"sort", [.str "ASC"]⟩]),
      ("maxCpu", .leaf (.integer 4) [])]⟩
    v.Ordered ∧ ofJson v = .ok f ∧ LeavesPlain v ∧
      f.toJson = .obj [("id", order), ("maxCpu", .obj [("operation", .num (.int 4))])] := by
  intro order v f
  have hpair {a b : String} {x y : Json} (h : a < b) : Fields.Sorted [(a, x), (b, y)] :=
    List.pairwise_pair.2 h
  have horder : order.Ordered := by
    refine ⟨hpair (by decide +kernel), trivial, ⟨⟨hpair (by decide +kernel), ?_⟩, trivial⟩, trivial⟩
    exact ⟨trivial, ⟨trivial, trivial⟩, trivial⟩
  have hv : v.Ordered := by
    refine ⟨hpair (by decide +kernel), horder, ⟨hpair (by decide +kernel), ?_⟩, trivial⟩
    exact ⟨trivial, trivial, trivial⟩
  have hread : ofJson v = .ok f := by rfl
  have hwritten : f.toJson = tidy v := by rfl
  exact ⟨hv, hread, (carried_iff hv hread).1.1 hwritten, rfl⟩

/-- A condition that stands beside an operation is gone. -/
theorem condition_passed_over :
    let v : Json := .obj [("virtualGuests",
      .obj [("hostname", .obj [("operation", .str "_= web")]), ("operation", .str "x")])]
    ∃ f, ofJson v = .ok f ∧
      f.toJson = .obj [("virtualGuests", .obj [("operation", .str "x")])] ∧
      f.toJson ≠ tidy v := by
  intro v
  refine ⟨⟨[("virtualGuests", .leaf (.text "x") [])]⟩, rfl, rfl, ?_⟩
  intro h
  have hhostname := congrArg (Json.pointer? ["virtualGuests", "hostname"]) h
  cases hhostname

end Filter

end CloudClient
