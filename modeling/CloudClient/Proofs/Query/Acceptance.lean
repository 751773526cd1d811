import CloudClient.Proofs.Query.WireForm

/-!
# Acceptance — which values are filters, and where others are refused

A reader of filters comes to a node through objects that have no member `operation`, which
are its branches.  A value is refused if one of the nodes it comes to offends by itself: it is
no object, or its operation or the options beside that are malformed.  Nodes are looked at
before what stands below them, and members in the order of their names, so that the path in a
complaint is the least one of a node that offends.

* `FilterNode.Reached` and `FilterNode.Offends` tell the nodes and what is wrong with them.
* `FilterNode.ofJson_cases` is one step of the reader.
* `FilterNode.exists_of_ofJson_error`: where a value is refused.
* `Filter.refused_at_first` has it for whole filters.
-/

namespace CloudClient

namespace Json

/-- What holds of all values that are no objects, and of an object if it holds of its members,
holds of every value. -/
@[elab_as_elim]
theorem induct {motive : Json → Prop} (other : ∀ v, v.obj? = none → motive v)
    (obj : ∀ members, (∀ e ∈ members, motive e.2) → motive (.obj members)) : ∀ v, motive v
  | .obj members => obj members fun e _ => induct other obj e.2
  | .null => other .null rfl
  | .bool b => other (.bool b) rfl
  | .num n => other (.num n) rfl
  | .str s => other (.str s) rfl
  | .arr items => other (.arr items) rfl
termination_by v => sizeOf v
decreasing_by
  rename_i he
  have hlt := List.sizeOf_lt_of_mem he
  obtain ⟨k, v⟩ := e
  simp only [Prod.mk.sizeOf_spec, Json.obj.sizeOf_spec] at hlt ⊢
  omega

theorem orderedMembers_iff (members : List (String × Json)) :
    OrderedMembers members ↔ ∀ e ∈ members, e.2.Ordered := by
  induction members with
  | nil => simp [OrderedMembers]
  | cons e r ih => simp [OrderedMembers, ih]

end Json

/-! ## Operations and options on the wire -/

/-- The values that are operations: texts, truth values and integers of 64 bits with sign. -/
inductive Operation.IsWritten : Json → Prop
  | text (s : String) : IsWritten (.str s)
  | boolean (b : Bool) : IsWritten (.bool b)
  | integer (i : Int) (h : -9223372036854775808 ≤ i ∧ i ≤ 9223372036854775807) :
    IsWritten (.num (.int i))

theorem Operation.isSome_ofJson? {v : Json} : (ofJson? v).isSome = true ↔ IsWritten v := by
  constructor
  · intro h
    obtain ⟨op, hop⟩ := Option.isSome_iff_exists.1 h
    unfold ofJson? at hop
    split at hop
    · exact .text _
    · exact .boolean _
    · obtain ⟨i, hi, -⟩ := Option.map_eq_some_iff.1 hop
      unfold Json.i64? at hi
      split at hi
      · split at hi
        · exact .integer _ ‹_›
        · cases hi
      · cases hi
  · intro h
    cases h with
    | text s => rfl
    | boolean b => rfl
    | integer i h =>
      change (Option.map integer (if _ then some i else none)).isSome = true
      rw [if_pos h]
      rfl

namespace FilterOption

/-- The values that are options: objects with a name and a list of values, whatever else they
hold, and lists of just these two. -/
inductive IsWritten : Json → Prop
  | record {members : List (String × Json)} {name : String} {values : List Json}
    (hname : Fields.find? "name" members = some (.str name))
    (hvalues : Fields.find? "value" members = some (.arr values)) : IsWritten (.obj members)
  | pair (name : String) (values : List Json) : IsWritten (.arr [.str name, .arr values])

def IsWrittenList (v : Json) : Prop :=
  ∃ items, v = .arr items ∧ ∀ item ∈ items, IsWritten item

theorem isSome_ofJson? {v : Json} : (ofJson? v).isSome = true ↔ IsWritten v := by
  constructor
  · intro h
    obtain ⟨o, ho⟩ := Option.isSome_iff_exists.1 h
    unfold ofJson? at ho
    split at ho
    · obtain ⟨name, hname, hrest⟩ := Option.bind_eq_some_iff.1 ho
      obtain ⟨values, hvalues, -⟩ := Option.bind_eq_some_iff.1 hrest
      obtain ⟨n, hn, hstr⟩ := Option.bind_eq_some_iff.1 hname
      obtain ⟨l, hl, harr⟩ := Option.bind_eq_some_iff.1 hvalues
      cases n <;> cases hstr
      cases l <;> cases harr
      exact .record hn hl
    · exact .pair _ _
    · cases ho
  · intro h
    cases h with
    | record hname hvalues => simp [ofJson?, hname, hvalues, Json.str?, Json.arr?]
    | pair name values => rfl

theorem isSome_mapM_ofJson? {items : List Json} :
    (items.mapM ofJson?).isSome = true ↔ ∀ item ∈ items, IsWritten item := by
  induction items with
  | nil => simp
  | cons item r ih =>
    rw [List.mapM_cons, List.forall_mem_cons, ← isSome_ofJson?, ← ih]
    cases ofJson? item with
    | none => simp
    | some o => cases r.mapM ofJson? <;> simp

theorem listOfJson?_eq_none_iff {options : Option Json} :
    listOfJson? options = none ↔ ∃ v, options = some v ∧ v ≠ .null ∧ ¬ IsWrittenList v := by
  constructor
  · intro h
    unfold listOfJson? at h
    split at h
    · cases h
    · cases h
    · rename_i items
      refine ⟨_, rfl, nofun, ?_⟩
      rintro ⟨_, ⟨⟩, hitems⟩
      rw [← isSome_mapM_ofJson?, h] at hitems
      cases hitems
    · rename_i v hnull hlist
      refine ⟨v, rfl, hnull, ?_⟩
      rintro ⟨items, rfl, -⟩
      exact hlist items rfl
  · rintro ⟨v, rfl, hnull, hlist⟩
    unfold listOfJson?
    split
    · rename_i hv
      cases hv
    · rename_i hv
      exact absurd (Option.some.inj hv) hnull
    · rename_i items hv
      obtain rfl := Option.some.inj hv
      rw [← Option.not_isSome_iff_eq_none, isSome_mapM_ofJson?]
      exact fun hitems => hlist ⟨items, rfl, hitems⟩
    · rfl

end FilterOption

namespace FilterNode

/-! ## Nodes -/

/-- The values that a reader of filters comes to, by the names on the way: the root, and what
stands under a name in an object without a member `operation`. -/
inductive Reached : Json → List String → Json → Prop
  | root (v : Json) : Reached v [] v
  | member {members : List (String × Json)} {k : String} {child w : Json} {path : List String}
    (hbranch : Fields.find? "operation" members = none) (hk : (k, child) ∈ members)
    (h : Reached child path w) : Reached (.obj members) (k :: path) w

/-- What is no node of a filter, whatever stands below it: a value that is no object, an object
with a malformed operation, and one that has an operation and malformed options beside it. -/
inductive Offends : Json → Prop
  | shape {v : Json} (h : v.obj? = none) : Offends v
  | operation {members : List (String × Json)} {op : Json}
    (h : Fields.find? "operation" members = some op) (hop : ¬ Operation.IsWritten op) :
    Offends (.obj members)
  | options {members : List (String × Json)} {op options : Json}
    (h : Fields.find? "operation" members = some op)
    (hoptions : Fields.find? "options" members = some options) (hnull : options ≠ .null)
    (hlist : ¬ FilterOption.IsWrittenList options) : Offends (.obj members)

theorem not_offends_of_branch {members : List (String × Json)}
    (h : Fields.find? "operation" members = none) : ¬ Offends (.obj members) := by
  intro hoffends
  cases hoffends with
  | shape hshape => cases hshape
  | operation hop => rw [h] at hop; cases hop
  | options hop => rw [h] at hop; cases hop

/-- One step of the reader: a value offends by itself and is refused, or is read as a leaf, or
is a branch and its members are read. -/
theorem ofJson_cases (path : String) (v : Json) :
    (Offends v ∧ ∃ reason, ofJson path v = .error (invalid path reason)) ∨
    (¬ Offends v ∧ ∃ members op operation options, v = .obj members ∧
      Fields.find? "operation" members = some op ∧ Operation.ofJson? op = some operation ∧
      FilterOption.listOfJson? (Fields.find? "options" members) = some options ∧
      ofJson path v = .ok (.leaf operation options)) ∨
    ∃ members, v = .obj members ∧ Fields.find? "operation" members = none ∧
      ofJson path v = (childrenOfJson path members).map .branch := by
  cases v with
  | obj members =>
    rw [ofJson]
    split
    · rename_i op hop
      unfold leafOfJson
      split
      · rename_i hnone
        refine .inl ⟨.operation hop ?_, _, rfl⟩
        rw [← Operation.isSome_ofJson?, hnone]
        exact Bool.false_ne_true
      · rename_i operation hsome
        have hwritten : Operation.IsWritten op := by
          rw [← Operation.isSome_ofJson?, hsome]
          rfl
        split
        · rename_i hnone
          obtain ⟨options, hoptions, hnull, hlist⟩ := FilterOption.listOfJson?_eq_none_iff.1 hnone
          exact .inl ⟨.options hop hoptions hnull hlist, _, rfl⟩
        · rename_i options hlist
          refine .inr (.inl ⟨?_, members, op, operation, options, rfl, hop, hsome, hlist, rfl⟩)
          intro hoffends
          cases hoffends with
          | shape hshape => cases hshape
          | operation h hbad =>
            rw [hop] at h
            cases h
            exact hbad hwritten
          | options _ hoptions hnull hbad =>
            have hnone := FilterOption.listOfJson?_eq_none_iff.2 ⟨_, hoptions, hnull, hbad⟩
            rw [hlist] at hnone
            cases hnone
    · rename_i hbranch
      refine .inr (.inr ⟨members, rfl, hbranch, ?_⟩)
      cases childrenOfJson path members <;> rfl
  | _ => exact .inl ⟨.shape rfl, _, rfl⟩

/-- The members of a branch are read each by itself. -/
theorem exists_of_childrenOfJson_ok {path : String} {members : List (String × Json)}
    {children : List (String × FilterNode)} (h : childrenOfJson path members = .ok children) :
    ∀ e ∈ members, ∃ node, (e.1, node) ∈ children ∧
      ofJson (childPath path e.1) e.2 = .ok node := by
  induction members generalizing children with
  | nil => exact fun e he => absurd he List.not_mem_nil
  | cons m r ih =>
    rw [childrenOfJson] at h
    split at h
    · cases h
    · rename_i node hnode
      split at h
      · cases h
      · rename_i rest hrest
        cases h
        refine List.forall_mem_cons.2 ⟨⟨node, List.mem_cons_self, hnode⟩, fun e he => ?_⟩
        obtain ⟨below, hbelow, hread⟩ := ih hrest e he
        exact ⟨below, List.mem_cons_of_mem _ hbelow, hread⟩

/-- The members of a branch are refused at the first that is refused. -/
theorem exists_of_childrenOfJson_error {path : String} {members : List (String × Json)}
    {e : QueryError} (h : childrenOfJson path members = .error e) :
    ∃ front k v back, members = front ++ (k, v) :: back ∧
      (∀ m ∈ front, ∃ node, ofJson (childPath path m.1) m.2 = .ok node) ∧
      ofJson (childPath path k) v = .error e := by
  induction members with
  | nil => cases h
  | cons m r ih =>
    obtain ⟨k, v⟩ := m
    rw [childrenOfJson] at h
    split at h
    · rename_i hfirst
      cases h
      exact ⟨[], k, v, r, rfl, fun m hm => absurd hm List.not_mem_nil, hfirst⟩
    · rename_i node hnode
      split at h
      · rename_i hrest
        cases h
        obtain ⟨front, j, w, back, rfl, hfront, hw⟩ := ih hrest
        exact ⟨(k, v) :: front, j, w, back, rfl, List.forall_mem_cons.2 ⟨⟨node, hnode⟩, hfront⟩, hw⟩
      · cases h

/-! ## Values that are read, and values that are refused -/

/-- Nothing that the reader comes to offends in a value that is read. -/
theorem not_offends_of_ofJson_ok {v w : Json} {names : List String} (hw : Reached v names w)
    {path : String} {node : FilterNode} (h : ofJson path v = .ok node) : ¬ Offends w := by
  induction hw generalizing path node with
  | root v =>
    rcases ofJson_cases path v with ⟨-, reason, herror⟩ | ⟨hoffends, -⟩ | ⟨members, rfl, hbranch, -⟩
    · rw [h] at herror
      cases herror
    · exact hoffends
    · exact not_offends_of_branch hbranch
  | @member members k child w names hbranch hk hchild ih =>
    rw [ofJson, hbranch] at h
    dsimp only at h
    split at h
    · cases h
    · rename_i children hchildren
      obtain ⟨below, -, hread⟩ := exists_of_childrenOfJson_ok hchildren _ hk
      exact ih hread

/-- A value is refused at a node that offends, and no node that offends comes before it. -/
theorem exists_of_ofJson_error {v : Json} (hv : v.Ordered) {path : String} {e : QueryError}
    (h : ofJson path v = .error e) :
    ∃ names w reason, Reached v names w ∧ Offends w ∧
      e = invalid (names.foldl childPath path) reason ∧
      ∀ other w', Reached v other w' → Offends w' → ¬ other < names := by
  induction v using Json.induct generalizing path e with
  | other v hobj =>
    rw [ofJson] at h
    · exact ⟨[], v, _, .root v, .shape hobj, (Except.error.inj h).symm,
        fun other _ _ _ => List.not_lt_nil other⟩
    · rintro members rfl
      cases hobj
  | obj members ih =>
    rcases ofJson_cases path (.obj members) with ⟨hoffends, reason, herror⟩ |
      ⟨-, _, _, _, _, -, -, -, -, hok⟩ | ⟨_, ⟨⟩, hbranch, hread⟩
    · rw [herror] at h
      exact ⟨[], _, reason, .root _, hoffends, (Except.error.inj h).symm,
        fun other _ _ _ => List.not_lt_nil other⟩
    · rw [hok] at h
      cases h
    · obtain ⟨front, k, v, back, rfl, hfront, hfirst⟩ : ∃ front k v back,
          members = front ++ (k, v) :: back ∧
          (∀ m ∈ front, ∃ node, ofJson (childPath path m.1) m.2 = .ok node) ∧
          ofJson (childPath path k) v = .error e := by
        apply exists_of_childrenOfJson_error
        rw [h] at hread
        cases hchildren : childrenOfJson path members with
        | error e' =>
          rw [hchildren] at hread
          cases hread
          rfl
        | ok children =>
          rw [hchildren] at hread
          cases hread
      have hmem : (k, v) ∈ front ++ (k, v) :: back :=
        List.mem_append_right front List.mem_cons_self
      obtain ⟨names, w, reason, hw, hoffends, rfl, hleast⟩ :=
        ih _ hmem ((Json.orderedMembers_iff _).1 hv.2 _ hmem) hfirst
      refine ⟨k :: names, w, reason, .member hbranch hmem hw, hoffends, rfl, ?_⟩
      intro other w' hother hoffends' hlt
      cases hother with
      | root => exact not_offends_of_branch hbranch hoffends'
      | @member _ j child _ rest _ hj hrest =>
        obtain ⟨-, hlater, hacross⟩ := List.pairwise_append.1 hv.1
        rcases List.mem_append.1 hj with hj | hj
        · -- what stands in front is read
          obtain ⟨node, hnode⟩ := hfront _ hj
          exact not_offends_of_ofJson_ok hrest hnode hoffends'
        · rcases List.mem_cons.1 hj with hj | hj
          · obtain ⟨rfl, rfl⟩ := Prod.mk.inj hj
            rcases List.cons_lt_cons_iff.1 hlt with hjj | ⟨-, hlt⟩
            · exact String.lt_irrefl _ hjj
            · exact hleast rest w' hrest hoffends' hlt
          · -- what stands behind has a greater name
            have hkj : k < j := (List.pairwise_cons.1 hlater).1 _ hj
            rcases List.cons_lt_cons_iff.1 hlt with hjk | ⟨rfl, -⟩
            · exact String.lt_asymm hkj hjk
            · exact String.lt_irrefl _ hkj

/-! ## Paths in complaints -/

theorem foldl_childPath {path : String} (hpath : path ≠ "") (names : List String) :
    names.foldl childPath path = ".".intercalate (path :: names) := by
  induction names generalizing path with
  | nil => exact String.intercalate_singleton.symm
  | cons k names ih =>
    have hchild : childPath path k = path ++ "." ++ k :=
      if_neg fun hempty => hpath (String.isEmpty_iff.1 hempty)
    have hne : path ++ "." ++ k ≠ "" := by simp [String.append_eq_empty_iff]
    rw [List.foldl_cons, hchild, ih hne, String.intercalate_cons_append,
      String.intercalate_cons_cons]

end FilterNode

namespace Filter

open FilterNode

/-- The path of a node in a complaint: its names with points between them. -/
def pathText : List String → String
  | [] => "<root>"
  | k :: names => ".".intercalate (k :: names)

theorem invalid_foldl_childPath {names : List String} (h : "" ∉ names) (reason : String) :
    invalid (names.foldl childPath "") reason = .invalidFilter (pathText names) reason := by
  cases names with
  | nil => rfl
  | cons k names =>
    have hk : k ≠ "" := fun hk => h (hk ▸ List.mem_cons_self)
    have hfirst : childPath "" k = k := rfl
    have hne : ".".intercalate (k :: names) ≠ "" := by
      cases names with
      | nil => rwa [String.intercalate_singleton]
      | cons j names => simp [String.intercalate_cons_cons, String.append_eq_empty_iff, hk]
    rw [List.foldl_cons, hfirst, foldl_childPath hk, invalid,
      if_neg fun hempty => hne (String.isEmpty_iff.1 hempty), pathText]

/-- No name on the way to a node is empty. -/
def Named (v : Json) : Prop := ∀ path w, Reached v path w → "" ∉ path

theorem named_of_shape {v : Json} (h : v.obj? = none) : Named v := by
  intro path w hw
  cases hw with
  | root => exact List.not_mem_nil
  | member => cases h

theorem named_obj {members : List (String × Json)} (h : ∀ e ∈ members, e.1 ≠ "" ∧ Named e.2) :
    Named (.obj members) := by
  intro path w hw
  cases hw with
  | root => exact List.not_mem_nil
  | member _ hk hchild =>
    obtain ⟨hne, hchildren⟩ := h _ hk
    exact List.not_mem_cons_of_ne_of_not_mem hne.symm (hchildren _ _ hchild)

/-- An object with a member `operation`, which is a leaf if it is a node at all. -/
def IsLeaf (v : Json) : Prop :=
  ∃ members op, v = .obj members ∧ Fields.find? "operation" members = some op

/-- The places where a value is no filter: the root, if it is a leaf, and every node that
offends. -/
def Faulty (v : Json) (path : List String) : Prop :=
  (path = [] ∧ IsLeaf v) ∨ ∃ w, Reached v path w ∧ Offends w

/-- Nothing is below a leaf. -/
theorem eq_nil_of_isLeaf {v w : Json} {path : List String} (h : IsLeaf v)
    (hw : Reached v path w) : path = [] := by
  obtain ⟨members, op, rfl, hop⟩ := h
  cases hw with
  | root => rfl
  | member hbranch =>
    rw [hop] at hbranch
    cases hbranch

/-- How a whole filter is read: a node that offends is reported, a leaf is refused at the root,
and a branch is a filter. -/
theorem ofJson_cases (v : Json) :
    (∃ e, FilterNode.ofJson "" v = .error e ∧ ofJson v = .error e) ∨
    (IsLeaf v ∧ (∀ path w, Reached v path w → ¬ Offends w) ∧
      ofJson v = .error (invalid "" "a filter root cannot be a leaf")) ∨
    (¬ IsLeaf v ∧ (∀ path w, Reached v path w → ¬ Offends w) ∧ ∃ f, ofJson v = .ok f) := by
  have hreached {node : FilterNode} (hnode : FilterNode.ofJson "" v = .ok node) :
      ∀ path w, Reached v path w → ¬ Offends w :=
    fun path w hw => not_offends_of_ofJson_ok hw hnode
  rcases FilterNode.ofJson_cases "" v with ⟨-, reason, herror⟩ |
    ⟨-, members, op, operation, options, rfl, hop, -, -, hok⟩ | ⟨members, rfl, hbranch, hread⟩
  · exact .inl ⟨_, herror, by rw [ofJson, herror]⟩
  · exact .inr (.inl ⟨⟨members, op, rfl, hop⟩, hreached hok, by rw [ofJson, hok]⟩)
  · cases hchildren : childrenOfJson "" members with
    | error e =>
      rw [hchildren] at hread
      exact .inl ⟨e, hread, by rw [ofJson, hread]; rfl⟩
    | ok children =>
      rw [hchildren] at hread
      refine .inr (.inr ⟨?_, hreached hread, ⟨children⟩, by rw [ofJson, hread]; rfl⟩)
      rintro ⟨_, op, ⟨⟩, hop⟩
      rw [hbranch] at hop
      cases hop

/-- Which values are refused as filters, and where.  A value is refused exactly if it is no
object, is a leaf itself, or has a node that offends: one that is no object, or one with an
operation that is no text, truth value or integer of 64 bits, or with an operation and, beside
it, options that are neither null nor a list of options.  The complaint names the first place of
this kind when nodes come before what is below them and members in the order of their names. -/
theorem refused_at_first {v : Json} (hv : v.Ordered) (hnames : Named v) :
    ((∃ e, ofJson v = .error e) ↔
      v.obj? = none ∨ IsLeaf v ∨ ∃ path w, Reached v path w ∧ Offends w) ∧
    ∀ e, ofJson v = .error e → ∃ path reason, e = .invalidFilter (pathText path) reason ∧
      Faulty v path ∧ ∀ other, Faulty v other → ¬ other < path := by
  rcases ofJson_cases v with ⟨e, herror, hrefused⟩ | ⟨hleaf, hgood, hrefused⟩ |
    ⟨hleaf, hgood, f, hread⟩
  · obtain ⟨names, w, reason, hw, hoffends, rfl, hleast⟩ := exists_of_ofJson_error hv herror
    refine ⟨iff_of_true ⟨_, hrefused⟩ (.inr (.inr ⟨names, w, hw, hoffends⟩)), fun e he => ?_⟩
    obtain rfl := Except.error.inj (hrefused.symm.trans he)
    refine ⟨names, reason, invalid_foldl_childPath (hnames names w hw) reason,
      .inr ⟨w, hw, hoffends⟩, ?_⟩
    rintro other (⟨rfl, hleaf⟩ | ⟨w', hw', hoffends'⟩)
    · rw [eq_nil_of_isLeaf hleaf hw]
      exact List.not_lt_nil []
    · exact hleast other w' hw' hoffends'
  · refine ⟨iff_of_true ⟨_, hrefused⟩ (.inr (.inl hleaf)), fun e he => ?_⟩
    obtain rfl := Except.error.inj (hrefused.symm.trans he)
    exact ⟨[], _, rfl, .inl ⟨rfl, hleaf⟩, fun other _ => List.not_lt_nil other⟩
  · refine ⟨iff_of_false ?_ ?_, fun e he => ?_⟩
    · rintro ⟨e, he⟩
      rw [hread] at he
      cases he
    · rintro (hshape | hroot | ⟨path, w, hw, hoffends⟩)
      · exact hgood [] v (.root v) (.shape hshape)
      · exact hleaf hroot
      · exact hgood path w hw hoffends
    · rw [hread] at he
      cases he

/-- Of two malformed conditions on servers the host name is the first. -/
theorem refused_at_first_hostname :
    let v : Json := .obj [("virtualGuests",
      .obj [("hostname", .str "web"), ("id", .obj [("operation", .null)])])]
    v.Ordered ∧ Named v ∧
      ofJson v = .error (.invalidFilter "virtualGuests.hostname" "expected an object") ∧
      ∃ path, pathText path = "virtualGuests.hostname" ∧ Faulty v path ∧
        ∀ other, Faulty v other → ¬ other < path := by
  intro v
  have hv : v.Ordered := by
    refine ⟨List.pairwise_singleton _ _, ⟨List.pairwise_pair.2 (by decide +kernel), ?_⟩, trivial⟩
    exact ⟨trivial, ⟨List.pairwise_singleton _ _, trivial, trivial⟩, trivial⟩
  have hnames : Named v := by
    refine named_obj (List.forall_mem_singleton.2 ⟨by decide, named_obj ?_⟩)
    refine List.forall_mem_cons.2 ⟨⟨by decide, named_of_shape rfl⟩, ?_⟩
    refine List.forall_mem_singleton.2 ⟨by decide, named_obj ?_⟩
    exact List.forall_mem_singleton.2 ⟨by decide, named_of_shape rfl⟩
  have herror : ofJson v =
      .error (.invalidFilter "virtualGuests.hostname" "expected an object") := by rfl
  obtain ⟨path, reason, hpath, hfaulty, hfirst⟩ := (refused_at_first hv hnames).2 _ herror
  exact ⟨hv, hnames, herror, path, (QueryError.invalidFilter.inj hpath).1.symm, hfaulty, hfirst⟩

/-- In a branch `options` is a name like any other: what is under it need be no list of
options. -/
theorem options_in_branch :
    let v : Json := .obj [("options", .obj [("operation", .num (.int 5))])]
    v.Ordered ∧ Named v ∧
      (∃ members options, Reached v [] (.obj members) ∧
        Fields.find? "options" members = some options ∧ options ≠ .null ∧
        ¬ FilterOption.IsWrittenList options) ∧
      ∃ f, ofJson v = .ok f := by
  intro v
  have hv : v.Ordered :=
    ⟨List.pairwise_singleton _ _, ⟨List.pairwise_singleton _ _, trivial, trivial⟩, trivial⟩
  have hnames : Named v := by
    refine named_obj (List.forall_mem_singleton.2 ⟨by decide, named_obj ?_⟩)
    exact List.forall_mem_singleton.2 ⟨by decide, named_of_shape rfl⟩
  refine ⟨hv, hnames, ⟨_, _, .root v, rfl, nofun, ?_⟩, _, rfl⟩
  rintro ⟨items, hitems, -⟩
  cases hitems

end Filter

end CloudClient
