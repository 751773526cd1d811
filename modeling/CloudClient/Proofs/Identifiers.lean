import CloudClient.Proofs.Query.Order
import CloudClient.Proofs.Text.Numeral
import CloudClient.Proofs.Text.Split

/-!
# Identifiers — which resolvers are asked, and what they find

A positive integer is its own id, and nobody is asked.  Any other identifier is handed as it
stands to the resolvers of a chain in turn; the first that knows some ids or fails decides, and
those behind it are not asked.

* `Resolver.Answers` is any behaviour of a chain; `Resolver.firstAnswer_chainFrom` tells
  which resolvers are asked under it.
* `Resolver.Consulted` is a run over several sources, of which the first that finds something
  decides; `Guests.runs_ids` has it for the listings of servers.
* `Guests.isIpv4_iff` tells which texts are addresses.
* `Resolver.resolved_in_turn` puts the parts together.
-/

namespace CloudClient

/-! ## Literal ids -/

namespace Resolver

/-- Whether an identifier writes a positive integer of 64 bits. -/
def IsLiteral (identifier : String) (n : Int) : Prop :=
  Text.i64? (Text.trimmed identifier) = some n ∧ 0 < n

theorem literalId?_eq_some_iff {identifier : String} {n : Int} :
    literalId? identifier = some n ↔ IsLiteral identifier n := by
  simp [literalId?, Option.filter_eq_some_iff, IsLiteral]

example : literalId? " +7 " = some 7 ∧ literalId? "0" = none ∧ literalId? "-5" = none ∧
    literalId? "9223372036854775808" = none := by
  decide +kernel

section Ids

variable {m : Type → Type} [Monad m] (chain : List (Resolver m)) {identifier : String}

theorem ids_of_isLiteral {n : Int} (h : IsLiteral identifier n) :
    ids chain identifier = pure (.ok [n]) := by
  rw [ids, literalId?_eq_some_iff.2 h]

theorem ids_of_not_isLiteral (h : ∀ n, ¬ IsLiteral identifier n) :
    ids chain identifier = firstAnswer identifier chain := by
  have hnone : literalId? identifier = none :=
    Option.eq_none_iff_forall_ne_some.2 fun n hn => h n (literalId?_eq_some_iff.1 hn)
  rw [ids, hnone]

end Ids

/-! ## Chains of resolvers -/

/-- A question to a resolver: its place in the chain, and the identifier. -/
structure Question where
  place : Nat
  identifier : String

/-- How the resolvers of a chain answer, given all questions so far. -/
abbrev Answers := List Question → Question → Except Failure (List Int)

namespace Answers

/-- Resolvers with names, from a place of a chain on, that answer so and write down what they
are asked. -/
def chainFrom (b : Answers) (place : Nat) :
    List String → List (Resolver (StateM (List Question)))
  | [] => []
  | name :: names =>
    ⟨name, fun identifier asked =>
      (b asked ⟨place, identifier⟩, asked ++ [⟨place, identifier⟩])⟩ ::
        chainFrom b (place + 1) names

def chain (b : Answers) (names : List String) : List (Resolver (StateM (List Question))) :=
  b.chainFrom 0 names

end Answers

/-- The questions to the first `k` resolvers from a place on, each asked once. -/
def questions (identifier : String) (place k : Nat) : List Question :=
  (List.range k).map fun i => ⟨place + i, identifier⟩

theorem questions_succ (identifier : String) (place k : Nat) :
    questions identifier place (k + 1) =
      ⟨place, identifier⟩ :: questions identifier (place + 1) k := by
  rw [questions, List.range_succ_eq_map, List.map_cons, List.map_map, questions, Nat.add_zero]
  refine congrArg (_ :: ·) (List.map_congr_left fun i _ => ?_)
  show Question.mk (place + (i + 1)) identifier = ⟨place + 1 + i, identifier⟩
  rw [Nat.add_comm i 1, Nat.add_assoc]

/-- What the resolver `i` places further on answers after those in front of it. -/
def answerAt (b : Answers) (identifier : String) (place : Nat) (asked : List Question) (i : Nat) :
    Except Failure (List Int) :=
  b (asked ++ questions identifier place i) ⟨place + i, identifier⟩

theorem answerAt_succ (b : Answers) (identifier : String) (place : Nat) (asked : List Question)
    (i : Nat) :
    answerAt b identifier place asked (i + 1) =
      answerAt b identifier (place + 1) (asked ++ [⟨place, identifier⟩]) i := by
  rw [answerAt, answerAt, questions_succ, List.append_assoc, List.singleton_append,
    Nat.add_comm i 1, Nat.add_assoc]

theorem answerAt_zero (b : Answers) (identifier : String) (place : Nat) (asked : List Question) :
    answerAt b identifier place asked 0 = b asked ⟨place, identifier⟩ := by
  rw [answerAt]
  exact congrArg (b · _) (List.append_nil asked)

/-- Whether a resolver of a chain of `n` decides: it knows some ids or fails. -/
def Decides (b : Answers) (identifier : String) (place : Nat) (asked : List Question) (n i : Nat) :
    Prop :=
  i < n ∧ answerAt b identifier place asked i ≠ .ok []

section Chain

variable {b : Answers} {identifier name : String} {names : List String} {place : Nat}
  {asked : List Question}

theorem decides_succ {n i : Nat} : Decides b identifier place asked (n + 1) (i + 1) ↔
    Decides b identifier (place + 1) (asked ++ [⟨place, identifier⟩]) n i := by
  rw [Decides, Decides, answerAt_succ, Nat.add_lt_add_iff_right]

/-- A resolver that knows nothing leaves the question to the rest of the chain. -/
theorem firstAnswer_passed (h : b asked ⟨place, identifier⟩ = .ok []) :
    firstAnswer identifier (b.chainFrom place (name :: names)) asked =
      firstAnswer identifier (b.chainFrom (place + 1) names) (asked ++ [⟨place, identifier⟩]) := by
  simp only [Answers.chainFrom, firstAnswer, bind, StateT.bind, h]

/-- Behind a resolver that decides nobody is asked. -/
theorem firstAnswer_decided (h : b asked ⟨place, identifier⟩ ≠ .ok []) :
    firstAnswer identifier (b.chainFrom place (name :: names)) asked =
      (b asked ⟨place, identifier⟩, asked ++ [⟨place, identifier⟩]) := by
  simp only [Answers.chainFrom, firstAnswer, bind, StateT.bind]
  rcases hanswer : b asked ⟨place, identifier⟩ with e | (_ | ⟨id, ids⟩)
  · rfl
  · exact absurd hanswer h
  · rfl

end Chain

theorem firstAnswer_chainFrom (b : Answers) (identifier : String) (names : List String)
    (place : Nat) (asked : List Question) :
    (∃ j, IsLeast {i | Decides b identifier place asked names.length i} j ∧
      firstAnswer identifier (b.chainFrom place names) asked =
        (answerAt b identifier place asked j, asked ++ questions identifier place (j + 1))) ∨
    (∀ i < names.length, answerAt b identifier place asked i = .ok []) ∧
      firstAnswer identifier (b.chainFrom place names) asked =
        (.ok [], asked ++ questions identifier place names.length) := by
  induction names generalizing place asked with
  | nil =>
    refine .inr ⟨fun i hi => absurd hi (Nat.not_lt_zero i), ?_⟩
    show (Except.ok [], asked) = (Except.ok [], asked ++ [])
    rw [List.append_nil]
  | cons name names ih =>
    have hhead := answerAt_zero b identifier place asked
    rw [List.length_cons]
    by_cases hempty : b asked ⟨place, identifier⟩ = .ok []
    · have hzero : ¬ Decides b identifier place asked (names.length + 1) 0 := by
        rintro ⟨-, hne⟩
        exact hne (hhead.trans hempty)
      rw [firstAnswer_passed hempty]
      -- the least place in the rest of the chain is one further on in the whole
      obtain ⟨j, hj, hanswer⟩ | ⟨hnone, hanswer⟩ :=
        ih (place + 1) (asked ++ [⟨place, identifier⟩])
      · refine .inl ⟨j + 1, isLeast_succ hzero ?_, ?_⟩
        · simpa only [decides_succ] using hj
        · rw [hanswer, answerAt_succ, questions_succ identifier place (j + 1), List.append_assoc,
            List.singleton_append]
      · refine .inr ⟨fun i hi => ?_, ?_⟩
        · cases i with
          | zero => rw [hhead, hempty]
          | succ i =>
            rw [answerAt_succ]
            exact hnone i (by omega)
        · rw [hanswer, questions_succ, List.append_assoc, List.singleton_append]
    · refine .inl ⟨0, isLeast_zero ⟨Nat.succ_pos _, ?_⟩, ?_⟩
      · rw [hhead]
        exact hempty
      · rw [firstAnswer_decided hempty, hhead]
        rfl

/-! ## One id of many -/

/-- What the search for one id makes of all ids that are found. -/
def Single (identifier : String) (found : Except Failure (List Int)) (result : Except Failure Int) :
    Prop :=
  (∀ n, result = .ok n ↔ found = .ok [n]) ∧ (∀ e, found = .error e → result = .error e) ∧
    ∀ ids, found = .ok ids → ids.length ≠ 1 →
      ∃ detail, result = .error (.unresolved "resolve_id" identifier ids detail)

theorem single_only (objectType identifier : String) (found : Except Failure (List Int)) :
    Single identifier found (found.bind (only objectType identifier)) := by
  cases found with
  | error e =>
    refine ⟨fun n => iff_of_false nofun nofun, ?_, nofun⟩
    rintro f ⟨⟩
    rfl
  | ok ids =>
    refine ⟨fun n => ?_, nofun, ?_⟩
    · rw [Except.ok.injEq]
      obtain _ | ⟨id, _ | ⟨next, rest⟩⟩ := ids
      · exact iff_of_false nofun nofun
      · show Except.ok id = Except.ok n ↔ [id] = [n]
        simp
      · exact iff_of_false nofun (by simp)
    · rintro _ ⟨⟩ hlength
      obtain _ | ⟨id, _ | ⟨next, rest⟩⟩ := ids
      · exact ⟨_, rfl⟩
      · exact absurd rfl hlength
      · exact ⟨_, rfl⟩

theorem id_eq_map {m : Type → Type} [Monad m] [LawfulMonad m] (objectType : String)
    (chain : List (Resolver m)) (identifier : String) :
    id objectType chain identifier =
      (fun found => found.bind (only objectType identifier)) <$> ids chain identifier :=
  (map_eq_pure_bind _ _).symm

/-! ## Runs over several sources -/

/-- A run over sources of ids, one after the other: those that know none are passed, the first
that knows some or fails decides, and those behind it are not asked. -/
inductive Consulted {ι : Type}
    (Asked : ι → List (Call × CallResult) → Except Failure (List Int) → Prop) :
    List ι → List (Call × CallResult) → Except Failure (List Int) → Prop
  | nobody : Consulted Asked [] [] (.ok [])
  | decided {source : ι} {rest : List ι} {made : List (Call × CallResult)}
      {result : Except Failure (List Int)} (asked : Asked source made result)
      (decides : result ≠ .ok []) : Consulted Asked (source :: rest) made result
  | passed {source : ι} {rest : List ι} {first later : List (Call × CallResult)}
      {result : Except Failure (List Int)} (asked : Asked source first (.ok []))
      (goesOn : Consulted Asked rest later result) :
      Consulted Asked (source :: rest) (first ++ later) result

section Consulted

variable {ι : Type} {Asked : ι → List (Call × CallResult) → Except Failure (List Int) → Prop}
  {source : ι} {front rest : List ι} {made : List (Call × CallResult)}
  {result : Except Failure (List Int)}

theorem consulted_nil : Consulted Asked [] made result ↔ made = [] ∧ result = .ok [] := by
  constructor
  · rintro ⟨⟩
    exact ⟨rfl, rfl⟩
  · rintro ⟨rfl, rfl⟩
    exact .nobody

theorem consulted_cons : Consulted Asked (source :: rest) made result ↔
    (Asked source made result ∧ result ≠ .ok []) ∨
      ∃ first later, made = first ++ later ∧ Asked source first (.ok []) ∧
        Consulted Asked rest later result := by
  constructor
  · rintro (_ | ⟨hasked, hne⟩ | ⟨hasked, hrest⟩)
    · exact .inl ⟨hasked, hne⟩
    · exact .inr ⟨_, _, rfl, hasked, hrest⟩
  · rintro (⟨hasked, hne⟩ | ⟨first, later, rfl, hasked, hrest⟩)
    · exact .decided hasked hne
    · exact .passed hasked hrest

theorem consulted_singleton : Consulted Asked [source] made result ↔ Asked source made result := by
  rw [consulted_cons]
  constructor
  · rintro (⟨hasked, -⟩ | ⟨first, later, rfl, hasked, hrest⟩)
    · exact hasked
    · obtain ⟨rfl, rfl⟩ := consulted_nil.1 hrest
      rwa [List.append_nil]
  · intro hasked
    by_cases hempty : result = .ok []
    · subst hempty
      exact .inr ⟨made, [], (List.append_nil made).symm, hasked, .nobody⟩
    · exact .inl ⟨hasked, hempty⟩

/-- Sources in front are one source in front of the rest. -/
theorem consulted_append : Consulted Asked (front ++ rest) made result ↔
    (Consulted Asked front made result ∧ result ≠ .ok []) ∨
      ∃ first later, made = first ++ later ∧ Consulted Asked front first (.ok []) ∧
        Consulted Asked rest later result := by
  induction front generalizing made with
  | nil =>
    constructor
    · exact fun h => .inr ⟨[], made, rfl, .nobody, h⟩
    · rintro (⟨hnone, hne⟩ | ⟨first, later, rfl, hnone, hrest⟩)
      · exact absurd (consulted_nil.1 hnone).2 hne
      · obtain ⟨rfl, -⟩ := consulted_nil.1 hnone
        exact hrest
  | cons source front ih =>
    rw [List.cons_append, consulted_cons, consulted_cons]
    constructor
    · rintro (hdecided | ⟨first, later, rfl, hasked, hlater⟩)
      · exact .inl ⟨.inl hdecided, hdecided.2⟩
      · obtain ⟨hfront, hne⟩ | ⟨middle, last, rfl, hmiddle, hlast⟩ := ih.1 hlater
        · exact .inl ⟨.inr ⟨first, later, rfl, hasked, hfront⟩, hne⟩
        · exact .inr ⟨first ++ middle, last, (List.append_assoc ..).symm, .passed hasked hmiddle,
            hlast⟩
    · rintro (⟨hdecided | ⟨first, later, rfl, hasked, hfront⟩, hne⟩ |
        ⟨front', last, rfl, hfront, hlast⟩)
      · exact .inl hdecided
      · exact .inr ⟨first, later, rfl, hasked, ih.2 (.inl ⟨hfront, hne⟩)⟩
      · obtain ⟨-, hne⟩ | ⟨first, middle, rfl, hasked, hmiddle⟩ := consulted_cons.1 hfront
        · exact absurd rfl hne
        · exact .inr ⟨first, middle ++ last, List.append_assoc .., hasked,
            ih.2 (.inr ⟨middle, last, rfl, hmiddle, hlast⟩)⟩

end Consulted

/-- A search that goes on only where nothing has been found. -/
theorem runs_unlessFound {x y : Procedure (List Int)} {made : List (Call × CallResult)}
    {result : Except Failure (List Int)} :
    (x >>= fun
      | [] => y
      | ids => pure ids).Runs made result ↔
      (x.Runs made result ∧ result ≠ .ok []) ∨
        ∃ first later, made = first ++ later ∧ x.Runs first (.ok []) ∧ y.Runs later result := by
  rw [Procedure.runs_bind]
  constructor
  · rintro (⟨e, hfirst, rfl⟩ | ⟨_ | ⟨id, ids⟩, first, later, rfl, hfirst, hlater⟩)
    · exact .inl ⟨hfirst, nofun⟩
    · exact .inr ⟨first, later, rfl, hfirst, hlater⟩
    · obtain ⟨rfl, rfl⟩ := Procedure.runs_decided.1 hlater
      rw [List.append_nil]
      exact .inl ⟨hfirst, nofun⟩
  · rintro (⟨hfirst, hne⟩ | ⟨first, later, rfl, hfirst, hlater⟩)
    · rcases result with e | (_ | ⟨id, ids⟩)
      · exact .inl ⟨e, hfirst, rfl⟩
      · exact absurd rfl hne
      · exact .inr ⟨id :: ids, made, [], (List.append_nil made).symm, hfirst, .done _⟩
    · exact .inr ⟨[], first, later, rfl, hfirst, hlater⟩

theorem runs_firstAnswer {identifier : String} {chain : List (Resolver Plan)}
    {made : List (Call × CallResult)} {result : Except Failure (List Int)} :
    (firstAnswer identifier chain).Runs made result ↔
      Consulted (fun r => (r.lookup identifier).Runs) chain made result := by
  induction chain generalizing made with
  | nil => exact Plan.runs_done.trans consulted_nil.symm
  | cons r chain ih =>
    -- a chain is a search by its head that goes on with the rest
    have hsearch : firstAnswer identifier (r :: chain) = ExceptT.run
        ((ExceptT.mk (r.lookup identifier) : Procedure (List Int)) >>= fun
          | [] => ExceptT.mk (firstAnswer identifier chain)
          | ids => pure ids) := by
      refine congrArg (Plan.bind (r.lookup identifier)) (funext fun answer => ?_)
      rcases answer with e | (_ | ⟨id, ids⟩)
      · rfl
      · rfl
      · rfl
    rw [hsearch, consulted_cons]
    simp only [← ih]
    exact runs_unlessFound

end Resolver

/-! ## Addresses -/

namespace Guests

/-- An address: four numbers up to 255, in digits without needless zeros. -/
def IsAddress (s : String) : Prop :=
  ∃ numbers : List Nat, numbers.length = 4 ∧ (∀ n ∈ numbers, n ≤ 255) ∧
    s = Text.join "." (numbers.map Text.ofNat)

theorem isOctet_iff {cs : List Char} :
    isOctet cs = true ↔ ∃ n ≤ 255, cs = Nat.toDigits 10 n := by
  constructor
  · intro h
    simp only [isOctet, Bool.and_eq_true, Bool.or_eq_true, decide_eq_true_eq, bne_iff_ne,
      Option.any_eq_true_iff_get] at h
    obtain ⟨⟨-, hfront⟩, hsome, hle⟩ := h
    exact ⟨_, hle, (Text.toDigits_of_natural? (Option.some_get hsome).symm hfront).symm⟩
  · rintro ⟨n, hn, rfl⟩
    have hall : ∀ n < 256, isOctet (Nat.toDigits 10 n) = true := by decide +kernel
    exact hall n (by omega)

theorem toList_join_ofNat (numbers : List Nat) :
    (Text.join "." (numbers.map Text.ofNat)).toList =
      ['.'].intercalate (numbers.map (Nat.toDigits 10)) := by
  rw [Text.join, String.toList_intercalate, List.map_map]
  refine congrArg _ (List.map_congr_left fun n _ => ?_)
  exact String.toList_ofList

theorem exists_numbers {parts : List (List Char)} (h : ∀ part ∈ parts, isOctet part = true) :
    ∃ numbers : List Nat, (∀ n ∈ numbers, n ≤ 255) ∧ parts = numbers.map (Nat.toDigits 10) := by
  induction parts with
  | nil => exact ⟨[], List.forall_mem_nil _, rfl⟩
  | cons part parts ih =>
    obtain ⟨n, hn, rfl⟩ := isOctet_iff.1 (h part List.mem_cons_self)
    obtain ⟨numbers, hle, rfl⟩ := ih fun p hp => h p (List.mem_cons_of_mem _ hp)
    exact ⟨n :: numbers, List.forall_mem_cons.2 ⟨hn, hle⟩, rfl⟩

theorem isIpv4_iff {s : String} : isIpv4 s = true ↔ IsAddress s := by
  simp only [isIpv4, Bool.and_eq_true, beq_iff_eq, List.all_eq_true]
  constructor
  · rintro ⟨hlength, hparts⟩
    obtain ⟨numbers, hle, hsplit⟩ := exists_numbers hparts
    refine ⟨numbers, by rw [← hlength, hsplit, List.length_map], hle, ?_⟩
    apply String.toList_injective
    rw [toList_join_ofNat, ← hsplit, Text.intercalate_splitAll]
  · rintro ⟨numbers, hlength, hle, rfl⟩
    -- no digit is a dot, so that the text is split where it was joined
    have hpieces : ∀ piece ∈ numbers.map (Nat.toDigits 10), ∀ c ∈ piece, (c == '.') = false := by
      intro piece hpiece c hc
      obtain ⟨n, -, rfl⟩ := List.mem_map.1 hpiece
      exact beq_eq_false_iff_ne.2 (Text.ne_of_isDigit (Text.isDigit_toDigits c hc) (by decide))
    have hne : numbers.map (Nat.toDigits 10) ≠ [] := by
      rw [ne_eq, List.map_eq_nil_iff]
      rintro rfl
      cases hlength
    rw [toList_join_ofNat, Text.splitAll_intercalate (p := (· == '.')) rfl hne hpieces,
      List.length_map]
    refine ⟨hlength, fun piece hpiece => ?_⟩
    obtain ⟨n, hn, rfl⟩ := List.mem_map.1 hpiece
    exact isOctet_iff.2 ⟨n, hle n hn, rfl⟩

example : isIpv4 "10.0.0.255" = true ∧ isIpv4 "10.0.0.256" = false ∧
    isIpv4 "10.0.0.01" = false ∧ isIpv4 "10.0.0" = false := by
  decide +kernel

/-! ## Listings by one property -/

/-- The filter of the servers with a property, in the order of their ids. -/
def byProperty (property value : String) : Filter :=
  ⟨[("virtualGuests", .branch (Fields.insert property (Shorthand.text value)
    [("id", .leaf (.text "orderBy") [⟨"sort", [.str "ASC"]⟩])]))]⟩

def listingBy (property value : String) : Call :=
  ⟨"Account", "getVirtualGuests", [],
    { CallOptions.none with mask := some "id", filter := some (byProperty property value) }⟩

/-- A run of the listing that a call asks for, and the ids in it. -/
def Lists (call : Call) (made : List (Call × CallResult)) (result : Except Failure (List Int)) :
    Prop :=
  ∃ found, (Procedure.listing call).Runs made found ∧
    result = found.map (List.filterMap fun guest => (guest.get? "id").bind Json.i64?)

/-- The properties by which servers are looked up. -/
def properties : List String := ["primaryIpAddress", "primaryBackendIpAddress", "hostname"]

/-- A listing that looks for one property, all else left as it is. -/
structure Listing.LooksFor (l : Listing) (property value : String) : Prop where
  property_mem : property ∈ properties
  leaves_eq : l.leaves = [(property, Shorthand.text value)]
  method_eq : l.method = "getVirtualGuests"
  filter_eq : l.filter = none
  limit_eq : l.limit = none

section Listing

variable {l : Listing} {property value : String} {made : List (Call × CallResult)}
  {result : Except Failure (List Int)}

theorem Listing.LooksFor.toFilter_eq (h : l.LooksFor property value) :
    l.toFilter = .ok (byProperty property value) := by
  have hnames : ∀ p ∈ properties,
      Filter.segments (Listing.scope ++ "." ++ p) = ["virtualGuests", p] ∧
      (Filter.segments (Listing.scope ++ "." ++ p)).any Text.isBlankText = false ∧ "id" ≠ p := by
    decide +kernel
  obtain ⟨hpath, hblank, hid⟩ := hnames property h.property_mem
  have hown : l.ownFilter =
      .ok ⟨[("virtualGuests", .branch [(property, Shorthand.text value)])]⟩ := by
    rw [Listing.ownFilter, h.leaves_eq]
    exact (bind_pure _).trans (Filter.set_empty hpath hblank _)
  have hscope : Filter.IsPath (some Listing.scope) := by
    rintro s ⟨⟩
    decide +kernel
  have hplain : ((some ⟨[("virtualGuests", .branch [(property, Shorthand.text value)])]⟩ :
      Option Filter).getD .empty).hasOperation "orderBy" = false := by
    simp [Filter.hasOperation, FilterNode.anyHasOperation, FilterNode.hasOperation,
      Shorthand.hasOperation_text]
  -- the property goes beside the order, since it is not the id
  obtain ⟨k, rest, hordered, hmerge⟩ := Filter.ordered_eq_merge hscope hplain
  have hpathId : Filter.idPath (some Listing.scope) = ["virtualGuests", "id"] := by decide +kernel
  obtain ⟨rfl, rfl⟩ := List.cons.inj (hordered.symm.trans hpathId)
  rw [Listing.toFilter, hown, h.filter_eq]
  refine congrArg Except.ok (hmerge.trans ?_)
  simp [Filter.merge, byProperty, FilterNode.mergeChildren, FilterNode.merge, FilterNode.under,
    Fields.find?, Fields.insert, Shorthand.orderBy, SortDirection.text, hid]

/-- The ids of the servers with a property come from one listing. -/
theorem Listing.LooksFor.runs_idsOf (h : l.LooksFor property value) :
    (idsOf l).Runs made result ↔ Lists (listingBy property value) made result := by
  have hfilter : ({ l with mask := some "id" } : Listing).toFilter =
      .ok (byProperty property value) := h.toFilter_eq
  have hlist : list { l with mask := some "id" } =
      Procedure.listing (listingBy property value) := by
    rw [list, hfilter]
    show Procedure.listing ⟨"Account", l.method, [], { CallOptions.none with
      mask := some "id", filter := some (byProperty property value), limit := l.limit }⟩ = _
    rw [h.method_eq, h.limit_eq]
    rfl
  rw [Lists, ← hlist]
  exact Procedure.runs_map

theorem looksFor_publicIp (value : String) :
    ({ Listing.all with publicIp := some value }).LooksFor "primaryIpAddress" value :=
  ⟨by decide, rfl, rfl, rfl, rfl⟩

theorem looksFor_privateIp (value : String) :
    ({ Listing.all with privateIp := some value }).LooksFor "primaryBackendIpAddress" value :=
  ⟨by decide, rfl, rfl, rfl, rfl⟩

theorem looksFor_hostname (value : String) :
    ({ Listing.all with hostname := some value }).LooksFor "hostname" value :=
  ⟨by decide, rfl, rfl, rfl, rfl⟩

/-- The filter of a property orders the listing already. -/
theorem hasOperation_byProperty (hproperty : property ∈ properties) :
    (byProperty property value).hasOperation "orderBy" = true := by
  have hid : "id" ≠ property := by
    rintro rfl
    revert hproperty
    decide
  simp only [Filter.hasOperation, byProperty, Fields.insert, if_neg hid]
  split
  all_goals simp [FilterNode.anyHasOperation, FilterNode.hasOperation]

/-- The pages of a listing for a property are its only calls, and there is at least one. -/
theorem pages_of_runs_listingBy (hproperty : property ∈ properties)
    {found : Except Failure (List Json)}
    (h : (Procedure.listing (listingBy property value)).Runs made found) :
    made ≠ [] ∧ ∀ x ∈ made, ∃ offset limit, x.1 =
      { listingBy property value with
        options := { (listingBy property value).options with
          limit := some limit, offset := offset } } := by
  constructor
  · -- a listing starts with an empty buffer, and so with a fetch
    obtain ⟨out, hout, -⟩ := Plan.runs_map.1 h
    change (Pager.plan (listingBy property value) (18446744073709551614 + 1)
      (Pager.between 100 0 0)).Runs made out at hout
    rw [Pager.plan, Pager.items_fetch _ _ _ (by decide) rfl rfl] at hout
    obtain ⟨r, rest, rfl, -⟩ := Plan.runs_ask.1 hout
    exact List.cons_ne_nil _ _
  · intro x hx
    obtain ⟨offset, limit, hpage⟩ := Procedure.page_of_runs_listing h x hx
    refine ⟨offset, limit, ?_⟩
    have hkept : Filter.ordered (some (byProperty property value))
        (Naming.listingScope "getVirtualGuests") = byProperty property value := by
      simp [Filter.ordered, hasOperation_byProperty hproperty]
    rw [hpage, Call.page]
    simp only [listingBy, hkept]

end Listing

/-! ## Servers -/

section Servers

variable {identifier : String} {made : List (Call × CallResult)}

theorem runs_idsByHostname {result : Except Failure (List Int)} :
    (idsByHostname identifier).Runs made result ↔
      Lists (listingBy "hostname" identifier) made result :=
  (looksFor_hostname identifier).runs_idsOf

theorem runs_idsByAddress {result : Except Failure (List Int)}
    (h : IsAddress (Text.trimmed identifier)) :
    (idsByAddress identifier).Runs made result ↔
      Resolver.Consulted Lists [listingBy "primaryIpAddress" (Text.trimmed identifier),
        listingBy "primaryBackendIpAddress" (Text.trimmed identifier)] made result := by
  rw [idsByAddress, isIpv4_iff.2 h, Resolver.consulted_cons]
  simp only [Resolver.consulted_singleton, ← (looksFor_publicIp _).runs_idsOf,
    ← (looksFor_privateIp _).runs_idsOf]
  exact Resolver.runs_unlessFound

theorem runs_idsByAddress_of_not {result : Except Failure (List Int)}
    (h : ¬ IsAddress (Text.trimmed identifier)) :
    (idsByAddress identifier).Runs made result ↔ Resolver.Consulted Lists [] made result := by
  rw [idsByAddress, Bool.eq_false_iff.2 (mt isIpv4_iff.1 h)]
  exact Procedure.runs_decided.trans Resolver.consulted_nil.symm

/-- What stands for the address of an identifier stands in front of its host name. -/
theorem runs_ids {front : List Call} (h : ∀ n, ¬ Resolver.IsLiteral identifier n)
    (hfront : ∀ {made result}, (idsByAddress identifier).Runs made result ↔
      Resolver.Consulted Lists front made result) {result : Except Failure (List Int)} :
    (ids identifier).Runs made result ↔
      Resolver.Consulted Lists (front ++ [listingBy "hostname" identifier]) made result := by
  rw [ids, Procedure.Runs, Resolver.ids_of_not_isLiteral _ h, Resolver.consulted_append]
  simp only [← hfront, Resolver.consulted_singleton, ← runs_idsByHostname]
  refine Resolver.runs_firstAnswer.trans (Resolver.consulted_cons.trans ?_)
  simp only [Resolver.consulted_singleton]
  rfl

end Servers

end Guests

namespace Resolver

open Guests

/-- Which resolvers are asked for the ids of an identifier, and what comes of it.

* For any chain of resolvers, however they answer: an identifier that is an id by itself is
  given back, and nobody is asked.  With any other the resolvers up to the first that knows
  some ids or fails are asked in turn, once each, with the identifier as it stands; the answer
  is that of the last one, or no ids if none knows any.
* The search for one id asks the same questions.
* Servers are looked up in this way by the listings for a public address, for a private
  address, and for a host name; the first two only if the identifier is an address.  Each asks
  for its pages, at least for one, and for nothing else. -/
theorem resolved_in_turn :
    (∀ (b : Answers) (names : List String) (objectType identifier : String)
        (asked : List Question),
      let chain := b.chain names
      (∀ n, IsLiteral identifier n → ids chain identifier asked = (.ok [n], asked)) ∧
      ((∀ n, ¬ IsLiteral identifier n) →
        (∃ j, IsLeast {i | Decides b identifier 0 asked names.length i} j ∧
          ids chain identifier asked =
            (answerAt b identifier 0 asked j, asked ++ questions identifier 0 (j + 1))) ∨
        (∀ i < names.length, answerAt b identifier 0 asked i = .ok []) ∧
          ids chain identifier asked =
            (.ok [], asked ++ questions identifier 0 names.length)) ∧
      ∃ result, id objectType chain identifier asked = (result, (ids chain identifier asked).2) ∧
        Single identifier (ids chain identifier asked).1 result) ∧
    (∀ identifier made,
      (∀ n, IsLiteral identifier n → ∀ found,
        (Guests.ids identifier).Runs made found ↔ made = [] ∧ found = .ok [n]) ∧
      ((∀ n, ¬ IsLiteral identifier n) → ∀ found,
        (IsAddress (Text.trimmed identifier) →
          ((Guests.ids identifier).Runs made found ↔
            Consulted Lists [listingBy "primaryIpAddress" (Text.trimmed identifier),
              listingBy "primaryBackendIpAddress" (Text.trimmed identifier),
              listingBy "hostname" identifier] made found)) ∧
        (¬ IsAddress (Text.trimmed identifier) →
          ((Guests.ids identifier).Runs made found ↔
            Consulted Lists [listingBy "hostname" identifier] made found))) ∧
      ∀ result, (Guests.id identifier).Runs made result →
        ∃ found, (Guests.ids identifier).Runs made found ∧ Single identifier found result) ∧
    ∀ property ∈ properties, ∀ value made found,
      (Procedure.listing (listingBy property value)).Runs made found →
        made ≠ [] ∧ ∀ x ∈ made, ∃ offset limit, x.1 =
          { listingBy property value with
            options := { (listingBy property value).options with
              limit := some limit, offset := offset } } := by
  refine ⟨fun b names objectType identifier asked => ⟨?_, ?_, ?_⟩,
    fun identifier made => ⟨?_, ?_, ?_⟩, ?_⟩
  · intro n hn
    rw [ids_of_isLiteral _ hn]
    rfl
  · intro hn
    rw [ids_of_not_isLiteral _ hn]
    exact firstAnswer_chainFrom b identifier names 0 asked
  · have hrun (f : Except Failure (List Int) → Except Failure Int)
        (x : StateM (List Question) (Except Failure (List Int))) :
        (f <$> x) asked = (f (x asked).1, (x asked).2) := rfl
    rw [id_eq_map, hrun]
    generalize ids (b.chain names) identifier asked = run
    exact ⟨_, rfl, single_only objectType identifier run.1⟩
  · intro n hn found
    rw [Guests.ids, ids_of_isLiteral _ hn]
    exact Procedure.runs_decided
  · intro hn found
    constructor
    · intro h
      exact runs_ids hn (runs_idsByAddress h)
    · intro h
      exact runs_ids hn (runs_idsByAddress_of_not h)
  · intro result h
    rw [Guests.id, id_eq_map] at h
    rw [Guests.ids]
    generalize ids resolvers identifier = search at h ⊢
    obtain ⟨found, hfound, rfl⟩ := Plan.runs_map.1 h
    exact ⟨found, hfound, single_only Guests.objectType identifier found⟩
  · exact fun property hproperty value made found => pages_of_runs_listingBy hproperty

end Resolver

end CloudClient
