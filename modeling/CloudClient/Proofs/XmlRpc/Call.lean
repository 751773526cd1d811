import CloudClient.Proofs.XmlRpc.RoundTrip
import CloudClient.XmlRpc.Message

/-!
# An XML-RPC call is read back

Each option of a call has a name of its own in the header container, so that no entry takes the
place of another one, and a caller's entry is replaced only where it bears such a name.  Who
gets the body of a call finds the container in it and the arguments behind it.

* `XmlRpc.derivedNames`: the names that the options use.
* `find?_object`, `find?_mask`, `find?_filter`, `find?_window`: what stands under them.
* `XmlRpc.paramsOf?` reads the body of a call.
* `XmlRpc.paramsOf?_call`: the parameters that it was written with.
-/

namespace CloudClient

open Xml (Node Reads Plain)

/-- A value that comes back from a body as it is. -/
structure Json.Kept (v : Json) : Prop where
  ordered : v.Ordered
  portable : v.Portable

theorem Json.kept_obj_iff {es : Fields Json} :
    (Json.obj es).Kept ↔ Fields.Sorted es ∧ ∀ e ∈ es, Plain e.1.toList ∧ e.2.Kept := by
  have hordered (es : Fields Json) : OrderedMembers es ↔ ∀ e ∈ es, e.2.Ordered := by
    induction es with
    | nil => simp [OrderedMembers]
    | cons e es ih => simp [OrderedMembers, ih]
  have hportable (es : Fields Json) :
      PortableMembers es ↔ ∀ e ∈ es, Plain e.1.toList ∧ e.2.Portable := by
    induction es with
    | nil => simp [PortableMembers]
    | cons e es ih => simp [PortableMembers, ih, and_assoc]
  constructor
  · rintro ⟨⟨hsorted, hmembers⟩, hportable'⟩
    refine ⟨hsorted, fun e he => ⟨((hportable es).1 hportable' e he).1, ?_⟩⟩
    exact ⟨(hordered es).1 hmembers e he, ((hportable es).1 hportable' e he).2⟩
  · rintro ⟨hsorted, hmembers⟩
    exact ⟨⟨hsorted, (hordered es).2 fun e he => (hmembers e he).2.ordered⟩,
      (hportable es).2 fun e he => ⟨(hmembers e he).1, (hmembers e he).2.portable⟩⟩

namespace XmlRpc

/-! ## Entries of the container -/

/-- The names under which the options of a call stand. -/
def derivedNames (service : String) : List String :=
  [service ++ "InitParameters", service ++ "ObjectMask", service ++ "ObjectFilter", "resultLimit"]

theorem find?_addEntry (name key : String) (value : Option Json) (container : Fields Json) :
    Fields.find? key (addEntry name value container) =
      if name = key then value.or (Fields.find? key container)
      else Fields.find? key container := by
  cases value with
  | none => simp [addEntry]
  | some v =>
    rw [addEntry, Fields.find?_insert]
    by_cases hkey : name = key <;> simp [hkey]

theorem append_ne_of_not_suffix {suffix key : String} (h : ¬ suffix.toList <:+ key.toList)
    (service : String) : service ++ suffix ≠ key := by
  rintro rfl
  exact h ⟨service.toList, String.toList_append.symm⟩

theorem append_ne_append {a b : String} (h : a ≠ b) (service : String) :
    service ++ a ≠ service ++ b := by
  intro heq
  have hlists := congrArg String.toList heq
  rw [String.toList_append, String.toList_append] at hlists
  exact h (String.toList_inj.1 (List.append_cancel_left hlists))

/-- The mask stands under its name, or else what the caller has put there. -/
theorem find?_mask_or (r : Request) : Fields.find? (r.service ++ "ObjectMask") (container r) =
    (r.mask?.map fun m => Json.obj [("mask", .str (Mask.wireText m))]).or
      (Fields.find? (r.service ++ "ObjectMask") r.headers) := by
  rw [container, find?_addEntry, if_neg (append_ne_of_not_suffix (by decide) _).symm,
    find?_addEntry, if_neg (append_ne_append (by decide) _),
    find?_addEntry, if_pos rfl,
    find?_addEntry, if_neg (append_ne_append (by decide) _)]

section Entries

variable {r : Request} (hfree : ∀ name ∈ derivedNames r.service, Fields.find? name r.headers = none)

include hfree

theorem find?_object : Fields.find? (r.service ++ "InitParameters") (container r) =
    r.id.map fun id => .obj [("id", .int id)] := by
  have hnone := hfree (r.service ++ "InitParameters") (by simp [derivedNames])
  -- the entries are passed from the one added last
  rw [container, find?_addEntry, if_neg (append_ne_of_not_suffix (by decide) _).symm,
    find?_addEntry, if_neg (append_ne_append (by decide) _),
    find?_addEntry, if_neg (append_ne_append (by decide) _),
    find?_addEntry, if_pos rfl, hnone, Option.or_none]

theorem find?_mask : Fields.find? (r.service ++ "ObjectMask") (container r) =
    r.mask?.map fun m => .obj [("mask", .str (Mask.wireText m))] := by
  have hnone := hfree (r.service ++ "ObjectMask") (by simp [derivedNames])
  rw [find?_mask_or, hnone, Option.or_none]

theorem find?_filter : Fields.find? (r.service ++ "ObjectFilter") (container r) =
    r.filter?.map Filter.toJson := by
  have hnone := hfree (r.service ++ "ObjectFilter") (by simp [derivedNames])
  rw [container, find?_addEntry, if_neg (append_ne_of_not_suffix (by decide) _).symm,
    find?_addEntry, if_pos rfl,
    find?_addEntry, if_neg (append_ne_append (by decide) _),
    find?_addEntry, if_neg (append_ne_append (by decide) _), hnone, Option.or_none]

end Entries

theorem find?_window {r : Request} (hfree : Fields.find? "resultLimit" r.headers = none) :
    Fields.find? "resultLimit" (container r) = window? r := by
  rw [container, find?_addEntry, if_pos rfl,
    find?_addEntry, if_neg (append_ne_of_not_suffix (by decide) _),
    find?_addEntry, if_neg (append_ne_of_not_suffix (by decide) _),
    find?_addEntry, if_neg (append_ne_of_not_suffix (by decide) _), hfree, Option.or_none]

/-! ## Parameters in a body -/

def paramOf? (param : Node) : Option Json :=
  (param.child? "value").bind fun v => (Reader.value v).toOption

def paramsOf? (body : String) : Option (List Json) := do
  let root ← Node.parse? body.toList
  let params ← root.child? "params"
  (params.children.filter (Node.isNamed "param")).mapM paramOf?

theorem reads_params_flatMap {args : List Json} (h : Json.PortableItems args) :
    Reads (args.flatMap fun v => Writer.wrap "param" (Writer.value v))
      (args.map fun v => .element "param" [node v]) := by
  induction args with
  | nil => exact .nil
  | cons v args ih => exact ((reads_value v h.1).wrap (by decide)).append (ih h.2)

theorem paramOf?_node {v : Json} (hordered : v.Ordered) (hportable : v.Portable) :
    paramOf? (.element "param" [node v]) = some v := by
  have hvalue := value_node v hordered hportable
  obtain ⟨content, hnode⟩ := exists_node v
  rw [hnode] at hvalue ⊢
  show (Reader.value (.element "value" content)).toOption = some v
  rw [hvalue]
  rfl

theorem mapM_paramOf? {args : List Json} (hordered : Json.OrderedItems args)
    (hportable : Json.PortableItems args) :
    ((args.map fun v => Node.element "param" [node v]).filter (Node.isNamed "param")).mapM
      paramOf? = some args := by
  induction args with
  | nil => rfl
  | cons v args ih =>
    have hnamed : Node.isNamed "param" (.element "param" [node v]) = true := rfl
    rw [List.map_cons, List.filter_cons_of_pos hnamed, List.mapM_cons,
      paramOf?_node hordered.1 hportable.1, ih hordered.2 hportable.2]
    rfl

/-- The body of a call is read as the parameters that it was written with. -/
theorem paramsOf?_call {method : String} (hmethod : Plain method.toList) {args : List Json}
    (hordered : Json.OrderedItems args) (hportable : Json.PortableItems args) :
    paramsOf? (Writer.call method args) = some args := by
  have hname : Reads (Writer.leaf "methodName" method) [leafNode "methodName" method] :=
    Xml.reads_leaf (by decide) hmethod
  have hparams : Reads (Writer.params args)
      [.element "params" (args.map fun v => .element "param" [node v])] :=
    (reads_params_flatMap hportable).wrap (by decide)
  have hparse := @Node.parse?_declared "methodCall" (by decide) _ _ (hname.append hparams).fills
  rw [paramsOf?, Writer.call, String.toList_ofList, hparse]
  exact mapM_paramOf? hordered hportable

/-! ## The container as a value -/

theorem kept_addEntry {name : String} (hname : Plain name.toList) {value : Option Json}
    (hvalue : ∀ v, value = some v → v.Kept) {entries : Fields Json} (h : (Json.obj entries).Kept) :
    (Json.obj (addEntry name value entries)).Kept := by
  cases value with
  | none => exact h
  | some v =>
    obtain ⟨hsorted, hentries⟩ := Json.kept_obj_iff.1 h
    refine Json.kept_obj_iff.2 ⟨Fields.sorted_insert hsorted, fun e he => ?_⟩
    rcases Fields.mem_insert he with rfl | he
    · exact ⟨hname, hvalue v rfl⟩
    · exact hentries e he

theorem kept_container {r : Request} (hservice : Plain r.service.toList)
    (hid : ∀ id, r.id = some id → Text.fitsI64 id = true)
    (hmask : ∀ mask, r.mask? = some mask → Plain (Mask.wireText mask).toList)
    (hfilter : ∀ filter, r.filter? = some filter → filter.toJson.Kept)
    (hlimit : ∀ limit : Nat, r.limit = some limit → Text.fitsI64 limit = true)
    (hoffset : Text.fitsI64 r.offset = true) (h : (Json.obj r.headers).Kept) :
    (Json.obj (container r)).Kept := by
  have hname {suffix : String} (hsuffix : Plain suffix.toList) :
      Plain (r.service ++ suffix).toList := by
    intro c hc
    rw [String.toList_append, List.mem_append] at hc
    exact hc.elim (hservice c) (hsuffix c)
  -- window, filter, mask and object, from the one added last
  refine kept_addEntry (by decide) ?_ (kept_addEntry (hname (by decide)) ?_
    (kept_addEntry (hname (by decide)) ?_ (kept_addEntry (hname (by decide)) ?_ h)))
  · intro v hv
    obtain ⟨limit, hr, rfl⟩ := Option.map_eq_some_iff.1 hv
    have hlt : "limit" < "offset" := by decide
    have hnames : Plain "limit".toList ∧ Plain "offset".toList := by decide
    exact ⟨⟨List.pairwise_pair.2 hlt, trivial, trivial, trivial⟩,
      hnames.1, hlimit limit hr, hnames.2, hoffset, trivial⟩
  · intro v hv
    obtain ⟨filter, hr, rfl⟩ := Option.map_eq_some_iff.1 hv
    exact hfilter filter hr
  · intro v hv
    obtain ⟨mask, hr, rfl⟩ := Option.map_eq_some_iff.1 hv
    have hplain : Plain "mask".toList := by decide
    exact ⟨⟨List.pairwise_singleton _ _, trivial, trivial⟩, hplain, hmask mask hr, trivial⟩
  · intro v hv
    obtain ⟨id, hr, rfl⟩ := Option.map_eq_some_iff.1 hv
    have hplain : Plain "id".toList := by decide
    exact ⟨⟨List.pairwise_singleton _ _, trivial, trivial⟩, hplain, hid id hr, trivial⟩

end XmlRpc

end CloudClient
