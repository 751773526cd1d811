import CloudClient.Call.Transport
import CloudClient.Proofs.Json.Exact
import CloudClient.Proofs.Rest
import CloudClient.Proofs.Text.Trim
import CloudClient.Proofs.XmlRpc.Call

/-!
# Both wire formats carry the same call

XML-RPC puts the options of a call into a container in front of its arguments, REST into its
address, with the arguments in a JSON body.  A service that looks in the places of its format
finds the same object, mask, filter and arguments, and misses the same ones.

* `Carried`: what a service finds in a request.
* `XmlRpc.carried?` and `Rest.carried?` look for it.
* `WireFormat.carry_same_call`: they find the call that was encoded.
-/

namespace CloudClient

open Xml (Plain)

/-- What a service finds in a request. -/
structure Carried where
  id : Option Int
  mask : Option String
  filter : Option Json
  args : List Json

def Request.carried (r : Request) : Carried where
  id := r.id
  mask := r.mask?.map Mask.wireText
  filter := r.filter?.map Filter.toJson
  args := r.args

/-! ## Calls that either format can carry -/

/-- Names are plain, the address has neither query nor fragment, the caller's entries keep to
names of their own, texts are made of characters of XML documents other than the carriage
return, and numbers are integers of 64 bits or finite doubles. -/
structure Request.Portable (r : Request) : Prop where
  service : Naming.isPlain r.service = true
  method : Naming.isPlain r.method = true
  endpoint : Rest.Unmarked r.endpoint
  free : ∀ name ∈ XmlRpc.derivedNames r.service, Fields.find? name r.headers = none
  headers : (Json.obj r.headers).Kept
  id : ∀ id, r.id = some id → Text.fitsI64 id = true
  mask : ∀ mask, r.mask = some mask → Plain mask.toList
  filter : ∀ filter, r.filter = some filter → filter.toJson.Kept
  limit : ∀ limit : Nat, r.limit = some limit → Text.fitsI64 limit = true
  offset : Text.fitsI64 r.offset = true
  args : (Json.arr r.args).Kept

/-! ## XML-RPC -/

namespace XmlRpc

/-- What a service finds in the parameters of a call: the container is the first of them. -/
def carriedBy? (service : String) : List Json → Option Carried
  | [] => none
  | first :: args => do
    let container ← (first.get? "headers").bind Json.obj?
    return {
      id := (Fields.find? (service ++ "InitParameters") container).bind fun entry =>
        (entry.get? "id").bind Json.i64?
      mask := (Fields.find? (service ++ "ObjectMask") container).bind fun entry =>
        (entry.get? "mask").bind Json.str?
      filter := Fields.find? (service ++ "ObjectFilter") container
      args := args }

def carried? (service : String) (p : PreparedRequest) : Option Carried :=
  (p.body.bind paramsOf?).bind (carriedBy? service)

theorem carriedBy?_parameters {r : Request}
    (hfree : ∀ name ∈ derivedNames r.service, Fields.find? name r.headers = none)
    (hid : ∀ id, r.id = some id → Text.fitsI64 id = true) :
    carriedBy? r.service (parameters r) = some r.carried := by
  show some (Carried.mk _ _ _ _) = _
  rw [find?_object hfree, find?_mask hfree, find?_filter hfree]
  congr 1
  -- the object and the mask stand in structures of their own
  have hobject : ((r.id.map fun id => Json.obj [("id", .int id)]).bind fun entry =>
      (entry.get? "id").bind Json.i64?) = r.id := by
    cases hr : r.id with
    | none => rfl
    | some id =>
      have hfits : -9223372036854775808 ≤ id ∧ id ≤ 9223372036854775807 :=
        of_decide_eq_true (hid id hr)
      show (if _ then some id else none) = some id
      rw [if_pos hfits]
  have hmask : ((r.mask?.map fun m => Json.obj [("mask", .str (Mask.wireText m))]).bind
      fun entry => (entry.get? "mask").bind Json.str?) = r.mask?.map Mask.wireText := by
    cases r.mask? <;> rfl
  rw [hobject, hmask]
  rfl

theorem plain_of_isPlain {name : String} (h : Naming.isPlain name = true) : Plain name.toList := by
  intro c hc
  have hrange := Url.toNat_of_isUnreserved (Naming.isUnreserved_of_isPlain h c hc)
  refine ⟨?_, Url.ne_of_isUnreserved (Naming.isUnreserved_of_isPlain h c hc) (by decide)⟩
  unfold Xml.isChar
  rw [if_neg (by omega)]
  simp only [Bool.and_eq_true, bne_iff_ne, ne_eq]
  omega

theorem plain_wireText {mask : String} (h : Plain mask.toList) :
    Plain (Mask.wireText mask).toList := by
  have htrimmed : Plain (Text.trimmed mask).toList := by
    intro c hc
    rw [Text.trimmed, String.toList_ofList] at hc
    exact h c (Text.mem_of_mem_trim hc)
  have hbracket : Plain "mask[".toList ∧ Plain "]".toList := by decide
  unfold Mask.wireText
  dsimp only
  split
  · exact htrimmed
  · intro c hc
    rw [String.toList_append, String.toList_append, List.mem_append, List.mem_append] at hc
    exact hc.elim (·.elim (hbracket.1 c) (htrimmed c)) (hbracket.2 c)

/-- The parameters of a call come back from its body. -/
theorem carried?_prepare {r : Request} (h : r.Portable) :
    ∃ p, prepare r = .ok p ∧ carried? r.service p = some r.carried := by
  have hcontainer := kept_container (plain_of_isPlain h.service) h.id
    (fun mask hmask => plain_wireText (h.mask mask (Option.filter_eq_some_iff.1 hmask).1))
    (fun filter hfilter => h.filter filter (Option.filter_eq_some_iff.1 hfilter).1)
    h.limit h.offset h.headers
  have hheaders : (Json.obj [("headers", .obj (container r))]).Kept := by
    have hname : Plain "headers".toList := by decide
    exact ⟨⟨List.pairwise_singleton _ _, hcontainer.ordered, trivial⟩,
      hname, hcontainer.portable, trivial⟩
  have hbody : paramsOf? (Writer.call r.method (parameters r)) = some (parameters r) :=
    paramsOf?_call (plain_of_isPlain h.method) ⟨hheaders.ordered, h.args.ordered⟩
      ⟨hheaders.portable, h.args.portable⟩
  refine ⟨_, rfl, ?_⟩
  rw [carried?, Option.bind_some, hbody, Option.bind_some]
  exact carriedBy?_parameters h.free h.id

end XmlRpc

/-! ## REST -/

namespace Rest

/-- The arguments in a body; there are none without one. -/
def argumentsOf? : Option String → Option (List Json)
  | none => some []
  | some body => ((Json.readAll? body).bind (·.get? "parameters")).bind Json.arr?

def carried? (p : PreparedRequest) : Option Carried := do
  let args ← argumentsOf? p.body
  return {
    id := object? p.url
    mask := parameter? "objectMask" p.url
    filter := (parameter? "objectFilter" p.url).bind Json.readAll?
    args := args }

theorem argumentsOf?_body {r : Request} (hargs : (Json.arr r.args).Kept) :
    argumentsOf? (body? r) = some r.args := by
  unfold body?
  -- without arguments there is no body to read
  split
  · rename_i hempty
    rw [List.isEmpty_iff.1 hempty]
    rfl
  · have hname : Plain "parameters".toList := by decide
    have hread := @Json.readAll?_compact (.obj [("parameters", .arr r.args)])
      ⟨List.pairwise_singleton _ _, hargs.ordered, trivial⟩ ⟨hname, hargs.portable, trivial⟩
    rw [argumentsOf?, hread]
    rfl

section Parameters

variable {r : Request} (hendpoint : Unmarked r.endpoint) (hservice : Unmarked r.service)
  (hmethod : Unmarked r.method) {u : Url} (h : url r = .ok u)

include hendpoint hservice hmethod h

theorem parameter?_mask : parameter? "objectMask" u.text = r.mask?.map Mask.wireText := by
  rw [parameter?, decode_writtenQuery hendpoint hservice hmethod h, parameters]
  cases r.mask? <;> cases r.filter? <;> cases window? r <;> rfl

theorem parameter?_filter :
    parameter? "objectFilter" u.text = r.filter?.map fun f => f.toJson.compact := by
  rw [parameter?, decode_writtenQuery hendpoint hservice hmethod h, parameters]
  cases r.mask? <;> cases r.filter? <;> cases window? r <;> rfl

end Parameters

/-- A request with arguments is not a GET. -/
theorem verb_ne_get {r : Request} (h : r.args ≠ []) : verb r ≠ .get := by
  have hempty : r.args.isEmpty = false := by simpa using h
  unfold verb
  cases hverb : Naming.verb r.method <;> simp [hempty]

theorem prepare_ok {r : Request} {p : PreparedRequest} (h : prepare r = .ok p) :
    ∃ u, url r = .ok u ∧ p.url = u.text ∧ p.body = body? r ∧ p.verb = verb r := by
  unfold prepare at h
  cases hurl : url r with
  | error e =>
    rw [hurl] at h
    cases h
  | ok u =>
    rw [hurl] at h
    obtain rfl := Except.ok.inj h
    exact ⟨u, rfl, rfl, rfl, rfl⟩

/-- Address and body of a call hold what it says. -/
theorem carried?_prepare {r : Request} (h : r.Portable) {p : PreparedRequest}
    (hp : prepare r = .ok p) : carried? p = some r.carried := by
  obtain ⟨u, hurl, haddress, hbody, -⟩ := prepare_ok hp
  have hservice := Unmarked.of_isPlain h.service
  have hmethod := Unmarked.of_isPlain h.method
  have hfilter : (r.filter?.map fun f => f.toJson.compact).bind Json.readAll? =
      r.filter?.map Filter.toJson := by
    cases hr : r.filter? with
    | none => rfl
    | some f =>
      have hkept := h.filter f (Option.filter_eq_some_iff.1 hr).1
      exact Json.readAll?_compact hkept.ordered hkept.portable
  rw [carried?, haddress, hbody, argumentsOf?_body h.args,
    object?_url h.endpoint h.service h.method h.id hurl,
    parameter?_mask h.endpoint hservice hmethod hurl,
    parameter?_filter h.endpoint hservice hmethod hurl, hfilter]
  rfl

end Rest

/-! ## Both formats -/

/-- A service finds the same call in both requests: the one that was encoded.  One that takes
arguments is no GET. -/
theorem WireFormat.carry_same_call (r : Request) (h : r.Portable) (rest : PreparedRequest)
    (hrest : WireFormat.rest.prepare r = .ok rest) :
    ∃ xml, WireFormat.xmlRpc.prepare r = .ok xml ∧
      XmlRpc.carried? r.service xml = Rest.carried? rest ∧
      Rest.carried? rest = some r.carried ∧ (r.args ≠ [] → rest.verb ≠ .get) := by
  obtain ⟨xml, hxml, hcarried⟩ := XmlRpc.carried?_prepare h
  -- each format is compared with the call, as they have no places in common
  have hsame := Rest.carried?_prepare h hrest
  refine ⟨xml, hxml, hcarried.trans hsame.symm, hsame, fun hargs => ?_⟩
  obtain ⟨u, -, -, -, hverb⟩ := Rest.prepare_ok hrest
  rw [hverb]
  exact Rest.verb_ne_get hargs

theorem WireFormat.carry_same_call_edit :
    let r : Request :=
      { Request.plain "http://api.test/v3" "SoftLayer_Virtual_Guest" "getObject" "client/1" with
        args := [.str "web & db", .arr [.null, .num (.double ⟨0x3FE0000000000000⟩)]]
        id := some 1234
        mask := some " id,hostname "
        filter := some ⟨[("hostname", .leaf (.text "*= web") [])]⟩
        headers := [("authenticate", .obj [("apiKey", .str "key"), ("username", .str "user")])]
        limit := some 50 }
    ∃ rest xml, WireFormat.rest.prepare r = .ok rest ∧ WireFormat.xmlRpc.prepare r = .ok xml ∧
      XmlRpc.carried? r.service xml = Rest.carried? rest ∧ rest.verb ≠ .get := by
  intro r
  have hheaders : (Json.obj r.headers).Kept := by
    have hnames : Plain "authenticate".toList ∧ Plain "apiKey".toList ∧
        Plain "username".toList := by
      decide
    have htexts : Plain "key".toList ∧ Plain "user".toList := by decide
    have hlt : "apiKey" < "username" := by decide
    exact ⟨⟨List.pairwise_singleton _ _, ⟨List.pairwise_pair.2 hlt, trivial, trivial, trivial⟩,
      trivial⟩, hnames.1, ⟨hnames.2.1, htexts.1, hnames.2.2, htexts.2, trivial⟩, trivial⟩
  have hfilter (filter : Filter) (h : r.filter = some filter) : filter.toJson.Kept := by
    obtain rfl := Option.some.inj h
    have hplain : Plain "hostname".toList ∧ Plain "operation".toList ∧ Plain "*= web".toList := by
      decide
    exact ⟨⟨List.pairwise_singleton _ _, ⟨List.pairwise_singleton _ _, trivial, trivial⟩,
      trivial⟩, hplain.1, ⟨hplain.2.1, hplain.2.2, trivial⟩, trivial⟩
  have hargs : (Json.arr r.args).Kept := by
    have hplain : Plain "web & db".toList := by decide
    have hfinite : Binary64.isFinite ⟨0x3FE0000000000000⟩ = true := by decide
    exact ⟨⟨trivial, ⟨trivial, trivial, trivial⟩, trivial⟩, hplain, ⟨trivial, hfinite, trivial⟩,
      trivial⟩
  have hportable : r.Portable :=
    { service := by decide
      method := by decide
      endpoint := by decide
      free := by decide
      headers := hheaders
      id := fun id h => Option.some.inj h ▸ rfl
      mask := fun mask h => Option.some.inj h ▸ by decide
      filter := hfilter
      limit := fun limit h => Option.some.inj h ▸ rfl
      offset := rfl
      args := hargs }
  obtain ⟨u, hurl⟩ := @Rest.exists_url r (by decide +kernel)
  obtain ⟨rest, hrest⟩ : ∃ rest, WireFormat.rest.prepare r = .ok rest := by
    rw [WireFormat.prepare, Rest.prepare, hurl]
    exact ⟨_, rfl⟩
  obtain ⟨xml, hxml, hsame, -, hverb⟩ := WireFormat.carry_same_call r hportable rest hrest
  exact ⟨rest, xml, hrest, hxml, hsame, hverb (List.cons_ne_nil _ _)⟩

end CloudClient
