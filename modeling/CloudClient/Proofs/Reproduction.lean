import CloudClient.Proofs.Curl
import CloudClient.Proofs.Custody
import CloudClient.Proofs.XmlRpc.Call

/-!
# Reproduction — what is shown of a call

A call can be shown before it is made, for people to read and to try.  What is shown is the
call that would be sent, with a placeholder wherever a secret would stand, so that it tells
nothing about the secrets that the client holds.

* `Credential.Alike`: credentials that differ in nothing but what is secret.
* `PreparedRequest.TextOf`: what stands in the text of a request, in either wire format.
* `PreparedRequest.SameHead.shown`: the texts hide what an authorization grants.
* `prepares_authorized`: where a secret gets into a request.
* `Client.reproduce_alike`: what is shown does not depend on secrets, and is the call that is
  made otherwise.
-/

namespace CloudClient

/-! ## Credentials -/

namespace Credential

/-- Two credentials that differ in nothing but what is secret. -/
inductive Alike : Credential → Credential → Prop
  | basic (username : String) (key other : Secret) :
    Alike (.basic username key) (.basic username other)
  | session (userId : Int) (token other : Secret) :
    Alike (.session userId token) (.session userId other)
  | iam (token other : IamToken) : Alike (.iam token) (.iam other)

def secret : Credential → Secret
  | .basic _ apiKey => apiKey
  | .session _ token => token
  | .iam token => token.access

/-- What is shown in the place of the secret. -/
def standIn : Credential → Secret
  | .basic _ _ => ⟨"$API_KEY"⟩
  | .session _ _ => ⟨"$TOKEN"⟩
  | .iam _ => ⟨"$TOKEN"⟩

theorem secret_comp_placeholder : secret ∘ placeholder = standIn := by
  funext a
  cases a <;> rfl

theorem Alike.refl (a : Credential) : a.Alike a := by
  cases a with
  | basic username key => exact .basic username key key
  | session userId token => exact .session userId token token
  | iam token => exact .iam token token

/-- The placeholders for secrets do not depend on the secrets. -/
theorem Alike.placeholder_eq {a b : Credential} (h : a.Alike b) :
    a.placeholder = b.placeholder := by
  cases h <;> rfl

theorem alike_placeholder (a : Credential) : a.Alike a.placeholder := by
  cases a with
  | basic username key => exact .basic username key _
  | session userId token => exact .session userId token _
  | iam token => exact .iam token _

end Credential

def HeldAlike : Option Credential → Option Credential → Prop := Option.Rel Credential.Alike

namespace HeldAlike

theorem refl (held : Option Credential) : HeldAlike held held := by
  cases held with
  | none => exact .none
  | some a => exact .some (.refl a)

theorem placeholder_eq {held other : Option Credential} (h : HeldAlike held other) :
    held.map Credential.placeholder = other.map Credential.placeholder := by
  cases h with
  | none => rfl
  | some h => exact congrArg some h.placeholder_eq

theorem to_placeholder (held : Option Credential) :
    HeldAlike held (held.map Credential.placeholder) := by
  cases held with
  | none => exact .none
  | some a => exact .some a.alike_placeholder

end HeldAlike

/-! ## Headers -/

/-- Whether a header is an authorization: its name may be in any letter case. -/
def IsAuthorization (name : String) : Prop :=
  name.toList.map Char.toLower = "authorization".toList

theorem isAuthorization_iff {name : String} :
    IsAuthorization name ↔ Text.equalIgnoringCase name "authorization" = true := by
  have hlower : "authorization".toList.map Char.toLower = "authorization".toList := by decide
  rw [Text.equalIgnoringCase_iff, hlower, IsAuthorization]

/-- Two headers that differ at most in what stands after the first space of an
authorization. -/
inductive HeaderAlike : String × String → String × String → Prop
  | same (header : String × String) : HeaderAlike header header
  | authorization (name scheme granted other : String) (hname : IsAuthorization name)
    (hscheme : ' ' ∉ scheme.toList) :
    HeaderAlike (name, scheme ++ " " ++ granted) (name, scheme ++ " " ++ other)

namespace PreparedRequest

/-- Two requests with one verb, one address and the same headers but for what their
authorizations grant. -/
structure SameHead (p q : PreparedRequest) : Prop where
  verb : p.verb = q.verb
  url : p.url = q.url
  headers : List.Forall₂ HeaderAlike p.headers q.headers

theorem redacted_append {scheme : String} (h : ' ' ∉ scheme.toList) (granted : String) :
    redacted (scheme ++ " " ++ granted) = scheme ++ " $TOKEN" := by
  have hlist : (scheme ++ " " ++ granted).toList = scheme.toList ++ ' ' :: granted.toList := by
    rw [String.toList_append, String.toList_append, List.append_assoc]
    rfl
  have hscheme : ∀ c ∈ scheme.toList, (c == ' ') = false := by
    intro c hc
    exact beq_false_of_ne fun heq => h (heq ▸ hc)
  rw [redacted, hlist, Text.splitOnce?_append hscheme rfl]
  dsimp only
  rw [String.ofList_toList]

theorem shownHeader_of_isAuthorization {name : String} (h : IsAuthorization name)
    (value : String) : shownHeader (name, value) = name ++ ": " ++ redacted value := by
  rw [shownHeader, shownValue, if_pos (isAuthorization_iff.1 h)]

theorem shownHeader_eq {header other : String × String} (h : HeaderAlike header other) :
    shownHeader header = shownHeader other := by
  cases h with
  | same => rfl
  | authorization name scheme granted other hname hscheme =>
    rw [shownHeader_of_isAuthorization hname, shownHeader_of_isAuthorization hname,
      redacted_append hscheme, redacted_append hscheme]

theorem SameHead.shownHeaders {p q : PreparedRequest} (h : p.SameHead q) :
    p.headers.map shownHeader = q.headers.map shownHeader := by
  rw [← List.forall₂_eq_eq_eq, List.forall₂_map_left_iff, List.forall₂_map_right_iff]
  exact h.headers.imp fun _ _ => shownHeader_eq

/-- Neither text of a request tells what an authorization grants. -/
theorem SameHead.shown {p q : PreparedRequest} (h : p.SameHead q) (hbody : p.body = q.body) :
    p.curl = q.curl ∧ p.raw = q.raw := by
  have hquoted : p.headers.map (fun header => "-H '" ++ shownHeader header ++ "'") =
      q.headers.map fun header => "-H '" ++ shownHeader header ++ "'" := by
    have := congrArg (List.map fun text => "-H '" ++ text ++ "'") h.shownHeaders
    rwa [List.map_map, List.map_map] at this
  constructor
  · rw [curl, curl, h.verb, h.url, hbody, hquoted]
  · rw [raw, raw, h.verb, h.url, hbody, h.shownHeaders]

/-! ## Texts -/

/-- The line that shows a header.  Of an authorization it tells the scheme, if there is one. -/
inductive HeaderShown : String × String → String → Prop
  | plain {name : String} (value : String) (hname : ¬ IsAuthorization name) :
    HeaderShown (name, value) (name ++ ": " ++ value)
  | scheme {name scheme : String} (granted : String) (hname : IsAuthorization name)
    (hscheme : ' ' ∉ scheme.toList) :
    HeaderShown (name, scheme ++ " " ++ granted) (name ++ ": " ++ (scheme ++ " $TOKEN"))
  | bare {name value : String} (hname : IsAuthorization name) (hvalue : ' ' ∉ value.toList) :
    HeaderShown (name, value) (name ++ ": $TOKEN")

inductive VerbShown : Verb → String → Prop
  | get : VerbShown .get "GET"
  | post : VerbShown .post "POST"
  | put : VerbShown .put "PUT"
  | delete : VerbShown .delete "DELETE"

/-- The text that shows a request: a `curl` command for REST, with the address, the headers and
the body between single quotes; for XML-RPC the lines of an HTTP request, and the body behind an
empty line. -/
inductive TextOf : WireFormat → PreparedRequest → String → Prop
  | command {verb : Verb} {word : String} (url : String) {headers : List (String × String)}
    {lines : List String} (body : Option String) (hverb : VerbShown verb word)
    (hlines : List.Forall₂ HeaderShown headers lines) :
    TextOf .rest ⟨verb, url, headers, body⟩
      ("curl -X " ++ word ++ " '" ++ url ++ "'" ++
        String.join (lines.map fun line => " -H '" ++ line ++ "'") ++
        body.elim "" fun b => " -d '" ++
          .ofList (b.toList.flatMap fun c => if c = '\'' then "'\\''".toList else [c]) ++ "'")
  | message {verb : Verb} {word : String} (url : String) {headers : List (String × String)}
    {lines : List String} (body : Option String) (hverb : VerbShown verb word)
    (hlines : List.Forall₂ HeaderShown headers lines) :
    TextOf .xmlRpc ⟨verb, url, headers, body⟩
      (word ++ " " ++ url ++ " HTTP/1.1\n" ++ String.join (lines.map (· ++ "\n")) ++
        body.elim "" ("\n" ++ ·))

theorem headerShown (header : String × String) : HeaderShown header (shownHeader header) := by
  obtain ⟨name, value⟩ := header
  by_cases hname : IsAuthorization name
  · rw [shownHeader_of_isAuthorization hname]
    cases hsplit : Text.splitOnce? (· == ' ') value.toList with
    | some parts =>
      obtain ⟨scheme, granted⟩ := parts
      obtain ⟨c, hc, hvalue, hscheme⟩ := Text.append_of_splitOnce? hsplit
      obtain rfl := eq_of_beq hc
      have hspace : ' ' ∉ (String.ofList scheme).toList := by
        rw [String.toList_ofList]
        exact fun hmem => absurd (hscheme _ hmem) (by decide)
      obtain rfl : value = .ofList scheme ++ " " ++ .ofList granted := by
        rw [← String.toList_inj, hvalue]
        simp
      rw [redacted_append hspace]
      exact .scheme _ hname hspace
    | none =>
      have hspace : ' ' ∉ value.toList := fun hmem =>
        absurd (Text.splitOnce?_eq_none_iff.1 hsplit _ hmem) (by decide)
      have hredacted : redacted value = "$TOKEN" := by rw [redacted, hsplit]
      rw [hredacted, String.append_assoc]
      exact .bare hname hspace
  · rw [shownHeader, shownValue, if_neg fun h => hname (isAuthorization_iff.2 h)]
    exact .plain value hname

theorem verbShown (verb : Verb) : VerbShown verb verb.text := by
  cases verb with
  | get => exact .get
  | post => exact .post
  | put => exact .put
  | delete => exact .delete

theorem headersShown (headers : List (String × String)) :
    List.Forall₂ HeaderShown headers (headers.map shownHeader) := by
  rw [List.forall₂_map_right_iff, List.forall₂_same]
  exact fun header _ => headerShown header

theorem textOf_curl (p : PreparedRequest) : TextOf .rest p p.curl := by
  obtain ⟨verb, url, headers, body⟩ := p
  have h := TextOf.command url body (verbShown verb) (headersShown headers)
  convert h using 1
  rw [← String.toList_inj, toList_curl]
  cases body <;>
    simp [commandItems, Shell.Item.written, List.flatMap_map, List.flatMap_assoc, Shell.inQuotes]

theorem textOf_raw (p : PreparedRequest) : TextOf .xmlRpc p p.raw := by
  obtain ⟨verb, url, headers, body⟩ := p
  have hhead (start : String) (lines : List String) :
      Text.join "\n" (start :: lines) ++ "\n" =
        start ++ "\n" ++ String.join (lines.map (· ++ "\n")) := by
    rw [← String.toList_inj, Text.join, String.toList_append, String.toList_intercalate,
      List.map_cons, Text.intercalate_append_separator]
    simp [List.flatMap_map]
  have h := TextOf.message url body (verbShown verb) (headersShown headers)
  convert h using 1
  rw [raw, hhead]
  cases body <;> simp [String.append_assoc]

end PreparedRequest

/-! ## A part of a list -/

/-- Two lists that are the same around a part, which is `x` in the one and `y` in the
other. -/
def SameAround {α : Type} (x y a b : List α) : Prop :=
  ∃ front back, a = front ++ x ++ back ∧ b = front ++ y ++ back

namespace SameAround

variable {α : Type} {x y a b : List α}

theorem whole (x y : List α) : SameAround x y x y :=
  ⟨[], [], by simp, by simp⟩

theorem append (h : SameAround x y a b) (front back : List α) :
    SameAround x y (front ++ a ++ back) (front ++ b ++ back) := by
  obtain ⟨before, after, rfl, rfl⟩ := h
  exact ⟨front ++ before, after ++ back, by simp, by simp⟩

theorem cons (h : SameAround x y a b) (first : α) : SameAround x y (first :: a) (first :: b) := by
  simpa using h.append [first] []

/-- A part of the part is a part of the whole. -/
theorem trans {u v : List α} (h : SameAround x y u v) (hpart : SameAround u v a b) :
    SameAround x y a b := by
  obtain ⟨front, back, rfl, rfl⟩ := hpart
  exact h.append front back

end SameAround

namespace Fields

variable {α : Type}

theorem sameAround_insert (k : String) (v w : α) (fs : Fields α) :
    SameAround [(k, v)] [(k, w)] (insert k v fs) (insert k w fs) := by
  induction fs with
  | nil => exact .whole _ _
  | cons e r ih =>
    obtain ⟨j, u⟩ := e
    rw [insert, insert]
    split
    · exact ⟨[], r, rfl, rfl⟩
    · split
      · exact ⟨[], (j, u) :: r, rfl, rfl⟩
      · exact ih.cons _

theorem sameAround_insert_of_ne {k j : String} (hne : j ≠ k) {v w : α} (u : α) {fs gs : Fields α}
    (h : SameAround [(k, v)] [(k, w)] fs gs) :
    SameAround [(k, v)] [(k, w)] (insert j u fs) (insert j u gs) := by
  obtain ⟨front, back, rfl, rfl⟩ := h
  -- where an entry goes depends on the keys alone, and these are the same in both
  induction front with
  | nil =>
    simp only [List.nil_append, List.singleton_append, insert, if_neg hne.symm]
    split
    · exact ⟨[(j, u)], back, rfl, rfl⟩
    · exact ⟨[], insert j u back, rfl, rfl⟩
  | cons e front ih =>
    obtain ⟨i, t⟩ := e
    simp only [List.cons_append, insert]
    split
    · exact ⟨(j, u) :: front, back, by simp, by simp⟩
    · split
      · exact ⟨(j, u) :: (i, t) :: front, back, by simp, by simp⟩
      · exact ih.cons _

end Fields

/-! ## A secret in the body of a call -/

namespace XmlRpc

namespace Writer

theorem wrap_eq (name : String) (content : List Char) :
    wrap name content =
      ('<' :: name.toList ++ ['>']) ++ content ++ ('<' :: '/' :: name.toList ++ ['>']) := by
  simp [wrap]

theorem sameAround_wrap {x y a b : List Char} (h : SameAround x y a b) (name : String) :
    SameAround x y (wrap name a) (wrap name b) := by
  rw [wrap_eq, wrap_eq]
  exact h.append _ _

theorem sameAround_value_str (s t : String) :
    SameAround (Xml.escape s.toList) (Xml.escape t.toList) (value (.str s)) (value (.str t)) := by
  rw [value, value]
  exact sameAround_wrap (sameAround_wrap (.whole _ _) _) _

theorem members_append (es fs : List (String × Json)) :
    members (es ++ fs) = members es ++ members fs := by
  induction es with
  | nil => rw [List.nil_append, members, List.nil_append]
  | cons e es ih =>
    obtain ⟨k, v⟩ := e
    rw [List.cons_append, members, members, ih, List.append_assoc]

theorem sameAround_value_obj {k : String} {v w : Json} {fs gs : List (String × Json)}
    (h : SameAround [(k, v)] [(k, w)] fs gs) :
    SameAround (value v) (value w) (value (.obj fs)) (value (.obj gs)) := by
  obtain ⟨front, back, rfl, rfl⟩ := h
  have hmember : SameAround (value v) (value w) (members [(k, v)]) (members [(k, w)]) := by
    simp only [members, List.append_nil]
    refine sameAround_wrap ?_ _
    simpa using (SameAround.whole (value v) (value w)).append (leaf "name" k) []
  rw [value, value, members_append, members_append, members_append, members_append]
  exact sameAround_wrap (sameAround_wrap (hmember.append _ _) _) _

theorem sameAround_call (method : String) {x y : List Char} {v w : Json} (args : List Json)
    (h : SameAround x y (value v) (value w)) :
    SameAround x y (call method (v :: args)).toList (call method (w :: args)).toList := by
  have hparams : SameAround x y (params (v :: args)) (params (w :: args)) := by
    rw [params, params, List.flatMap_cons, List.flatMap_cons]
    refine sameAround_wrap ?_ _
    simpa using (sameAround_wrap h "param").append [] (args.flatMap fun v => wrap "param" (value v))
  rw [call, call, String.toList_ofList, String.toList_ofList]
  have hcontent := hparams.append (leaf "methodName" method) []
  rw [List.append_nil, List.append_nil] at hcontent
  simpa using (sameAround_wrap hcontent "methodCall").append declaration []

end Writer

theorem sameAround_addEntry {k name : String} (hne : name ≠ k) {v w : Json}
    (value : Option Json) {fs gs : Fields Json} (h : SameAround [(k, v)] [(k, w)] fs gs) :
    SameAround [(k, v)] [(k, w)] (addEntry name value fs) (addEntry name value gs) := by
  cases value with
  | none => exact h
  | some u => exact Fields.sameAround_insert_of_ne hne u h

/-- The options of a call leave the caller's entries as they are, unless they bear the name of
an option. -/
theorem sameAround_container {k : String} {v w : Json} (r : Request) {fs gs : Fields Json}
    (hfree : k ∉ derivedNames r.service) (h : SameAround [(k, v)] [(k, w)] fs gs) :
    SameAround [(k, v)] [(k, w)] (container { r with headers := fs })
      (container { r with headers := gs }) := by
  have hne {name : String} (hname : name ∈ derivedNames r.service) : name ≠ k := by
    rintro rfl
    exact hfree hname
  refine sameAround_addEntry (hne ?_) _ (sameAround_addEntry (hne ?_) _
    (sameAround_addEntry (hne ?_) _ (sameAround_addEntry (hne ?_) _ h)))
  all_goals simp [derivedNames]

theorem authenticate_not_mem_derivedNames (service : String) :
    "authenticate" ∉ derivedNames service := by
  intro h
  simp only [derivedNames, List.mem_cons, List.not_mem_nil, or_false] at h
  rcases h with h | h | h | h
  · exact append_ne_of_not_suffix (by decide) service h.symm
  · exact append_ne_of_not_suffix (by decide) service h.symm
  · exact append_ne_of_not_suffix (by decide) service h.symm
  · exact absurd h (by decide)

end XmlRpc

/-! ## Preparing a call -/

/-- Two bodies that are the same, or hold a secret each in one place and are the same around
it. -/
inductive SameBody : Option Secret → Option Secret → Option String → Option String → Prop
  | same (k l : Option Secret) (body : Option String) : SameBody k l body body
  | holding (k l : Secret) {body other : String}
    (h : SameAround (Xml.escape k.exposed.toList) (Xml.escape l.exposed.toList) body.toList
      other.toList) :
    SameBody (some k) (some l) (some body) (some other)

/-- What two calls are prepared as that differ in their secret at most: neither can be
prepared, for the same reason, or the requests differ in the secret at most. -/
inductive PreparedAlike (k l : Option Secret) :
    Except Failure PreparedRequest → Except Failure PreparedRequest → Prop
  | failed (e : Failure) : PreparedAlike k l (.error e) (.error e)
  | prepared {p q : PreparedRequest} (head : p.SameHead q) (body : SameBody k l p.body q.body) :
    PreparedAlike k l (.ok p) (.ok q)

section Headers

variable {header other : String × String}

theorem headersAlike_refl (headers : List (String × String)) :
    List.Forall₂ HeaderAlike headers headers :=
  List.forall₂_same.2 fun header _ => .same header

theorem headersAlike_append (h : HeaderAlike header other) (front back : List (String × String)) :
    List.Forall₂ HeaderAlike (front ++ [header] ++ back) (front ++ [other] ++ back) :=
  List.rel_append (List.rel_append (headersAlike_refl front) (.cons h .nil))
    (headersAlike_refl back)

end Headers

section Prepare

variable (r : Request)

/-- An entry of the header container is written into the body of an XML-RPC call. -/
theorem prepares_authenticate {k l : Secret} {entry other : List (String × Json)}
    (h : SameAround (Xml.escape k.exposed.toList) (Xml.escape l.exposed.toList)
      (XmlRpc.Writer.value (.object entry)) (XmlRpc.Writer.value (.object other))) :
    PreparedAlike (some k) (some l) (XmlRpc.prepare (Credential.authenticate r entry))
      (XmlRpc.prepare (Credential.authenticate r other)) := by
  refine .prepared ⟨rfl, rfl, headersAlike_refl _⟩
    (.holding k l (XmlRpc.Writer.sameAround_call _ _ ?_))
  -- from the entry to the container, and from the container to the first parameter
  have hentry := Fields.sameAround_insert "authenticate" (.object entry) (.object other) r.headers
  have hcontainer := XmlRpc.sameAround_container r
    (XmlRpc.authenticate_not_mem_derivedNames r.service) hentry
  have hvalue := h.trans (XmlRpc.Writer.sameAround_value_obj hcontainer)
  exact hvalue.trans (XmlRpc.Writer.sameAround_value_obj (.whole _ _))

/-- Of all that a REST call is prepared from, only the headers tell how it is authorized. -/
theorem rest_prepares {k l : Option Secret} {s t : Request} (hendpoint : s.endpoint = t.endpoint)
    (hpath : Rest.path s = Rest.path t) (hparameters : Rest.parameters s = Rest.parameters t)
    (hverb : Rest.verb s = Rest.verb t) (hbody : Rest.body? s = Rest.body? t)
    (hheaders : List.Forall₂ HeaderAlike
      (Http.baseHeaders s "application/json" ++ Rest.authorization s)
      (Http.baseHeaders t "application/json" ++ Rest.authorization t)) :
    PreparedAlike k l (Rest.prepare s) (Rest.prepare t) := by
  have hurl : Rest.url s = Rest.url t := by
    rw [Rest.url, Rest.url, hendpoint, hpath, hparameters]
  rw [Rest.prepare, Rest.prepare, hurl, hverb, hbody]
  cases Rest.url t with
  | error e => exact .failed e
  | ok u => exact .prepared ⟨rfl, rfl, hheaders⟩ (.same k l _)

/-- An XML-RPC call is prepared from its parameters, and these need not tell how it is
authorized. -/
theorem xmlRpc_prepares {k l : Option Secret} {s t : Request} (hendpoint : s.endpoint = t.endpoint)
    (hservice : s.service = t.service) (hmethod : s.method = t.method)
    (hparameters : XmlRpc.parameters s = XmlRpc.parameters t)
    (hheaders : List.Forall₂ HeaderAlike (Http.baseHeaders s "application/xml")
      (Http.baseHeaders t "application/xml")) :
    PreparedAlike k l (XmlRpc.prepare s) (XmlRpc.prepare t) := by
  rw [XmlRpc.prepare, XmlRpc.prepare, hendpoint, hservice, hmethod, hparameters]
  exact .prepared ⟨rfl, rfl, hheaders⟩ (.same k l _)

theorem headerAlike_basic (user password other : String) :
    HeaderAlike ("Authorization", Rest.basic user password)
      ("Authorization", Rest.basic user other) :=
  .authorization "Authorization" "Basic" _ _ rfl (by decide)

theorem headerAlike_bearer (token other : String) :
    HeaderAlike ("Authorization", "Bearer " ++ token) ("Authorization", "Bearer " ++ other) :=
  .authorization "Authorization" "Bearer" _ _ rfl (by decide)

theorem prepares_password (user : String) (k l : Secret) :
    PreparedAlike (some k) (some l)
      (Rest.prepare { r with user := some user, password := some k })
      (Rest.prepare { r with user := some user, password := some l }) := by
  refine rest_prepares rfl rfl rfl rfl rfl ?_
  have hheaders := headersAlike_append (headerAlike_basic user k.exposed l.exposed)
    (Http.baseHeaders r "application/json") []
  rwa [List.append_nil, List.append_nil] at hheaders

theorem prepares_bearer (format : WireFormat) (k l : Secret) :
    PreparedAlike (some k) (some l)
      (format.prepare { r with
        httpHeaders := r.httpHeaders ++ [("Authorization", "Bearer " ++ k.exposed)] })
      (format.prepare { r with
        httpHeaders := r.httpHeaders ++ [("Authorization", "Bearer " ++ l.exposed)] }) := by
  have hbearer := headerAlike_bearer k.exposed l.exposed
  have hbase (token contentType : String) :
      Http.baseHeaders { r with
        httpHeaders := r.httpHeaders ++ [("Authorization", "Bearer " ++ token)] } contentType =
      Http.baseHeaders r contentType ++ [("Authorization", "Bearer " ++ token)] := by
    rw [Http.baseHeaders, Http.baseHeaders, List.append_assoc]
  -- the token is the last header of the call, and a basic authorization comes behind it
  cases format with
  | rest =>
    refine rest_prepares rfl rfl rfl rfl rfl ?_
    rw [hbase, hbase]
    exact headersAlike_append hbearer _ (Rest.authorization r)
  | xmlRpc =>
    refine xmlRpc_prepares rfl rfl rfl rfl ?_
    rw [hbase, hbase]
    have hheaders := headersAlike_append hbearer (Http.baseHeaders r "application/xml") []
    rwa [List.append_nil, List.append_nil] at hheaders

/-- Wherever a credential is attached, it gets into a request by its secret alone. -/
theorem prepares_attach (format : WireFormat) {a b : Credential} (h : a.Alike b) :
    PreparedAlike (some a.secret) (some b.secret) (format.prepare (a.attach format r))
      (format.prepare (b.attach format r)) := by
  cases h with
  | basic username key other =>
    cases format with
    | rest => exact prepares_password r username key other
    | xmlRpc =>
      refine prepares_authenticate r ?_
      -- the key is put into the entry last
      have hentry := Fields.sameAround_insert "apiKey" (Json.str key.exposed)
        (.str other.exposed) (Fields.ofList [("username", .str username)])
      exact (XmlRpc.Writer.sameAround_value_str key.exposed other.exposed).trans
        (XmlRpc.Writer.sameAround_value_obj hentry)
  | session userId token other =>
    cases format with
    | rest => exact prepares_password r (Text.ofInt userId) token other
    | xmlRpc =>
      refine prepares_authenticate r ?_
      have hentry := Fields.sameAround_insert "authToken" (Json.str token.exposed)
        (.str other.exposed)
        (Fields.ofList [("complexType", .str "PortalLoginToken"), ("userId", .int userId)])
      exact (XmlRpc.Writer.sameAround_value_str token.exposed other.exposed).trans
        (XmlRpc.Writer.sameAround_value_obj hentry)
  | iam token other => exact prepares_bearer r format token.access other.access

/-- Calls that are made with credentials alike differ in the secret at most. -/
theorem prepares_authorized (c : Client) {held other : Option Credential}
    (h : HeldAlike held other) :
    PreparedAlike (held.map Credential.secret) (other.map Credential.secret)
      (c.format.prepare (c.authorized r held)) (c.format.prepare (c.authorized r other)) := by
  cases h with
  | some h => exact prepares_attach r c.format h
  | none =>
    change PreparedAlike none none (c.format.prepare r) (c.format.prepare r)
    cases c.format.prepare r with
    | error e => exact .failed e
    | ok p => exact .prepared ⟨rfl, rfl, headersAlike_refl _⟩ (.same _ _ _)

end Prepare

/-! ## What is shown -/

/-- What is shown for a call that is made: the failure to prepare it, or the text of a request
that differs from the one that is sent in the secret at most. -/
inductive ShownFor (format : WireFormat) (k l : Option Secret) :
    Except Failure PreparedRequest → Except Failure String → Prop
  | failed (e : Failure) : ShownFor format k l (.error e) (.error e)
  | prepared {p q : PreparedRequest} {text : String} (head : p.SameHead q)
    (body : SameBody k l p.body q.body) (shown : q.TextOf format text) :
    ShownFor format k l (.ok p) (.ok text)

section Shown

variable (c : Client) (call : Call) {held other : Option Credential}

theorem shown_alike (h : HeldAlike held other) : c.shown held call = c.shown other call := by
  rw [Client.shown, Client.shown, h.placeholder_eq]

theorem shownFor_authorized (h : HeldAlike held other) :
    ShownFor c.format (other.map Credential.secret) (held.map Credential.standIn)
      (c.format.prepare (c.authorized (c.request call) other)) (c.shown held call) := by
  have hplaceholder : HeldAlike other (held.map Credential.placeholder) := by
    rw [h.placeholder_eq]
    exact .to_placeholder other
  have hprepared := prepares_authorized (c.request call) c hplaceholder
  rw [Option.map_map, Credential.secret_comp_placeholder] at hprepared
  rw [Client.shown]
  generalize c.format.prepare (c.authorized (c.request call) other) = sent at hprepared ⊢
  generalize c.format.prepare (c.authorized (c.request call) _) = kept at hprepared ⊢
  cases hprepared with
  | failed e => exact .failed e
  | prepared head body =>
    generalize c.format = format
    cases format with
    | rest => exact .prepared head body (PreparedRequest.textOf_curl _)
    | xmlRpc => exact .prepared head body (PreparedRequest.textOf_raw _)

end Shown

/-! ## Runs -/

section Runs

variable (c : Client) (b : Conduct) (call : Call) (s : ClientState) (past : List Event)

theorem watch_reproduce :
    watch (c.reproduce call : ClientM Watched String).run s past =
      ⟨c.shown s.credential call, s, past⟩ := rfl

/-- Behind events without a call, a request that is sent is the only one, and it is sent. -/
theorem carried_send (r : Request) {looks : List Event} (hlooks : ∀ e ∈ looks, e.method? = none) :
    ∃ sent, (watch (c.send b.world r).run s (past ++ looks)).history = past ++ sent ∧
      (∀ q outcome, Event.carried q outcome ∈ sent → q = r) ∧
      ∃ outcome, Event.carried r outcome ∈ sent := by
  obtain ⟨k, -, hsend⟩ := c.watch_send b r s (past ++ looks)
  refine ⟨looks ++ Conduct.attempts r (b.outcome r (past ++ looks)) (k + 1), ?_,
    fun q outcome hq => ?_, b.outcome r (past ++ looks) 0, ?_⟩
  · rw [hsend, List.append_assoc]
  · rcases List.mem_append.1 hq with hq | hq
    · cases hlooks _ hq
    · obtain ⟨i, -, heq⟩ := List.mem_map.1 hq
      cases heq
      rfl
  · -- there is a first attempt, however many there are
    exact List.mem_append_right looks
      (List.mem_map.2 ⟨0, List.mem_range.2 (Nat.succ_pos k), rfl⟩)

/-- All attempts at a call go out with one credential: the one that the client held, or a new
token for it.  Only a token that is not renewed keeps a call from going out. -/
theorem carried_exchange :
    ∃ held sent, HeldAlike s.credential held ∧
      (watch (c.exchange b.world call).run s past).history = past ++ sent ∧
      (∀ r outcome, Event.carried r outcome ∈ sent →
        r = c.authorized (c.request call) held) ∧
      ((∀ token, s.credential ≠ some (.iam token)) →
        ∃ r outcome, Event.carried r outcome ∈ sent) := by
  rw [Client.exchange, watch_run_bind]
  have hlook := look_current c b s past
  generalize watch (c.current b.world).run s past = found at hlook ⊢
  have hlooked (moments : List Moment) : ∀ e ∈ moments.map Event.looked, e.method? = none := by
    intro e he
    obtain ⟨_, -, rfl⟩ := List.mem_map.1 he
    rfl
  cases hlook with
  | kept seen now h =>
    obtain ⟨sent, hsent, hcarried, houtcome⟩ := carried_send c b s past
      (c.authorized (c.request call) s.credential) (hlooked _)
    exact ⟨s.credential, sent, .refl _, hsent, hcarried, fun _ => ⟨_, houtcome⟩⟩
  | renewed seen now old refresh fresh trades h htrade =>
    -- only an IAM token is renewed, and what comes back is one again
    have hold : s.credential = some (.iam old) := (renewable?_eq_some c h).1
    have hlooks : ∀ e ∈ (seen ++ [now]).map Event.looked ++ trades, e.method? = none := by
      intro e he
      rcases List.mem_append.1 he with he | he
      · exact hlooked _ e he
      · exact htrade.uncarried e he
    obtain ⟨sent, hsent, hcarried, houtcome⟩ := carried_send c b
      { s with credential := some (.iam fresh), handed := fresh :: s.handed } past
      (c.authorized (c.request call) (some (.iam fresh))) hlooks
    refine ⟨some (.iam fresh), sent, ?_, hsent, hcarried, fun _ => ⟨_, houtcome⟩⟩
    rw [hold]
    exact .some (.iam old fresh)
  | failed seen now old refresh e trades h huncarried =>
    refine ⟨s.credential, _, .refl _, rfl, fun r outcome hr => ?_, fun hiam => ?_⟩
    · rcases List.mem_append.1 hr with hr | hr
      · cases hlooked _ _ hr
      · cases huncarried _ hr
    · exact absurd (renewable?_eq_some c h).1 (hiam old)

end Runs

/-- What is shown for a call depends on nothing that is secret, and neither do the texts of
requests on what their authorizations grant.  Each text tells the verb, the address, the headers
and the body of its request; for XML-RPC there always is one.  Wherever the call is made, each
request that is sent for it is the one that is shown, but for the secret; and only a token that
cannot be renewed keeps the call from being made. -/
theorem Client.reproduce_alike (c : Client) (b : Conduct) (call : Call) {s t : ClientState}
    (h : HeldAlike s.credential t.credential) (past later : List Event) :
    let shown := watch (c.reproduce call : ClientM Watched String).run s past
    shown.result = (watch (c.reproduce call : ClientM Watched String).run t later).result ∧
      (∀ p q : PreparedRequest, p.SameHead q → p.body = q.body →
        p.curl = q.curl ∧ p.raw = q.raw) ∧
      (∀ p : PreparedRequest, p.TextOf .rest p.curl ∧ p.TextOf .xmlRpc p.raw) ∧
      (c.format = .xmlRpc → ∃ text, shown.result = .ok text) ∧
      ∃ held sent, HeldAlike s.credential held ∧
        (watch (c.exchange b.world call).run s past).history = past ++ sent ∧
        (∀ r outcome, Event.carried r outcome ∈ sent →
          ShownFor c.format (held.map Credential.secret) (s.credential.map Credential.standIn)
            (c.format.prepare r) shown.result) ∧
        ((∀ token, s.credential ≠ some (.iam token)) →
          ∃ r outcome, Event.carried r outcome ∈ sent) := by
  refine ⟨?_, fun p q hhead hbody => hhead.shown hbody,
    fun p => ⟨p.textOf_curl, p.textOf_raw⟩, fun hformat => ?_, ?_⟩
  · rw [watch_reproduce, watch_reproduce]
    exact shown_alike c call h
  · rw [watch_reproduce, Client.shown, hformat]
    exact ⟨_, rfl⟩
  · obtain ⟨held, sent, hheld, hhistory, hcarried, hsent⟩ := carried_exchange c b call s past
    refine ⟨held, sent, hheld, hhistory, fun r outcome hr => ?_, hsent⟩
    rw [hcarried r outcome hr]
    exact shownFor_authorized c call hheld

/-- Two keys of one user are shown as the same placeholder, and the one that is sent differs
from it alone. -/
theorem Client.reproduce_alike_keys :
    let c : Client :=
      ⟨WireFormat.xmlRpc.endpoint, .xmlRpc, 1000, none, true, "test", .standard, 60, .standard⟩
    let b : Conduct :=
      ⟨fun _ _ => .error (.crash "busy"), fun _ _ => .error (.connect, "busy"), fun _ => ⟨0⟩⟩
    let call : Call := ⟨"Account", "getObject", [], .none⟩
    let holding (key : String) : ClientState := .start (some (.basic "someone" ⟨key⟩)) 10
    let shown := watch (c.reproduce call : ClientM Watched String).run (holding "k-1") []
    HeldAlike (holding "k-1").credential (holding "k-2").credential ∧
      shown.result =
        (watch (c.reproduce call : ClientM Watched String).run (holding "k-2") []).result ∧
      ∃ held sent, HeldAlike (holding "k-1").credential held ∧
        (watch (c.exchange b.world call).run (holding "k-1") []).history = sent ∧
        (∀ r outcome, Event.carried r outcome ∈ sent →
          ShownFor .xmlRpc (held.map Credential.secret) (some ⟨"$API_KEY"⟩)
            (c.format.prepare r) shown.result) ∧
        ∃ r outcome, Event.carried r outcome ∈ sent := by
  intro c b call holding shown
  have hheld : HeldAlike (holding "k-1").credential (holding "k-2").credential :=
    .some (.basic "someone" ⟨"k-1"⟩ ⟨"k-2"⟩)
  obtain ⟨hsame, -, -, -, held, sent, hlike, hhistory, hshown, hsent⟩ :=
    reproduce_alike c b call hheld [] []
  exact ⟨hheld, hsame, held, sent, hlike, hhistory, hshown, hsent nofun⟩

end CloudClient
