import CloudClient.Proofs.Decimal.RoundTrip
import CloudClient.Proofs.Xml.Content
import CloudClient.XmlRpc.Reader

/-!
# A value that is sent comes back

A service that answers with the parameter it has been sent gives the caller the value that
was sent: numbers of each kind, texts and the order of elements and members are kept.

* `Json.Portable` is what XML-RPC can carry.
* `reads_value`: a written value is read as the node `node` gives.
* `value_node`: that node is read as the value.
* `read_params`: the two together, over whole documents.
-/

namespace CloudClient

/-! ## What XML-RPC carries -/

namespace Json

mutual

/-- Numbers are integers of 64 bits or finite doubles, and texts and member names are made
of characters that a document keeps as they are. -/
def Portable : Json → Prop
  | .num (.int i) => Text.fitsI64 i = true
  | .num (.double x) => x.isFinite = true
  | .str s => Xml.Plain s.toList
  | .arr items => PortableItems items
  | .obj members => PortableMembers members
  | _ => True

def PortableItems : List Json → Prop
  | [] => True
  | v :: r => v.Portable ∧ PortableItems r

def PortableMembers : List (String × Json) → Prop
  | [] => True
  | (k, v) :: r => Xml.Plain k.toList ∧ v.Portable ∧ PortableMembers r

end

end Json

namespace XmlRpc

open Xml (Node Reads Plain)

/-! ## Nodes -/

def leafNode (name text : String) : Node := .element name (Xml.textNodes text.toList)

def numberNode : Number → Node
  | .int i =>
    if Text.fitsI32 i then leafNode "int" (Text.ofInt i)
    else if Text.fitsI64 i then leafNode "i8" (Text.ofInt i)
    else leafNode "double" (Decimal.plain.text (.ofInt i))
  | .double x => leafNode "double" (Decimal.plain.text x)

mutual

/-- The node that a written value is read as. -/
def node : Json → Node
  | .null => .element "value" [.element "nil" []]
  | .bool b => .element "value" [leafNode "boolean" (if b then "1" else "0")]
  | .num n => .element "value" [numberNode n]
  | .str s => .element "value" [leafNode "string" s]
  | .arr items => .element "value" [.element "array" [.element "data" (nodes items)]]
  | .obj entries => .element "value" [.element "struct" (memberNodes entries)]

def nodes : List Json → List Node
  | [] => []
  | v :: r => node v :: nodes r

def memberNodes : List (String × Json) → List Node
  | [] => []
  | (k, v) :: r => .element "member" [leafNode "name" k, node v] :: memberNodes r

end

/-! ## Documents -/

theorem plain_of_numeral {cs : List Char}
    (h : ∀ c ∈ cs, c.isDigit = true ∨ c = '.' ∨ c = '-') : Plain cs := by
  intro c hc
  rcases h c hc with hc | rfl | rfl
  · have hbounds := Text.toNat_of_isDigit hc
    refine ⟨?_, Text.ne_of_isDigit hc (by decide)⟩
    unfold Xml.isChar
    rw [if_neg (by omega)]
    simp only [Bool.and_eq_true, bne_iff_ne, ne_eq]
    omega
  · decide
  · decide

theorem reads_number {n : Number} (h : (Json.num n).Portable) :
    Reads (Writer.number n) [numberNode n] := by
  cases n with
  | int i =>
    have hfits : Text.fitsI64 i = true := h
    have hplain : Plain (Text.ofInt i).toList :=
      plain_of_numeral fun c hc => (Text.mem_ofInt hc).imp_right .inr
    unfold Writer.number numberNode
    dsimp only
    by_cases hsmall : Text.fitsI32 i = true
    · rw [if_pos hsmall, if_pos hsmall]
      exact Xml.reads_leaf (by decide) hplain
    · rw [if_neg hsmall, if_neg hsmall, if_pos hfits, if_pos hfits]
      exact Xml.reads_leaf (by decide) hplain
  | double x =>
    have hfinite : x.isFinite = true := h
    exact Xml.reads_leaf (by decide) (plain_of_numeral fun c => Decimal.mem_plain hfinite)

mutual

/-- A written value is read as its node. -/
theorem reads_value : ∀ v : Json, v.Portable → Reads (Writer.value v) [node v]
  | .null, _ => (@Xml.reads_empty "nil" (by decide)).wrap (by decide)
  | .bool b, _ => by
    refine (Xml.reads_leaf (by decide) ?_).wrap (by decide)
    cases b <;> decide
  | .num _, h => (reads_number h).wrap (by decide)
  | .str _, h => (Xml.reads_leaf (by decide) h).wrap (by decide)
  | .arr items, h =>
    (((reads_values items h).wrap (by decide)).wrap (by decide)).wrap (by decide)
  | .obj entries, h => ((reads_members entries h).wrap (by decide)).wrap (by decide)

theorem reads_values : ∀ vs : List Json, Json.PortableItems vs →
    Reads (Writer.values vs) (nodes vs)
  | [], _ => .nil
  | v :: r, ⟨hv, hr⟩ => (reads_value v hv).append (reads_values r hr)

theorem reads_members : ∀ es : List (String × Json), Json.PortableMembers es →
    Reads (Writer.members es) (memberNodes es)
  | [], _ => .nil
  | (_, v) :: r, ⟨hk, hv, hr⟩ =>
    (((Xml.reads_leaf (by decide) hk).append (reads_value v hv)).wrap (by decide)).append
      (reads_members r hr)

end

/-! ## Values -/

theorem leadingText_leafNode (name text : String) : (leafNode name text).leadingText = text := by
  unfold leafNode Xml.textNodes Node.leadingText
  by_cases hnil : text.toList = []
  · rw [if_pos hnil]
    exact (String.toList_eq_nil_iff.1 hnil).symm
  · rw [if_neg hnil]
    exact String.ofList_toList

/-- A value that holds one text element is read by the type that the element names. -/
theorem value_scalar {type text : String} (harray : type ≠ "array")
    (hstruct : type ≠ "struct") :
    Reader.value (.element "value" [leafNode type text]) = Reader.scalar type text := by
  have htyped (untyped : String) :
      Reader.typed untyped [leafNode type text] =
        Reader.scalar type (leafNode type text).leadingText := by
    unfold leafNode
    rw [Reader.typed]
    · exact fun h => harray h
    · exact fun h => hstruct h
  rw [Reader.value, htyped, leadingText_leafNode]

theorem integer_ofInt {i : Int} (h : Text.fitsI64 i = true) :
    Reader.integer (Text.ofInt i) = .ok (.int i) := by
  unfold Reader.integer
  rw [Text.trimmed_eq_self fun c => Text.isBlank_of_mem_ofInt, Text.i64?_ofInt h]

theorem double_plain {x : Binary64} (h : x.isFinite = true) :
    Reader.double (Decimal.plain.text x) = .ok (.num (.double x)) := by
  have hblank : ∀ c ∈ (Decimal.plain.text x).toList, Text.isBlank c = false := by
    intro c hc
    rcases Decimal.mem_plain h hc with hc | rfl | rfl
    · exact Text.isBlank_of_isDigit hc
    · decide
    · decide
  unfold Reader.double
  rw [Text.trimmed_eq_self hblank, Decimal.double?_text Decimal.plain h]
  dsimp only
  unfold Json.double
  rw [if_pos h]

theorem value_number {n : Number} (h : (Json.num n).Portable) :
    Reader.value (.element "value" [numberNode n]) = .ok (.num n) := by
  cases n with
  | int i =>
    have hfits : Text.fitsI64 i = true := h
    unfold numberNode
    dsimp only
    by_cases hsmall : Text.fitsI32 i = true
    · rw [if_pos hsmall, value_scalar (by decide) (by decide)]
      exact integer_ofInt hfits
    · rw [if_neg hsmall, if_pos hfits, value_scalar (by decide) (by decide)]
      exact integer_ofInt hfits
  | double x =>
    have hfinite : x.isFinite = true := h
    have hscalar (text : String) : Reader.scalar "double" text = Reader.double text := rfl
    unfold numberNode
    dsimp only
    rw [value_scalar (by decide) (by decide), hscalar, double_plain hfinite]

theorem exists_node (v : Json) : ∃ children, node v = .element "value" children := by
  cases v <;> exact ⟨_, by rw [node]⟩

mutual

theorem value_node : ∀ v : Json, v.Ordered → v.Portable → Reader.value (node v) = .ok v
  | .null, _, _ => rfl
  | .bool b, _, _ => by
    rw [node, value_scalar (by decide) (by decide)]
    cases b with
    | false => rfl
    | true => rfl
  | .num n, _, h => by
    rw [node]
    exact value_number h
  | .str s, _, _ => by
    rw [node, value_scalar (by decide) (by decide)]
    rfl
  | .arr items, ho, hp => by
    have hitems := values_nodes items ho hp
    rw [node, Reader.value, Reader.typed, Reader.array, if_pos rfl, hitems]
    rfl
  | .obj entries, ho, hp => by
    have hmembers := members_nodes entries ho.2 hp
    rw [node, Reader.value, Reader.typed, hmembers]
    -- the members are put into their order, in which they are already
    show Except.ok (Json.obj (Fields.ofList entries)) = _
    rw [Fields.ofList_of_sorted ho.1]

theorem values_nodes : ∀ vs : List Json, Json.OrderedItems vs → Json.PortableItems vs →
    Reader.values (nodes vs) = .ok vs
  | [], _, _ => rfl
  | v :: r, ⟨hov, hor⟩, ⟨hpv, hpr⟩ => by
    obtain ⟨children, hnode⟩ := exists_node v
    have hv := value_node v hov hpv
    have hr := values_nodes r hor hpr
    rw [hnode] at hv
    rw [nodes, hnode, Reader.values, if_pos rfl, hv, hr]
    rfl

theorem members_nodes : ∀ es : List (String × Json), Json.OrderedMembers es →
    Json.PortableMembers es → Reader.members (memberNodes es) = .ok es
  | [], _, _ => rfl
  | (k, v) :: r, ⟨hov, hor⟩, ⟨_, hpv, hpr⟩ => by
    obtain ⟨children, hnode⟩ := exists_node v
    have hv := value_node v hov hpv
    have hr := members_nodes r hor hpr
    rw [hnode] at hv
    -- the value of a member stands behind its name
    have hmember : Reader.memberValue [leafNode "name" k, .element "value" children] = .ok v := by
      unfold leafNode
      rw [Reader.memberValue, if_neg (by decide), Reader.memberValue, if_pos rfl, hv]
    have hkey : ((Node.element "member" [leafNode "name" k, .element "value" children]).child?
        "name") = some (leafNode "name" k) := rfl
    rw [memberNodes, hnode, Reader.members, if_pos rfl, hmember, hr, hkey]
    show Except.ok ((_, v) :: r) = _
    rw [Option.map_some, Option.getD_some, leadingText_leafNode]

end

/-! ## Replies -/

theorem reads_params {v : Json} (h : v.Portable) :
    Reads (Writer.params [v]) [.element "params" [.element "param" [node v]]] := by
  refine Reads.wrap (by decide) ?_
  rw [List.flatMap_cons, List.flatMap_nil, List.append_nil]
  exact (reads_value v h).wrap (by decide)

theorem ofRoot_params {v : Json} {content : List Node}
    (hvalue : Reader.value (.element "value" content) = .ok v) :
    Reply.ofRoot (.element "methodResponse"
      [.element "params" [.element "param" [.element "value" content]]]) = .ok (.success v) := by
  show (Reader.value (.element "value" content)).map Reply.success = _
  rw [hvalue]
  rfl

/-- The parameters that a call with one argument is written with, in a reply, are read as
the argument. -/
theorem read_params (method : String) (v : Json) (hordered : v.Ordered)
    (hportable : v.Portable) :
    Writer.call method [v] =
        .ofList (Writer.declaration ++ "<methodCall>".toList ++ Writer.leaf "methodName" method ++
          Writer.params [v] ++ "</methodCall>".toList) ∧
      Reply.read (.ofList ("<methodResponse>".toList ++ Writer.params [v] ++
        "</methodResponse>".toList)) = .ok (.success v) := by
  constructor
  · show String.ofList _ = _
    congr 1
    simp [Writer.wrap, Writer.params]
  · obtain ⟨content, hnode⟩ := exists_node v
    have hvalue := value_node v hordered hportable
    have hread := (reads_params hportable).fills
    rw [hnode] at hvalue hread
    have hparse := @Node.parse?_wrap "methodResponse" (by decide) _ _ hread
    have hdocument : "<methodResponse>".toList ++ Writer.params [v] ++
        "</methodResponse>".toList = Writer.wrap "methodResponse" (Writer.params [v]) := by
      simp [Writer.wrap]
    rw [Reply.read, String.toList_ofList, hdocument, hparse]
    exact ofRoot_params hvalue

theorem read_params_nested :
    let v : Json := .obj [("", .str "<nil/> & ]]>"), ("a", .arr [.null, .int 2147483648,
      .num (.double ⟨0xBFB999999999999A⟩), .str " ", .arr [], .obj []])]
    v.Ordered ∧ v.Portable ∧
      Reply.read (.ofList ("<methodResponse>".toList ++ Writer.params [v] ++
        "</methodResponse>".toList)) = .ok (.success v) := by
  intro v
  have hordered : v.Ordered := by
    refine ⟨?_, trivial,
      ⟨trivial, trivial, trivial, trivial, trivial, ⟨.nil, trivial⟩, trivial⟩, trivial⟩
    exact List.pairwise_pair.2 (by decide)
  have hportable : v.Portable := by
    have htext : Plain "<nil/> & ]]>".toList := by decide
    have hblank : Plain " ".toList := by decide
    have hint : Text.fitsI64 2147483648 = true := by decide
    have hdouble : Binary64.isFinite ⟨0xBFB999999999999A⟩ = true := by decide
    exact ⟨by decide, htext, by decide,
      ⟨trivial, hint, hdouble, hblank, trivial, trivial, trivial⟩, trivial⟩
  exact ⟨hordered, hportable, (read_params "m" v hordered hportable).2⟩

end XmlRpc

end CloudClient
