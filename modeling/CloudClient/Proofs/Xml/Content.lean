import CloudClient.Proofs.Xml.Escape
import CloudClient.Xml.Node
import CloudClient.XmlRpc.Writer
import Mathlib.Data.List.TakeWhile

/-!
# Written elements are read back

An element that is written with its tags around its content is read as a node, wherever it
stands in a document.

* `Reads` relates content to the nodes that it is read as.
* `Reads.wrap`, `reads_leaf`, `reads_empty`: one for each way to write an element.
* `Node.parse?_wrap`: a document.
-/

namespace CloudClient

theorem Text.occurs_of_not_mem {needle cs : List Char} {x : Char} (hneedle : x ∈ needle)
    (hcs : x ∉ cs) : occurs needle cs = false := by
  induction cs with
  | nil =>
    cases needle with
    | nil => simp at hneedle
    | cons c needle => rfl
  | cons c cs ih =>
    rw [occurs, ih fun h => hcs (List.mem_cons_of_mem c h), Bool.or_false]
    rw [← Bool.not_eq_true, List.isPrefixOf_iff_prefix]
    exact fun h => hcs (h.subset hneedle)

namespace Xml

open XmlRpc.Writer (wrap leaf)

/-! ## Names -/

/-- A name without a colon. -/
def IsName (name : String) : Prop :=
  name.toList ≠ [] ∧ startsAsName name.toList = true ∧
    ∀ c ∈ name.toList, isNameChar c = true ∧ c ≠ ':'

instance (name : String) : Decidable (IsName name) :=
  have := List.decidableBAll (fun c => isNameChar c = true ∧ c ≠ ':') name.toList
  inferInstanceAs (Decidable (_ ∧ _ ∧ _))

theorem IsName.exists_cons {name : String} (h : IsName name) :
    ∃ c cs, name.toList = c :: cs ∧ c ≠ '!' ∧ c ≠ '?' ∧ c ≠ '/' := by
  obtain ⟨hne, hstart, -⟩ := h
  obtain ⟨c, cs, hcs⟩ := List.exists_cons_of_ne_nil hne
  rw [hcs] at hstart
  have hc {x : Char} (hx : isNameStart x = false) : c ≠ x := by
    rintro rfl
    rw [startsAsName, hx] at hstart
    cases hstart
  exact ⟨c, cs, hcs, hc (by decide), hc (by decide), hc (by decide)⟩

theorem qname?_of_isName {name : String} (h : IsName name) :
    qname? name.toList = some ⟨"", name⟩ := by
  obtain ⟨hne, hstart, hchars⟩ := h
  have hcolon : ∀ c ∈ name.toList, (c != ':') = true := fun c hc => by simp [(hchars c hc).2]
  have htake : name.toList.takeWhile (· != ':') = name.toList :=
    List.takeWhile_eq_self_iff.2 hcolon
  have hdrop : name.toList.dropWhile (· != ':') = [] := List.dropWhile_eq_nil_iff.2 hcolon
  rw [qname?, hdrop]
  simp [htake, hstart, hne]

/-- A name is taken off up to the first character that no name holds. -/
theorem takeQName?_append {name : String} (h : IsName name) {c : Char}
    (hc : isNameChar c = false) (rest : List Char) :
    takeQName? (name.toList ++ c :: rest) = some (⟨"", name⟩, c :: rest) := by
  have hchars : ∀ x ∈ name.toList, isNameChar x = true := fun x hx => (h.2.2 x hx).1
  have htake : (name.toList ++ c :: rest).takeWhile isNameChar = name.toList := by
    rw [List.takeWhile_append_of_pos hchars, List.takeWhile_cons_of_neg (by simp [hc]),
      List.append_nil]
  have hdrop : (name.toList ++ c :: rest).dropWhile isNameChar = c :: rest := by
    rw [List.dropWhile_append_of_pos hchars, List.dropWhile_cons_of_neg (by simp [hc])]
  rw [takeQName?, htake, hdrop, qname?_of_isName h]
  rfl

/-! ## Tokens -/

namespace Token

/-- What starts like a name is neither a comment, nor verbatim text, nor an instruction, nor
an end tag. -/
theorem next?_of_isName {name : String} (h : IsName name) (rest : List Char) :
    next? ('<' :: name.toList ++ rest) = start? (name.toList ++ rest) := by
  obtain ⟨c, cs, hcs, hbang, hquestion, hslash⟩ := h.exists_cons
  rw [hcs]
  -- the character behind the bracket rules out every other kind of piece
  have hcomment : Text.dropHead? "<!--".toList ('<' :: (c :: cs) ++ rest) = none := by
    simp [Text.dropHead?, List.isPrefixOf, Ne.symm hbang]
  have hverbatim : Text.dropHead? "<![CDATA[".toList ('<' :: (c :: cs) ++ rest) = none := by
    simp [Text.dropHead?, List.isPrefixOf, Ne.symm hbang]
  unfold next?
  rw [hcomment, hverbatim]
  simp [hquestion, hslash]

theorem next?_open {name : String} (h : IsName name) (rest : List Char) :
    next? ('<' :: name.toList ++ '>' :: rest) = some (.start ⟨"", name⟩ [] false, rest) := by
  have hattributes : attributes? ('>' :: rest) = some ([], false, rest) := by
    rw [attributes?]
    rfl
  rw [next?_of_isName h, start?, takeQName?_append h (by decide)]
  show (attributes? ('>' :: rest) >>= _) = _
  rw [hattributes]
  rfl

theorem next?_empty {name : String} (h : IsName name) (rest : List Char) :
    next? ('<' :: name.toList ++ '/' :: '>' :: rest) =
      some (.start ⟨"", name⟩ [] true, rest) := by
  have hattributes : attributes? ('/' :: '>' :: rest) = some ([], true, rest) := by
    rw [attributes?]
    rfl
  rw [next?_of_isName h, start?, takeQName?_append h (by decide)]
  show (attributes? ('/' :: '>' :: rest) >>= _) = _
  rw [hattributes]
  rfl

theorem next?_close {name : String} (h : IsName name) (rest : List Char) :
    next? ('<' :: '/' :: name.toList ++ '>' :: rest) = some (.finish ⟨"", name⟩, rest) := by
  show finish? (name.toList ++ '>' :: rest) = _
  rw [finish?, takeQName?_append h (by decide)]
  rfl

/-- Text without angle brackets is one piece, up to the next tag. -/
theorem next?_text {text : List Char} (hne : text ≠ [])
    (htext : ∀ x ∈ text, x ≠ '<' ∧ x ≠ '>' ∧ isChar x = true) (rest : List Char) :
    next? (text ++ '<' :: rest) = some (.text text, '<' :: rest) := by
  obtain ⟨c, cs, rfl⟩ := List.exists_cons_of_ne_nil hne
  have hlt : c ≠ '<' := (htext c List.mem_cons_self).1
  have hpiece : ∀ x ∈ c :: cs, (x != '<') = true := fun x hx => by simp [(htext x hx).1]
  have htake : (c :: cs ++ '<' :: rest).takeWhile (· != '<') = c :: cs := by
    rw [List.takeWhile_append_of_pos hpiece, List.takeWhile_cons_of_neg (by simp),
      List.append_nil]
  have hdrop : (c :: cs ++ '<' :: rest).dropWhile (· != '<') = '<' :: rest := by
    rw [List.dropWhile_append_of_pos hpiece, List.dropWhile_cons_of_neg (by simp)]
  have hall : (c :: cs).all isChar = true :=
    List.all_eq_true.2 fun x hx => (htext x hx).2.2
  have hmark : Text.occurs "]]>".toList (c :: cs) = false :=
    Text.occurs_of_not_mem (x := '>') (by decide) fun h => (htext _ h).2.1 rfl
  have hcomment : Text.dropHead? "<!--".toList (c :: cs ++ '<' :: rest) = none := by
    simp [Text.dropHead?, List.isPrefixOf, Ne.symm hlt]
  have hverbatim : Text.dropHead? "<![CDATA[".toList (c :: cs ++ '<' :: rest) = none := by
    simp [Text.dropHead?, List.isPrefixOf, Ne.symm hlt]
  have hnext : next? (c :: cs ++ '<' :: rest) = text? (c :: cs ++ '<' :: rest) := by
    unfold next?
    rw [hcomment, hverbatim]
    simp [hlt]
  rw [hnext, text?, htake, hdrop, hall, hmark]
  rfl

theorem scan?_of_next? {cs rest : List Char} {token : Token}
    (hnext : next? cs = some (token, rest)) (hlength : rest.length < cs.length) :
    scan? cs = (scan? rest).map (token :: ·) := by
  have hne : cs.isEmpty = false := by
    cases cs with
    | nil => simp at hlength
    | cons c cs => rfl
  rw [scan?, hne, if_neg Bool.false_ne_true]
  split
  · rename_i h
    rw [hnext] at h
    cases h
  · rename_i token' rest' h
    rw [hnext] at h
    obtain ⟨rfl, rfl⟩ := Prod.mk.inj (Option.some.inj h)
    rw [dif_pos hlength]

end Token

/-! ## Trees -/

namespace Node.Builder

theorem run?_append (b : Builder) (first rest : List Token) :
    b.run? (first ++ rest) = (b.run? first).bind (run? · rest) := by
  induction first generalizing b with
  | nil => rfl
  | cons token first ih =>
    rw [List.cons_append, run?, run?]
    cases b.step? token with
    | none => rfl
    | some next => exact ih next

variable (name : String) (f : Frame) (frames : List Frame) (root : Option Node)

theorem step?_start :
    (⟨f :: frames, root⟩ : Builder).step? (.start ⟨"", name⟩ [] false) =
      some ⟨⟨⟨"", name⟩, f.scope, []⟩ :: f :: frames, root⟩ := by
  simp [step?, scope?, declare?]

theorem step?_empty :
    (⟨f :: frames, root⟩ : Builder).step? (.start ⟨"", name⟩ [] true) =
      some ⟨{ f with done := .element name [] :: f.done } :: frames, root⟩ := by
  simp [step?, scope?, declare?, add?, pushChild]

theorem step?_finish (scope : List (String × String)) (done : List Node) :
    (⟨⟨⟨"", name⟩, scope, done⟩ :: f :: frames, root⟩ : Builder).step?
        (.finish ⟨"", name⟩) =
      some ⟨{ f with done := .element name done.reverse :: f.done } :: frames, root⟩ := by
  simp [step?, add?, pushChild]

theorem step?_text {cs : List Char} (hcs : Plain cs) (hdone : f.done = []) :
    (⟨f :: frames, root⟩ : Builder).step? (.text (escape cs)) =
      some ⟨{ f with done := [.text cs] } :: frames, root⟩ := by
  simp [step?, add?, pushChild, unescape?_escape hcs, hdone]

end Node.Builder

/-! ## Content -/

/-- Content that is read, wherever it stands inside an element, as some elements: it is made
of certain pieces, whatever follows it, and these add the elements to the innermost
element that is open. -/
def Reads (cs : List Char) (nodes : List Node) : Prop :=
  ∃ tokens, (∀ rest, Token.scan? (cs ++ rest) = (Token.scan? rest).map (tokens ++ ·)) ∧
    ∀ (f : Node.Frame) (frames : List Node.Frame) (root : Option Node),
      (⟨f :: frames, root⟩ : Node.Builder).run? tokens =
        some ⟨{ f with done := nodes.reverse ++ f.done } :: frames, root⟩

namespace Reads

theorem nil : Reads [] [] :=
  ⟨[], fun rest => by cases h : Token.scan? rest <;> simp [h], fun _ _ _ => rfl⟩

theorem append {a b : List Char} {first second : List Node} (ha : Reads a first)
    (hb : Reads b second) : Reads (a ++ b) (first ++ second) := by
  obtain ⟨s, hscan, hrun⟩ := ha
  obtain ⟨t, hscan', hrun'⟩ := hb
  refine ⟨s ++ t, fun rest => ?_, fun f frames root => ?_⟩
  · rw [List.append_assoc, hscan, hscan', Option.map_map]
    simp only [Function.comp_def, List.append_assoc]
  · rw [Node.Builder.run?_append, hrun, Option.bind_some, hrun', List.reverse_append]
    simp only [List.append_assoc]

end Reads

/-- Content that is read as the children of an element that holds nothing else. -/
def Fills (cs : List Char) (nodes : List Node) : Prop :=
  ∃ tokens, (∀ rest, Token.scan? (cs ++ '<' :: rest) =
      (Token.scan? ('<' :: rest)).map (tokens ++ ·)) ∧
    ∀ (f : Node.Frame) (frames : List Node.Frame) (root : Option Node), f.done = [] →
      (⟨f :: frames, root⟩ : Node.Builder).run? tokens =
        some ⟨{ f with done := nodes.reverse } :: frames, root⟩

theorem Reads.fills {cs : List Char} {nodes : List Node} (h : Reads cs nodes) :
    Fills cs nodes := by
  obtain ⟨tokens, hscan, hrun⟩ := h
  refine ⟨tokens, fun rest => hscan _, fun f frames root hdone => ?_⟩
  rw [hrun, hdone, List.append_nil]

/-- Text as the children of an element: an empty text is no node. -/
def textNodes (cs : List Char) : List Node := if cs = [] then [] else [.text cs]

theorem fills_escape {cs : List Char} (hcs : Plain cs) : Fills (escape cs) (textNodes cs) := by
  -- an empty text is written as nothing at all, and would be no piece
  by_cases hnil : cs = []
  · subst hnil
    exact Reads.nil.fills
  have hescape : escape cs ≠ [] := by
    intro h
    have hread := unescape?_escape hcs
    rw [h] at hread
    exact hnil (by simpa [unescape?, unescapeFrom?] using hread.symm)
  refine ⟨[.text (escape cs)], fun rest => ?_, fun f frames root hdone => ?_⟩
  · have hnext := Token.next?_text hescape (fun x hx => mem_escape hcs hx) rest
    rw [Token.scan?_of_next? hnext]
    · rfl
    · rw [List.length_append]
      exact Nat.lt_add_of_pos_left (List.length_pos_iff.2 hescape)
  · rw [textNodes, if_neg hnil, Node.Builder.run?,
      Node.Builder.step?_text f frames root hcs hdone]
    rfl

/-! ## Elements -/

section Element

variable {name : String} (hname : IsName name)
include hname

/-- The pieces of an element: its start tag, those of its content and its end tag. -/
theorem scan?_wrap {content : List Char} {tokens : List Token}
    (hscan : ∀ rest, Token.scan? (content ++ '<' :: rest) =
      (Token.scan? ('<' :: rest)).map (tokens ++ ·)) (rest : List Char) :
    Token.scan? (wrap name content ++ rest) =
      (Token.scan? rest).map
        (.start ⟨"", name⟩ [] false :: tokens ++ [.finish ⟨"", name⟩] ++ ·) := by
  -- the end tag is what the content stops at
  have hwrap : wrap name content ++ rest = '<' :: name.toList ++ '>' ::
      (content ++ '<' :: ('/' :: name.toList ++ '>' :: rest)) := by
    simp [wrap]
  rw [hwrap, Token.scan?_of_next? (Token.next?_open hname _) (by simp; omega), hscan]
  have hclose := Token.next?_close hname rest
  rw [List.cons_append, List.cons_append] at hclose
  rw [List.cons_append, Token.scan?_of_next? hclose (by simp; omega), Option.map_map,
    Option.map_map]
  congr 1
  funext after
  simp

theorem Fills.wrap {content : List Char} {nodes : List Node} (h : Fills content nodes) :
    Reads (wrap name content) [.element name nodes] := by
  obtain ⟨tokens, hscan, hrun⟩ := h
  refine ⟨_, scan?_wrap hname hscan, fun f frames root => ?_⟩
  rw [List.cons_append, Node.Builder.run?, Node.Builder.step?_start, Option.bind_some,
    Node.Builder.run?_append, hrun _ _ _ rfl, Option.bind_some, Node.Builder.run?,
    Node.Builder.step?_finish, List.reverse_reverse]
  rfl

theorem Reads.wrap {content : List Char} {nodes : List Node} (h : Reads content nodes) :
    Reads (wrap name content) [.element name nodes] :=
  h.fills.wrap hname

theorem reads_leaf {text : String} (htext : Plain text.toList) :
    Reads (leaf name text) [.element name (textNodes text.toList)] :=
  (fills_escape htext).wrap hname

theorem reads_empty : Reads ('<' :: name.toList ++ ['/', '>']) [.element name []] := by
  refine ⟨[.start ⟨"", name⟩ [] true], fun rest => ?_, fun f frames root => ?_⟩
  · rw [List.append_assoc]
    show Token.scan? ('<' :: name.toList ++ '/' :: '>' :: rest) = _
    rw [Token.scan?_of_next? (Token.next?_empty hname rest) (by simp; omega)]
    rfl
  · rw [Node.Builder.run?, Node.Builder.step?_empty]
    rfl

/-- A tag is no declaration. -/
theorem exists_cons_wrap (content : List Char) :
    ∃ rest, wrap name content = '<' :: rest ∧
      Node.skipDeclaration? (wrap name content) = some (wrap name content) := by
  obtain ⟨c, cs, hcs, -, hquestion, -⟩ := hname.exists_cons
  obtain ⟨rest, hwrap⟩ : ∃ rest, wrap name content = '<' :: c :: rest := by
    rw [wrap, hcs]
    exact ⟨_, rfl⟩
  refine ⟨c :: rest, hwrap, ?_⟩
  have hnone : Text.dropHead? "<?xml ".toList ('<' :: c :: rest) = none := by
    simp [Text.dropHead?, List.isPrefixOf, Ne.symm hquestion]
  rw [hwrap, Node.skipDeclaration?, hnone]

/-- A document is read as its one element. -/
theorem Node.parse?_wrap {content : List Char} {nodes : List Node} (h : Fills content nodes) :
    Node.parse? (XmlRpc.Writer.wrap name content) = some (.element name nodes) := by
  obtain ⟨tokens, hscan, hrun⟩ := h
  have htokens := scan?_wrap hname hscan []
  rw [List.append_nil] at htokens
  -- the document starts with the tag of its root: neither a mark nor a declaration is there
  obtain ⟨rest, hwrap, hdeclaration⟩ := exists_cons_wrap hname content
  have hmark : (Text.dropHead? ['\uFEFF'] (XmlRpc.Writer.wrap name content)).getD
      (XmlRpc.Writer.wrap name content) = XmlRpc.Writer.wrap name content := by
    rw [hwrap]
    rfl
  have hroot : Builder.start.run?
      (.start ⟨"", name⟩ [] false :: tokens ++ [.finish ⟨"", name⟩]) =
        some ⟨[], some (.element name nodes)⟩ := by
    have hopened : Builder.start.step? (.start ⟨"", name⟩ [] false) =
        some ⟨[⟨⟨"", name⟩, [], []⟩], none⟩ := by
      simp [Builder.start, Builder.step?, scope?, declare?]
    rw [List.cons_append, Builder.run?, hopened, Option.bind_some, Builder.run?_append,
      hrun _ _ _ rfl]
    simp [Builder.run?, Builder.step?, Builder.add?]
  have hscanned : Token.scan? (XmlRpc.Writer.wrap name content) =
      some (.start ⟨"", name⟩ [] false :: tokens ++ [.finish ⟨"", name⟩]) := by
    rw [htokens, Token.scan?]
    simp
  rw [Node.parse?, hmark, hdeclaration]
  show (Token.scan? (XmlRpc.Writer.wrap name content) >>= fun tokens =>
    Builder.start.run? tokens >>= Builder.finish?) = _
  rw [hscanned]
  show (Builder.start.run? _ >>= Builder.finish?) = _
  rw [hroot]
  rfl

/-- So is a document behind a declaration. -/
theorem Node.parse?_declared {content : List Char} {nodes : List Node} (h : Fills content nodes) :
    Node.parse? (XmlRpc.Writer.declaration ++ XmlRpc.Writer.wrap name content) =
      some (.element name nodes) := by
  obtain ⟨rest, hwrap, hdeclaration⟩ := exists_cons_wrap hname content
  have hmark : (Text.dropHead? ['\uFEFF'] (XmlRpc.Writer.wrap name content)).getD
      (XmlRpc.Writer.wrap name content) = XmlRpc.Writer.wrap name content := by
    rw [hwrap]
    rfl
  have hdropped (cs : List Char) : skipDeclaration? (XmlRpc.Writer.declaration ++ cs) = some cs :=
    rfl
  have hplain := Node.parse?_wrap hname h
  rw [Node.parse?, hmark, hdeclaration] at hplain
  rw [Node.parse?]
  show (skipDeclaration? (XmlRpc.Writer.declaration ++ XmlRpc.Writer.wrap name content)).bind _ = _
  rw [hdropped]
  exact hplain

end Element

end Xml

end CloudClient
