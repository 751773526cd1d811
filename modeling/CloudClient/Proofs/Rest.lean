import CloudClient.Call.Rest
import CloudClient.Proofs.Url.Address

/-!
# The address of a REST call is read back

Who gets the address of a call finds in it what the call is about, wherever the service
lives: the object in its path, mask, filter and window in its query.

* `Naming.isPlain`: names that stand in a path as they are.
* `Rest.object?` and `Rest.parameter?` read an address.
* `Rest.object?_url`: the object of the call.
* `Rest.decode_writtenQuery`: its query parameters.
-/

namespace CloudClient

/-- Whether a name is made of letters, digits and low lines, without a digit at its start. -/
def Naming.isPlain (name : String) : Bool :=
  match name.toList with
  | [] => false
  | c :: rest => !c.isDigit && (c :: rest).all fun x => x.isAlphanum || x == '_'

namespace Naming

variable {name : String} (h : isPlain name = true)

include h

theorem exists_cons_of_isPlain :
    ∃ c rest, name.toList = c :: rest ∧ c.isDigit = false ∧ (c.isAlphanum = true ∨ c = '_') := by
  unfold isPlain at h
  split at h
  · cases h
  · rename_i c rest hname
    simp only [Bool.and_eq_true, Bool.not_eq_true', List.all_cons, Bool.or_eq_true,
      beq_iff_eq] at h
    exact ⟨c, rest, hname, h.1, h.2.1⟩

theorem isUnreserved_of_isPlain : ∀ c ∈ name.toList, Url.isUnreserved c = true := by
  unfold isPlain at h
  split at h
  · cases h
  · rename_i first rest hname
    rw [hname]
    intro c hc
    have hall := List.all_eq_true.1 (Bool.and_eq_true_iff.1 h).2 c hc
    simp only [Bool.or_eq_true] at hall
    simp only [Url.isUnreserved, Bool.or_eq_true]
    exact .inl (.inl hall)

theorem isSegment_of_isPlain : Url.IsSegment name := by
  obtain ⟨c, rest, hname, -, hc⟩ := exists_cons_of_isPlain h
  refine ⟨isUnreserved_of_isPlain h, c, by rw [hname]; exact List.mem_cons_self, ?_⟩
  rintro rfl
  revert hc
  decide

/-- A method stands in a path with the format of its reply behind it. -/
theorem isSegment_json : Url.IsSegment (name ++ ".json") := by
  obtain ⟨hplain, c, hc, hnamed⟩ := isSegment_of_isPlain h
  refine ⟨fun x hx => ?_, c, ?_, hnamed⟩
  · rw [String.toList_append, List.mem_append] at hx
    rcases hx with hx | hx
    · exact hplain x hx
    · exact List.all_eq_true.1 (show ".json".toList.all Url.isUnreserved = true by decide) x hx
  · rw [String.toList_append]
    exact List.mem_append_left _ hc

/-- A name is no number. -/
theorem i64?_of_isPlain : Text.i64? name = none := by
  obtain ⟨c, rest, hname, hdigit, hc⟩ := exists_cons_of_isPlain h
  have hminus : ∀ r, c :: rest = '-' :: r → False := by
    rintro r ⟨⟩
    revert hc
    decide
  have hplus : ∀ r, c :: rest = '+' :: r → False := by
    rintro r ⟨⟩
    revert hc
    decide
  -- without a sign the first character is to be a digit
  have hnone : Text.digit? c = none := by
    unfold Text.digit?
    rw [if_neg]
    intro hrange
    simp only [Char.le_def] at hrange
    rw [Char.isDigit, Bool.and_eq_false_iff] at hdigit
    simp only [decide_eq_false_iff_not] at hdigit
    exact hdigit.elim (fun hlow => hlow hrange.1) (fun hhigh => hhigh hrange.2)
  rw [Text.i64?, hname, Text.integer?, Text.natural?, Text.digitsFrom?, hnone]
  · rfl
  · exact fun heq => List.cons_ne_nil c rest heq
  · exact hminus
  · exact hplus

end Naming

theorem Url.isSegment_ofInt (i : Int) : Url.IsSegment (Text.ofInt i) := by
  have hne : (Text.ofInt i).toList ≠ [] := by
    cases i with
    | ofNat n =>
      rw [Text.ofInt, String.toList_ofList]
      exact Nat.toDigits_ne_nil
    | negSucc n =>
      rw [Text.ofInt, String.toList_ofList]
      exact List.cons_ne_nil _ _
  obtain ⟨c, rest, hcons⟩ := List.exists_cons_of_ne_nil hne
  have hmem : c ∈ (Text.ofInt i).toList := by
    rw [hcons]
    exact List.mem_cons_self
  refine ⟨fun x hx => ?_, c, hmem, ?_⟩
  · rcases Text.mem_ofInt hx with hdigit | rfl
    · simp [isUnreserved, Char.isAlphanum, hdigit]
    · decide
  · rcases Text.mem_ofInt hmem with hdigit | rfl
    · exact Text.ne_of_isDigit hdigit (by decide)
    · decide

namespace Rest

/-! ## Reading an address -/

/-- The object that the address of a call names: a number in front of the method. -/
def object? (address : String) : Option Int :=
  match (Text.splitAll (Url.isSlash false) (Url.writtenPath address)).reverse with
  | _ :: object :: _ => Text.i64? (.ofList object)
  | _ => none

def parameter? (name address : String) : Option String :=
  Fields.find? name (Url.Form.decode (Url.writtenQuery address))

/-! ## The text of an address -/

/-- The parts of the path of a call behind the service. -/
def names (r : Request) : List String :=
  (r.id.map Text.ofInt).toList ++ [r.method ++ ".json"]

theorem toList_path (r : Request) : (path r).toList = Url.tailText r.service (names r) := by
  unfold path names Url.tailText
  rw [Url.toList_join]
  cases r.id with
  | none => simp [String.toList_append, List.intercalate_cons_cons]
  | some id => simp [String.toList_append, List.intercalate_cons_cons]

theorem url_ok {r : Request} {u : Url} (h : url r = .ok u) :
    ∃ v, Url.parse (Http.joinUrl r.endpoint (path r)) = .ok v ∧ u = v.append (parameters r) := by
  rw [url] at h
  cases hparse : Url.parse (Http.joinUrl r.endpoint (path r)) with
  | error fault =>
    rw [hparse] at h
    cases h
  | ok v =>
    rw [hparse] at h
    exact ⟨v, rfl, (Except.ok.inj h).symm⟩

theorem exists_url {r : Request} (h : (url r).toOption.isSome = true) : ∃ u, url r = .ok u := by
  cases hurl : url r with
  | error e =>
    rw [hurl] at h
    cases h
  | ok u => exact ⟨u, rfl⟩

/-- Text that neither a query nor a fragment starts in. -/
def Unmarked (text : String) : Prop := ∀ c ∈ text.toList, c ≠ '?' ∧ c ≠ '#'

instance (text : String) : Decidable (Unmarked text) :=
  List.decidableBAll (fun c => c ≠ '?' ∧ c ≠ '#') text.toList

theorem Unmarked.of_isPlain {name : String} (h : Naming.isPlain name = true) : Unmarked name := by
  intro c hc
  have hplain := Naming.isUnreserved_of_isPlain h c hc
  exact ⟨Url.ne_of_isUnreserved hplain (by decide), Url.ne_of_isUnreserved hplain (by decide)⟩

section Address

variable {r : Request} (hendpoint : Unmarked r.endpoint) (hservice : Unmarked r.service)
  (hmethod : Unmarked r.method)

include hendpoint hservice hmethod

theorem unmarked_address : Unmarked (Http.joinUrl r.endpoint (path r)) := by
  have happend {a b : String} (ha : Unmarked a) (hb : Unmarked b) : Unmarked (a ++ b) := by
    intro c hc
    rw [String.toList_append, List.mem_append] at hc
    exact hc.elim (ha c) (hb c)
  have hslash : Unmarked "/" := by decide
  have hformat : Unmarked ".json" := by decide
  have hid (i : Int) : Unmarked (Text.ofInt i) := by
    intro c hc
    rcases Text.mem_ofInt hc with hdigit | rfl
    · exact ⟨Text.ne_of_isDigit hdigit (by decide), Text.ne_of_isDigit hdigit (by decide)⟩
    · decide
  have hpath : Unmarked (path r) := by
    unfold path
    cases r.id with
    | none =>
      have hnone : Unmarked "" := by decide
      exact happend (happend (happend (happend hservice hnone) hslash) hmethod) hformat
    | some id =>
      exact happend (happend (happend (happend hservice (happend hslash (hid id))) hslash) hmethod)
        hformat
  -- the slashes between endpoint and path are evened out, which only takes characters away
  refine happend (happend ?_ hslash) ?_
  · intro c hc
    rw [Text.trimEndChar, String.toList_ofList, List.mem_reverse] at hc
    exact hendpoint c (List.mem_reverse.1 ((List.dropWhile_sublist _).mem hc))
  · intro c hc
    rw [Text.trimStartChar, String.toList_ofList] at hc
    exact hpath c ((List.dropWhile_sublist _).mem hc)

/-- The query of the address of a call holds its parameters. -/
theorem decode_writtenQuery {u : Url} (h : url r = .ok u) :
    Url.Form.decode (Url.writtenQuery u.text) = parameters r := by
  obtain ⟨v, hparse, rfl⟩ := url_ok h
  -- the address has no query of its own that the parameters would follow
  have hbare := Url.bare_of_parse (unmarked_address hendpoint hservice hmethod) hparse
  rw [Url.writtenQuery_append hbare, Url.Form.decode_encode]

end Address

section Object

variable {r : Request} (hendpoint : Unmarked r.endpoint)
  (hservice : Naming.isPlain r.service = true) (hmethod : Naming.isPlain r.method = true)

include hmethod

theorem isSegment_names : ∀ s ∈ names r, Url.IsSegment s := by
  intro s hs
  rcases List.mem_append.1 hs with hs | hs
  · cases hid : r.id with
    | none =>
      rw [hid] at hs
      cases hs
    | some id =>
      rw [hid] at hs
      obtain rfl := List.mem_singleton.1 hs
      exact Url.isSegment_ofInt id
  · obtain rfl := List.mem_singleton.1 hs
    exact Naming.isSegment_json hmethod

include hservice

theorem toList_address : (Http.joinUrl r.endpoint (path r)).toList =
    (Text.trimEndChar '/' r.endpoint).toList ++ '/' :: Url.tailText r.service (names r) := by
  have hsegments : ∀ s ∈ r.service :: names r, Url.IsSegment s :=
    List.forall_mem_cons.2 ⟨Naming.isSegment_of_isPlain hservice, isSegment_names hmethod⟩
  have hne : names r ≠ [] := List.append_ne_nil_of_right_ne_nil _ (List.cons_ne_nil _ _)
  obtain ⟨c, cs, hcons, hc, -⟩ := Url.exists_cons_tailText hsegments hne
  have hstart : Text.trimStartChar '/' (path r) = path r := by
    rw [Text.trimStartChar, toList_path, hcons, List.dropWhile_cons_of_neg (by simpa using hc),
      ← hcons, ← toList_path, String.ofList_toList]
  rw [Http.joinUrl, hstart, String.toList_append, String.toList_append, toList_path,
    List.append_assoc]
  rfl

include hendpoint

/-- The names of a call are the last parts of the path in its address; what stands in front of
them is no number. -/
theorem splitAll_writtenPath {u : Url} (h : url r = .ok u) :
    ∃ before front, Text.splitAll (Url.isSlash false) (Url.writtenPath u.text) =
        before ++ front :: (names r).map String.toList ∧
      Text.i64? (.ofList front) = none := by
  have hsegments : ∀ s ∈ r.service :: names r, Url.IsSegment s :=
    List.forall_mem_cons.2 ⟨Naming.isSegment_of_isPlain hservice, isSegment_names hmethod⟩
  have hne : names r ≠ [] := List.append_ne_nil_of_right_ne_nil _ (List.cons_ne_nil _ _)
  have hunmarked := unmarked_address hendpoint (.of_isPlain hservice) (.of_isPlain hmethod)
  obtain ⟨v, hparse, rfl⟩ := url_ok h
  have hbare := Url.bare_of_parse hunmarked hparse
  have hpath := Url.path_of_parse hsegments hne (toList_address hservice hmethod) hunmarked hparse
  rcases Url.writtenPath_append hbare (parameters r) hne (isSegment_names hmethod) hpath with
    ⟨before, hwritten⟩ | hwritten
  · -- the service is a part of the path, and a name in front of the method is no number
    refine ⟨Text.splitAll (Url.isSlash false) before, r.service.toList, ?_, ?_⟩
    · rw [hwritten, Text.splitAll_append_cons rfl, Url.tailText,
        Url.splitAll_join (List.cons_ne_nil _ _) hsegments]
      rfl
    · rw [String.ofList_toList]
      exact Naming.i64?_of_isPlain hservice
  · -- the service is the host of the address
    refine ⟨[], [], ?_, by decide⟩
    rw [hwritten, ← List.nil_append ('/' :: _), Text.splitAll_append_cons rfl,
      Url.splitAll_join hne (isSegment_names hmethod)]
    rfl

/-- The object of a call is found in its address. -/
theorem object?_url (hid : ∀ id, r.id = some id → Text.fitsI64 id = true) {u : Url}
    (h : url r = .ok u) : object? u.text = r.id := by
  obtain ⟨before, front, hsplit, hfront⟩ := splitAll_writtenPath hendpoint hservice hmethod h
  rw [object?, hsplit]
  cases hr : r.id with
  | none =>
    have hnames : names r = [r.method ++ ".json"] := by
      rw [names, hr]
      rfl
    rw [hnames]
    simpa using hfront
  | some id =>
    have hnames : names r = [Text.ofInt id, r.method ++ ".json"] := by
      rw [names, hr]
      rfl
    rw [hnames]
    simpa using Text.i64?_ofInt (hid id hr)

end Object

end Rest

end CloudClient
