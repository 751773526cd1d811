import CloudClient.Proofs.Query.Bracket
import CloudClient.Proofs.Text.Split

/-!
# Mask texts — written masks are read back

A mask in any of its written forms is read as a list of fields that are trimmed, balanced,
different from each other and without commas outside brackets.  The text of such a mask is
read as the same mask, and joining such masks gives such a mask.

* `Mask.IsField` and `Mask.WellFormed` are the conditions on fields and masks.
* `Mask.wellFormed_parse`: what is read is well formed.
* `Mask.parse_text`: what is well formed is read back.
* `Mask.push_survives_iff`: which texts can be pushed to a mask that is read back.
* `Mask.read_back` has it for masks that are read, made from fields, or joined.
-/

namespace CloudClient

/-- A keyword that can be read back: a type in it is trimmed, its text ends at the closing
bracket, and its brackets pair up. -/
def MaskKind.WellFormed : MaskKind → Prop
  | .typed type =>
    Text.trimmed type = type ∧ ')' ∉ type.toList ∧
      Mask.Balanced ('(' :: (type.toList ++ [')']))
  | _ => True

theorem MaskKind.wellFormed_plain : MaskKind.plain.WellFormed := trivial

theorem MaskKind.wellFormed_filtered : MaskKind.filtered.WellFormed := trivial

namespace Mask

structure IsField (field : String) : Prop where
  nonempty : field ≠ ""
  trimmed : Text.trimmed field = field
  balanced : Balanced field.toList
  noTopComma : NoTopComma field.toList

/-- A mask whose fields are field expressions, each once, under a keyword that can be read
back. -/
structure WellFormed (m : Mask) : Prop where
  kind : m.kind.WellFormed
  nodup : m.fields.Nodup
  fields : ∀ field ∈ m.fields, IsField field

/-! ## Fields -/

theorem IsField.isPiece {field : String} (h : IsField field) : IsPiece 0 field.toList :=
  isPiece_iff.2 ⟨h.balanced, h.noTopComma⟩

theorem IsField.trim_toList {field : String} (h : IsField field) :
    Text.trim field.toList = field.toList := by
  have htrimmed := congrArg String.toList h.trimmed
  rwa [Text.trimmed, String.toList_ofList] at htrimmed

theorem IsField.toList_ne_nil {field : String} (h : IsField field) : field.toList ≠ [] :=
  fun hnil => h.nonempty (String.toList_eq_nil_iff.1 hnil)

/-- A piece of a list, trimmed, is a field unless it is blank. -/
theorem isField_of_isPiece {p : List Char} (h : IsPiece 0 p) (hne : Text.trim p ≠ []) :
    IsField (.ofList (Text.trim p)) := by
  obtain ⟨hbalanced, hcomma⟩ := isPiece_iff.1 h.trim
  rw [← String.toList_ofList (l := Text.trim p)] at hbalanced hcomma hne
  refine ⟨fun hempty => hne (String.toList_eq_nil_iff.2 hempty), ?_, hbalanced, hcomma⟩
  rw [Text.trimmed, String.toList_ofList, Text.trim_trim]

/-! ## Adding fields -/

theorem WellFormed.push {m : Mask} (hm : m.WellFormed) {field : String}
    (h : Text.trimmed field ≠ "" → IsField (Text.trimmed field)) :
    (m.push field).WellFormed := by
  unfold Mask.push
  dsimp only
  split
  · exact hm
  · rename_i hnew
    simp only [Bool.or_eq_true, String.isEmpty_iff, List.contains_iff_mem, not_or] at hnew
    refine ⟨hm.kind, ?_, List.forall_mem_append.2 ⟨hm.fields, ?_⟩⟩
    · rw [List.nodup_append]
      refine ⟨hm.nodup, List.pairwise_singleton _ _, fun a ha b hb hab => hnew.2 ?_⟩
      rw [← List.mem_singleton.1 hb, ← hab]
      exact ha
    · exact List.forall_mem_singleton.2 (h hnew.1)

/-- A field that is not there yet goes to the end. -/
theorem push_of_not_mem {m : Mask} {field : String} (h : IsField field)
    (hnew : field ∉ m.fields) : m.push field = { m with fields := m.fields ++ [field] } := by
  unfold Mask.push
  rw [h.trimmed]
  refine if_neg ?_
  simp only [Bool.or_eq_true, String.isEmpty_iff, List.contains_iff_mem, not_or]
  exact ⟨h.nonempty, hnew⟩

/-- What is pushed is there then, unless it is blank. -/
theorem mem_fields_push (m : Mask) {field : String} (h : Text.trimmed field ≠ "") :
    Text.trimmed field ∈ (m.push field).fields := by
  unfold Mask.push
  dsimp only
  split
  · rename_i hold
    simp only [Bool.or_eq_true, String.isEmpty_iff, List.contains_iff_mem] at hold
    exact hold.resolve_left h
  · exact List.mem_append_right _ List.mem_cons_self

theorem WellFormed.of_push {m : Mask} {field : String} (h : (m.push field).WellFormed) :
    m.WellFormed := by
  unfold Mask.push at h
  dsimp only at h
  split at h
  · exact h
  · exact ⟨h.kind, (List.nodup_append.1 h.nodup).1,
      fun f hf => h.fields f (List.mem_append_left _ hf)⟩

/-- Of a text only its brackets and commas matter: the rest of what a field is, pushing sees
to. -/
theorem wellFormed_push_iff {m : Mask} (hm : m.WellFormed) {field : String} :
    (m.push field).WellFormed ↔ IsPiece 0 field.toList := by
  constructor
  · intro h
    by_cases hblank : Text.trimmed field = ""
    · refine isPiece_of_isBlank (Text.trim_eq_nil_iff.1 ?_)
      rwa [Text.trimmed, ← String.toList_eq_nil_iff, String.toList_ofList] at hblank
    · have hfield := (h.fields _ (mem_fields_push m hblank)).isPiece
      rw [Text.trimmed, String.toList_ofList] at hfield
      exact isPiece_trim_iff.1 hfield
  · intro h
    refine hm.push fun hne => isField_of_isPiece h fun hnil => hne ?_
    rw [Text.trimmed, hnil]

theorem WellFormed.of_foldl_push {fields : List String} {m : Mask}
    (h : (fields.foldl Mask.push m).WellFormed) : m.WellFormed := by
  induction fields generalizing m with
  | nil => rwa [List.foldl_nil] at h
  | cons field rest ih =>
    rw [List.foldl_cons] at h
    exact (ih h).of_push

theorem wellFormed_foldl_push_iff {m : Mask} (hm : m.WellFormed) {fields : List String} :
    (fields.foldl Mask.push m).WellFormed ↔ ∀ field ∈ fields, IsPiece 0 field.toList := by
  induction fields generalizing m with
  | nil =>
    rw [List.foldl_nil]
    exact iff_of_true hm (List.forall_mem_nil _)
  | cons field rest ih =>
    rw [List.foldl_cons, List.forall_mem_cons]
    constructor
    · intro h
      have hfirst : (m.push field).WellFormed := h.of_foldl_push
      exact ⟨(wellFormed_push_iff hm).1 hfirst, (ih hfirst).1 h⟩
    · rintro ⟨hfield, hrest⟩
      exact (ih ((wellFormed_push_iff hm).2 hfield)).2 hrest

theorem WellFormed.pushPieces {source : String} {pieces : List (List Char)} {m result : Mask}
    (hm : m.WellFormed) (hpieces : ∀ p ∈ pieces, IsPiece 0 p)
    (h : pushPieces source m pieces = .ok result) : result.WellFormed := by
  induction pieces generalizing m with
  | nil =>
    cases h
    exact hm
  | cons p rest ih =>
    obtain ⟨hp, hrest⟩ := List.forall_mem_cons.1 hpieces
    rw [Mask.pushPieces] at h
    split at h
    · cases h
    · rename_i hblank
      refine ih (hm.push fun _ => ?_) hrest h
      rw [Text.trimmed, String.toList_ofList]
      exact isField_of_isPiece hp (by simpa using hblank)

/-- Pieces that are fields, each once, are added as they are. -/
theorem pushPieces_fields (source : String) (kind : MaskKind) {before fields : List String}
    (hnodup : (before ++ fields).Nodup) (hfields : ∀ field ∈ fields, IsField field) :
    pushPieces source ⟨kind, before⟩ (fields.map String.toList) =
      .ok ⟨kind, before ++ fields⟩ := by
  induction fields generalizing before with
  | nil => rw [List.map_nil, pushPieces, List.append_nil]
  | cons field rest ih =>
    obtain ⟨hfield, hrest⟩ := List.forall_mem_cons.1 hfields
    have hnew : field ∉ before := fun hmem =>
      (List.nodup_append.1 hnodup).2.2 field hmem field List.mem_cons_self rfl
    have hempty : ¬field.toList.isEmpty = true := by
      simpa using hfield.toList_ne_nil
    rw [List.map_cons, pushPieces, hfield.trim_toList, if_neg hempty, String.ofList_toList,
      push_of_not_mem hfield hnew]
    rw [List.append_cons] at hnodup
    refine (ih hnodup hrest).trans ?_
    rw [← List.append_cons]

/-! ## Keywords -/

theorem bracketBody?_eq_some_iff {cs body : List Char} :
    bracketBody? cs = some body ↔
      Text.trim cs = '[' :: (body ++ [']']) ∧ Balanced body := by
  unfold bracketBody?
  simp only [Option.bind_eq_bind, Option.bind_eq_some_iff, Text.dropHead?_eq_some_iff,
    Text.dropTail?_eq_some_iff, List.singleton_append]
  constructor
  · rintro ⟨inner, hinner, body', rfl, h⟩
    split at h
    · rename_i hbalanced
      obtain rfl := Option.some.inj h
      exact ⟨hinner, balanced_iff.1 hbalanced⟩
    · cases h
  · rintro ⟨htrim, hbalanced⟩
    exact ⟨_, htrim, body, rfl, if_pos (balanced_iff.2 hbalanced)⟩

theorem depthFrom_brackets {body : List Char} (h : Balanced body) (d : Nat) :
    depthFrom d ('[' :: (body ++ [']'])) = some d := by
  change depthFrom (d + 1) (body ++ [']']) = some d
  rw [depthFrom_append, h.depthFrom]
  rfl

/-- In a balanced text with a list in brackets at its end, the type before that list can be
read back. -/
theorem wellFormed_typed {type rest body : List Char}
    (hcs : Balanced ("mask(".toList ++ (type ++ ')' :: rest)))
    (htype : ∀ c ∈ type, (c == ')') = false) (hbody : bracketBody? rest = some body) :
    (MaskKind.typed (.ofList (Text.trim type))).WellFormed := by
  obtain ⟨htrim, hbalanced⟩ := bracketBody?_eq_some_iff.1 hbody
  -- the list does not change the depth, so the text before it is balanced itself
  have hfront : depthFrom 0 ("mask(".toList ++ (type ++ [')'])) = some 0 := by
    have hdepth := depthFrom_zero_iff.2 hcs
    rw [List.append_cons, ← List.append_assoc, depthFrom_append] at hdepth
    obtain ⟨e, he, hend⟩ := Option.bind_eq_some_iff.1 hdepth
    rw [← depthFrom_trim, htrim, depthFrom_brackets hbalanced] at hend
    rw [he, hend]
  rw [MaskKind.WellFormed, Text.trimmed, String.toList_ofList, Text.trim_trim]
  refine ⟨rfl, fun hmem => ?_, ?_⟩
  · simpa using htype ')' (Text.mem_of_mem_trim hmem)
  · rw [← depthFrom_zero_iff]
    change depthFrom 1 (Text.trim type ++ [')']) = some 0
    rw [depthFrom_append, depthFrom_trim, ← depthFrom_append]
    exact hfront

/-- A mask is a bare list, or it ends with a list in brackets behind its keyword. -/
theorem splitKind?_cases {cs body : List Char} {kind : MaskKind}
    (h : splitKind? cs = some (kind, body)) :
    (kind = .plain ∧ body = cs) ∨
      ∃ front rest, cs = front ++ rest ∧ bracketBody? rest = some body ∧
        (kind = .plain ∨ kind = .filtered ∨
          ∃ type, kind = .typed (.ofList (Text.trim type)) ∧ (∀ c ∈ type, (c == ')') = false) ∧
            front = "mask(".toList ++ (type ++ [')'])) := by
  have hbracketed {rest : List Char} {kind' : MaskKind}
      (h : (bracketBody? rest).map (kind', ·) = some (kind, body)) :
      kind = kind' ∧ bracketBody? rest = some body := by
    obtain ⟨body', hbody, hpair⟩ := Option.map_eq_some_iff.1 h
    obtain ⟨rfl, rfl⟩ := Prod.mk.inj hpair
    exact ⟨rfl, hbody⟩
  have hbare (h : some (MaskKind.plain, cs) = some (kind, body)) :
      kind = .plain ∧ body = cs := by
    obtain ⟨rfl, rfl⟩ := Prod.mk.inj (Option.some.inj h)
    exact ⟨rfl, rfl⟩
  unfold splitKind? at h
  split at h
  · rename_i rest hrest
    obtain ⟨hkind, hbody⟩ := hbracketed h
    have hcs := Text.dropHead?_eq_some_iff.1 hrest
    exact .inr ⟨"filteredMask".toList, rest, hcs, hbody, .inr (.inl hkind)⟩
  · split at h
    · rename_i rest hrest
      split at h
      · rename_i type rest' hsplit
        obtain ⟨hkind, hbody⟩ := hbracketed h
        obtain ⟨c, hc, rfl, htype⟩ := Text.append_of_splitOnce? hsplit
        obtain rfl := beq_iff_eq.1 hc
        have hcs := Text.dropHead?_eq_some_iff.1 hrest
        rw [List.append_cons type, ← List.append_assoc] at hcs
        exact .inr ⟨"mask(".toList ++ (type ++ [')']), rest', hcs, hbody,
          .inr (.inr ⟨type, hkind, htype, rfl⟩)⟩
      · cases h
    · split at h
      · rename_i rest hrest
        split at h
        · obtain ⟨hkind, hbody⟩ := hbracketed h
          have hcs := Text.dropHead?_eq_some_iff.1 hrest
          exact .inr ⟨"mask".toList, rest, hcs, hbody, .inl hkind⟩
        · exact .inl (hbare h)
      · split at h
        · obtain ⟨hkind, hbody⟩ := hbracketed h
          exact .inr ⟨[], cs, rfl, hbody, .inl hkind⟩
        · exact .inl (hbare h)

/-- Behind the keyword stands a balanced list, and the keyword can be read back. -/
theorem splitKind?_spec {cs body : List Char} {kind : MaskKind} (hcs : Balanced cs)
    (h : splitKind? cs = some (kind, body)) : Balanced body ∧ kind.WellFormed := by
  rcases splitKind?_cases h with ⟨rfl, rfl⟩ | ⟨front, rest, rfl, hbody, hkind⟩
  · exact ⟨hcs, MaskKind.wellFormed_plain⟩
  · refine ⟨(bracketBody?_eq_some_iff.1 hbody).2, ?_⟩
    rcases hkind with rfl | rfl | ⟨type, rfl, htype, rfl⟩
    · exact MaskKind.wellFormed_plain
    · exact MaskKind.wellFormed_filtered
    · rw [List.append_assoc, ← List.append_cons] at hcs
      exact wellFormed_typed hcs htype hbody

/-- The list of fields is a part of the mask. -/
theorem splitKind?_isInfix {cs body : List Char} {kind : MaskKind}
    (h : splitKind? cs = some (kind, body)) : body <:+: cs := by
  rcases splitKind?_cases h with ⟨-, rfl⟩ | ⟨front, rest, rfl, hbody, -⟩
  · exact List.infix_rfl
  · obtain ⟨before, after, hrest, -, -⟩ := Text.exists_trim rest
    rw [(bracketBody?_eq_some_iff.1 hbody).1] at hrest
    exact ⟨front ++ (before ++ ['[']), ']' :: after, by simp [hrest]⟩

/-! ## Reading -/

theorem parse_of_not_balanced {source : String} (h : ¬Balanced (Text.trim source.toList)) :
    parse source = .error (.unbalancedMask (Text.trimmed source)) := by
  unfold parse
  dsimp only
  rw [Bool.eq_false_iff.2 (mt balanced_iff.1 h)]
  rfl

/-- A mask that is read is well formed. -/
theorem wellFormed_parse {source : String} {m : Mask} (h : parse source = .ok m) :
    m.WellFormed := by
  unfold parse at h
  dsimp only at h
  split at h
  · cases h
  · rename_i hbalanced
    have hcs : Balanced (Text.trim source.toList) := by
      simpa [balanced_iff] using hbalanced
    split at h
    · cases h
    · rename_i kind body hsplit
      obtain ⟨hbody, hkind⟩ := splitKind?_spec hcs hsplit
      have hempty : (Mask.mk kind []).WellFormed := ⟨hkind, List.nodup_nil, nofun⟩
      split at h
      · cases h
        exact hempty
      · obtain ⟨first, rest, htop, hfirst, hrest⟩ :=
          exists_splitTop (depthFrom_zero_iff.2 hbody)
        rw [htop] at h
        exact hempty.pushPieces (List.forall_mem_cons.2 ⟨hfirst, hrest⟩) h

/-! ## Writing -/

def body (m : Mask) : List Char := [','].intercalate (m.fields.map String.toList)

theorem toList_text (m : Mask) :
    m.text.toList = m.kind.text.toList ++ '[' :: (m.body ++ [']']) := by
  simp [text, body, Text.join, String.toList_append, String.toList_intercalate]

theorem WellFormed.pieces {m : Mask} (h : m.WellFormed) :
    ∀ p ∈ m.fields.map String.toList, IsPiece 0 p := by
  intro p hp
  obtain ⟨field, hfield, rfl⟩ := List.mem_map.1 hp
  exact (h.fields field hfield).isPiece

theorem WellFormed.balanced_body {m : Mask} (h : m.WellFormed) : Balanced m.body :=
  depthFrom_zero_iff.1 (depthFrom_intercalate h.pieces)

theorem depthFrom_kind {kind : MaskKind} (h : kind.WellFormed) :
    depthFrom 0 kind.text.toList = some 0 := by
  cases kind with
  | plain => rfl
  | filtered => rfl
  | typed type =>
    have htext : (MaskKind.typed type).text.toList =
        "mask".toList ++ '(' :: (type.toList ++ [')']) := by
      simp [MaskKind.text, String.toList_append]
    rw [htext, depthFrom_append]
    exact depthFrom_zero_iff.2 h.2.2

theorem splitKind?_wrapped (body : List Char) :
    splitKind? ("mask".toList ++ '[' :: (body ++ [']'])) =
      (bracketBody? ('[' :: (body ++ [']']))).map (.plain, ·) := by
  have hfiltered : Text.dropHead? "filteredMask".toList
      ("mask".toList ++ '[' :: (body ++ [']'])) = none := rfl
  have htyped : Text.dropHead? "mask(".toList
      ("mask".toList ++ '[' :: (body ++ [']'])) = none := rfl
  have hplain := Text.dropHead?_eq_some_iff.2
    (rfl : "mask".toList ++ '[' :: (body ++ [']']) = _)
  have hopen : ['['].isPrefixOf ('[' :: (body ++ [']'])) = true := rfl
  simp only [splitKind?, hfiltered, htyped, hplain]
  rw [Text.trimStart_cons rfl, if_pos hopen]

/-- A keyword with a list in brackets behind it is taken off the list. -/
theorem splitKind?_text {kind : MaskKind} (hkind : kind.WellFormed) {body : List Char}
    (hbody : Balanced body) :
    splitKind? (kind.text.toList ++ '[' :: (body ++ [']'])) = some (kind, body) := by
  have hbracketed : bracketBody? ('[' :: (body ++ [']'])) = some body := by
    refine bracketBody?_eq_some_iff.2 ⟨?_, hbody⟩
    exact @Text.trim_closed body '[' ']' rfl rfl
  cases kind with
  | plain =>
    rw [MaskKind.text, splitKind?_wrapped, hbracketed]
    rfl
  | filtered =>
    have hfiltered := Text.dropHead?_eq_some_iff.2
      (rfl : "filteredMask".toList ++ '[' :: (body ++ [']']) = _)
    simp only [MaskKind.text, splitKind?, hfiltered, hbracketed]
    rfl
  | typed type =>
    obtain ⟨htrim, hclose, -⟩ := hkind
    have htext : (MaskKind.typed type).text.toList ++ '[' :: (body ++ [']']) =
        "mask(".toList ++ (type.toList ++ ')' :: '[' :: (body ++ [']'])) := by
      simp [MaskKind.text, String.toList_append]
    have hfiltered : Text.dropHead? "filteredMask".toList
        ("mask(".toList ++ (type.toList ++ ')' :: '[' :: (body ++ [']']))) = none := rfl
    have htyped := Text.dropHead?_eq_some_iff.2
      (rfl : "mask(".toList ++ (type.toList ++ ')' :: '[' :: (body ++ [']'])) = _)
    have hsplit : Text.splitOnce? (· == ')') (type.toList ++ ')' :: '[' :: (body ++ [']'])) =
        some (type.toList, '[' :: (body ++ [']'])) := by
      refine Text.splitOnce?_append (fun c hc => ?_) rfl _
      refine beq_eq_false_iff_ne.2 ?_
      rintro rfl
      exact hclose hc
    rw [htext]
    simp only [splitKind?, hfiltered, htyped, hsplit, hbracketed]
    exact congrArg (fun type => some (MaskKind.typed type, body)) htrim

theorem trim_text (m : Mask) : Text.trim m.text.toList = m.text.toList := by
  obtain ⟨a, r, hkind, ha⟩ : ∃ a r, m.kind.text.toList = a :: r ∧ Text.isBlank a = false := by
    cases m.kind with
    | plain => exact ⟨'m', "ask".toList, rfl, rfl⟩
    | filtered => exact ⟨'f', "ilteredMask".toList, rfl, rfl⟩
    | typed type =>
      exact ⟨'m', "ask(".toList ++ (type.toList ++ [')']),
        by simp [MaskKind.text, String.toList_append], rfl⟩
  have htext : m.text.toList = a :: (r ++ '[' :: m.body) ++ [']'] := by
    rw [toList_text, hkind]
    simp
  rw [htext, Text.trim_closed ha rfl]

/-- A mask that is well formed is read back from its text. -/
theorem parse_text {m : Mask} (h : m.WellFormed) : parse m.text = .ok m := by
  have hbody := h.balanced_body
  have hbalanced : balanced m.text.toList = true := by
    rw [balanced_iff, ← depthFrom_zero_iff, toList_text, depthFrom_append, depthFrom_kind h.kind]
    exact depthFrom_brackets hbody 0
  have hsplit : splitKind? m.text.toList = some (m.kind, m.body) := by
    rw [toList_text]
    exact splitKind?_text h.kind hbody
  unfold parse
  dsimp only
  rw [trim_text, hbalanced, hsplit]
  simp only [Bool.not_true, Bool.false_eq_true, if_false]
  obtain ⟨kind, fields⟩ := m
  cases fields with
  | nil => rfl
  | cons field rest =>
    have hnonblank : ¬(Text.trim (Mask.mk kind (field :: rest)).body).isEmpty = true := by
      rw [List.isEmpty_iff, Text.trim_eq_nil_iff]
      intro hblank
      have hfield := h.fields field List.mem_cons_self
      -- the first field would be blank, and it is trimmed
      have hnil : Text.trim field.toList = [] := by
        refine Text.trim_eq_nil_iff.2 fun c hc => hblank c ?_
        cases rest with
        | nil => simpa [body] using hc
        | cons other rest => simp [body, List.intercalate_cons_cons, hc]
      exact hfield.toList_ne_nil (hfield.trim_toList.symm.trans hnil)
    rw [if_neg hnonblank, body, splitTop_intercalate (by simp) h.pieces]
    have hnodup : ([] ++ (field :: rest)).Nodup := h.nodup
    exact pushPieces_fields _ kind hnodup h.fields

theorem parse_text_iff {m : Mask} : parse m.text = .ok m ↔ m.WellFormed :=
  ⟨wellFormed_parse, parse_text⟩

/-- What keeps a mask that is read back.  A text is pushed to it: the mask is read back then
exactly if the brackets of the text pair up and no comma stands outside of them, whether the
text is blank, padded or already there.  So a mask that is made from texts is read back exactly
if each of them is so. -/
theorem push_survives_iff (m : Mask) (field : String) (fields : List String) :
    (parse m.text = .ok m →
      (parse (m.push field).text = .ok (m.push field) ↔
        Balanced field.toList ∧ NoTopComma field.toList)) ∧
    (parse (ofFields fields).text = .ok (ofFields fields) ↔
      ∀ field ∈ fields, Balanced field.toList ∧ NoTopComma field.toList) := by
  refine ⟨fun hm => ?_, ?_⟩
  · rw [parse_text_iff, wellFormed_push_iff (parse_text_iff.1 hm), isPiece_iff]
  · have hempty : empty.WellFormed := ⟨MaskKind.wellFormed_plain, List.nodup_nil, nofun⟩
    rw [parse_text_iff, ofFields, wellFormed_foldl_push_iff hempty]
    simp only [isPiece_iff]

/-- A pushed list is read as its members, and of a pushed bracket nothing can be read. -/
theorem list_not_read_back :
    parse empty.text = .ok empty ∧
      empty.push "id,hostname" = ⟨.plain, ["id,hostname"]⟩ ∧
      parse (empty.push "id,hostname").text = .ok ⟨.plain, ["id", "hostname"]⟩ ∧
      parse (empty.push "id[").text = .error (.unbalancedMask "mask[id[]") := by
  decide +kernel

/-! ## Joining -/

theorem WellFormed.merge {m other joined : Mask} (hm : m.WellFormed) (hother : other.WellFormed)
    (h : m.merge other = .ok joined) : joined.WellFormed := by
  unfold Mask.merge at h
  split at h
  · cases h
    have htaken : (Mask.mk other.kind m.fields).WellFormed := ⟨hother.kind, hm.nodup, hm.fields⟩
    exact (wellFormed_foldl_push_iff htaken).2 fun f hf => (hother.fields f hf).isPiece
  · split at h
    · cases h
    · cases h
      exact (wellFormed_foldl_push_iff hm).2 fun f hf => (hother.fields f hf).isPiece

theorem WellFormed.composeFrom {m joined : Mask} {sources : List String} (hm : m.WellFormed)
    (h : composeFrom m sources = .ok joined) : joined.WellFormed := by
  induction sources generalizing m with
  | nil =>
    cases h
    exact hm
  | cons source rest ih =>
    rw [Mask.composeFrom] at h
    split at h
    · cases h
    · rename_i other hother
      split at h
      · cases h
      · rename_i next hnext
        exact ih (hm.merge (wellFormed_parse hother) hnext) h

/-- Masks that are read, and those that are merged or composed from them in any order. -/
inductive Joined : Mask → Prop
  | parsed {source : String} {m : Mask} (h : parse source = .ok m) : Joined m
  | merged {m other joined : Mask} (hm : Joined m) (hother : Joined other)
    (h : m.merge other = .ok joined) : Joined joined
  | composed {sources : List String} {m : Mask} (h : compose sources = .ok m) : Joined m

theorem Joined.wellFormed {m : Mask} (h : m.Joined) : m.WellFormed := by
  induction h with
  | parsed h => exact wellFormed_parse h
  | merged _ _ h hm hother => exact hm.merge hother h
  | composed h =>
    have hempty : Mask.empty.WellFormed := ⟨MaskKind.wellFormed_plain, List.nodup_nil, nofun⟩
    exact hempty.composeFrom h

/-- Masks and their texts.  The fields of a mask that is read are trimmed and not empty,
balanced, without commas outside brackets, and differ from each other, and the text of the
mask is read as this mask again.  Every list of such fields is read back under the keywords
without a type, and so is every mask that is merged or composed from masks that are read. -/
theorem read_back :
    (∀ source m, parse source = .ok m →
      m.fields.Nodup ∧ (∀ field ∈ m.fields, IsField field) ∧ parse m.text = .ok m) ∧
    (∀ kind fields, kind = .plain ∨ kind = .filtered → fields.Nodup →
      (∀ field ∈ fields, IsField field) →
      parse (Mask.mk kind fields).text = .ok ⟨kind, fields⟩) ∧
    (∀ m : Mask, m.Joined → parse m.text = .ok m) := by
  refine ⟨fun source m h => ?_, fun kind fields hkind hnodup hfields => ?_, fun m h => ?_⟩
  · have hm := wellFormed_parse h
    exact ⟨hm.nodup, hm.fields, parse_text hm⟩
  · refine parse_text ⟨?_, hnodup, hfields⟩
    obtain rfl | rfl := hkind
    · exact MaskKind.wellFormed_plain
    · exact MaskKind.wellFormed_filtered
  · exact parse_text h.wellFormed

end Mask

end CloudClient
