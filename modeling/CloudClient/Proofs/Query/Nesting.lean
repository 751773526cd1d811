import CloudClient.Proofs.Query.MaskText

/-!
# Nesting — brackets that close their own kind

Square and round brackets count alike when a mask is read: what is accepted is balanced, and in
a balanced text a bracket may be closed by one of the other kind.  Where none is, the text is
properly paired, and so is each field that is read from it.

* `Mask.Paired` is the language of the properly paired texts, `Mask.Mixed` the crossing of kinds.
* `Mask.paired_iff`: a text is properly paired exactly if it is balanced and not mixed.
* `Mask.parse_error`: why masks are refused.
* `Mask.pairs_unless_mixed` says which brackets of accepted masks pair up, and what is refused.
-/

namespace CloudClient.Mask

/-! ## Kinds of brackets -/

inductive Pair : Char → Char → Prop
  | square : Pair '[' ']'
  | round : Pair '(' ')'

/-- A bracket and the closing one of the other kind. -/
inductive Crossing : Char → Char → Prop
  | squareRound : Crossing '[' ')'
  | roundSquare : Crossing '(' ']'

/-- A character that is no bracket. -/
def IsPlain (c : Char) : Prop := c ≠ '[' ∧ c ≠ ']' ∧ c ≠ '(' ∧ c ≠ ')'

/-- Every bracket is closed by one of its own kind, in the order in which they nest. -/
inductive Paired : List Char → Prop
  | nil : Paired []
  | plain {c : Char} {cs : List Char} (hc : IsPlain c) (hcs : Paired cs) : Paired (c :: cs)
  | enclosed {o c : Char} {inner cs : List Char} (h : Pair o c) (hinner : Paired inner)
      (hcs : Paired cs) : Paired (o :: (inner ++ c :: cs))

/-- Somewhere a bracket is closed by one of the other kind: what stands between them is
balanced. -/
def Mixed (cs : List Char) : Prop :=
  ∃ front o inner c back, cs = front ++ o :: (inner ++ c :: back) ∧ Balanced inner ∧ Crossing o c

variable {d e : Nat} {c o : Char} {cs opened left : List Char}

theorem bracketStep_of_isPlain (h : IsPlain c) : bracketStep d c = some d := by
  obtain ⟨h1, h2, h3, h4⟩ := h
  simp [bracketStep, h1, h2, h3, h4]

/-- A character opens, closes or leaves the depth as it is. -/
theorem bracketStep_cases (h : bracketStep d c = some e) :
    ((c = '[' ∨ c = '(') ∧ e = d + 1) ∨ ((c = ']' ∨ c = ')') ∧ d = e + 1) ∨
      (IsPlain c ∧ e = d) := by
  unfold bracketStep at h
  split at h
  · rename_i hopen
    exact .inl ⟨by simpa using hopen, (Option.some.inj h).symm⟩
  · rename_i hopen
    split at h
    · rename_i hclose
      cases d with
      | zero => cases h
      | succ d => exact .inr (.inl ⟨by simpa using hclose, by rw [Option.some.inj h]⟩)
    · rename_i hclose
      simp only [Bool.or_eq_true, beq_iff_eq, not_or] at hopen hclose
      exact .inr (.inr ⟨⟨hopen.1, hclose.1, hopen.2, hclose.2⟩, (Option.some.inj h).symm⟩)

/-- Two brackets with a balanced text between them are a pair or a crossing. -/
theorem pair_or_crossing (ho : o = '[' ∨ o = '(') (hc : c = ']' ∨ c = ')') :
    Pair o c ∨ Crossing o c := by
  rcases ho with rfl | rfl <;> rcases hc with rfl | rfl
  · exact .inl .square
  · exact .inr .squareRound
  · exact .inr .roundSquare
  · exact .inl .round

/-! ## Properly paired texts -/

theorem Paired.depthFrom (h : Paired cs) (d : Nat) : depthFrom d cs = some d := by
  induction h generalizing d with
  | nil => rfl
  | plain hc hcs ih =>
    rw [Mask.depthFrom, bracketStep_of_isPlain hc]
    exact ih d
  | enclosed h hinner hcs ihinner ih =>
    cases h with
    | square =>
      change Mask.depthFrom (d + 1) _ = _
      rw [depthFrom_append, ihinner]
      exact ih d
    | round =>
      change Mask.depthFrom (d + 1) _ = _
      rw [depthFrom_append, ihinner]
      exact ih d

theorem Paired.balanced (h : Paired cs) : Balanced cs :=
  depthFrom_zero_iff.1 (h.depthFrom 0)

/-- What is left of a text below the brackets that were opened before it: properly paired parts
with closing brackets between them. -/
inductive Layers : Nat → List Char → Prop
  | top {cs : List Char} (h : Paired cs) : Layers 0 cs
  | closed {d : Nat} {inner cs : List Char} {c : Char} (h : Paired inner) (hc : c = ']' ∨ c = ')')
      (hcs : Layers d cs) : Layers (d + 1) (inner ++ c :: cs)

/-- What keeps paired texts paired can be put before the first part. -/
theorem Layers.prepend (h : Layers d cs) (front : List Char)
    (hfront : ∀ inner, Paired inner → Paired (front ++ inner)) : Layers d (front ++ cs) := by
  cases h with
  | top h => exact .top (hfront _ h)
  | closed h hc hcs =>
    rw [← List.append_assoc]
    exact .closed (hfront _ h) hc hcs

theorem Mixed.cons (h : Mixed cs) (x : Char) : Mixed (x :: cs) := by
  obtain ⟨front, o, inner, c, back, rfl, hinner, hcrossing⟩ := h
  exact ⟨x :: front, o, inner, c, back, rfl, hinner, hcrossing⟩

/-- Without a crossing the brackets that are open are closed layer by layer. -/
theorem layers_of_depthFrom (h : depthFrom d cs = some 0) (hmixed : ¬Mixed cs) :
    Layers d cs := by
  induction cs generalizing d with
  | nil =>
    obtain rfl := Option.some.inj h
    exact .top .nil
  | cons x r ih =>
    rw [Mask.depthFrom] at h
    obtain ⟨e, hstep, hr⟩ := Option.bind_eq_some_iff.1 h
    have hlayers := ih hr fun hr => hmixed (hr.cons x)
    rcases bracketStep_cases hstep with ⟨hopen, rfl⟩ | ⟨hclose, rfl⟩ | ⟨hplain, rfl⟩
    · -- the bracket is closed where the first part of the rest ends
      cases hlayers with
      | closed hinner hc hcs =>
        rename_i inner cs c
        have hpair : Pair x c := (pair_or_crossing hopen hc).resolve_right fun hcrossing =>
          hmixed ⟨[], x, inner, c, cs, rfl, hinner.balanced, hcrossing⟩
        have hfront := hcs.prepend (x :: (inner ++ [c])) fun p hp => by
          simpa using Paired.enclosed hpair hinner hp
        simpa using hfront
    · exact .closed .nil hclose hlayers
    · exact hlayers.prepend [x] fun _ => .plain hplain

/-! ## Open brackets -/

/-- The open brackets after one more character, the innermost first; none if it closes nothing
or a bracket of the other kind. -/
def openStep : List Char → Char → Option (List Char)
  | opened, '[' => some ('[' :: opened)
  | opened, '(' => some ('(' :: opened)
  | '[' :: opened, ']' => some opened
  | '(' :: opened, ')' => some opened
  | _, ']' => none
  | _, ')' => none
  | opened, _ => some opened

def openFrom (opened : List Char) : List Char → Option (List Char)
  | [] => some opened
  | c :: r => (openStep opened c).bind fun next => openFrom next r

theorem openStep_of_isPlain (h : IsPlain c) : openStep opened c = some opened := by
  obtain ⟨h1, h2, h3, h4⟩ := h
  unfold openStep
  split
  · exact absurd rfl h1
  · exact absurd rfl h3
  · exact absurd rfl h2
  · exact absurd rfl h4
  · exact absurd rfl h2
  · exact absurd rfl h4
  · rfl

/-- A character opens a bracket, closes the innermost one as its pair, or changes nothing. -/
theorem openStep_cases (h : openStep opened c = some left) :
    ((c = '[' ∨ c = '(') ∧ left = c :: opened) ∨ (∃ o, Pair o c ∧ opened = o :: left) ∨
      (IsPlain c ∧ left = opened) := by
  unfold openStep at h
  split at h
  · exact .inl ⟨.inl rfl, (Option.some.inj h).symm⟩
  · exact .inl ⟨.inr rfl, (Option.some.inj h).symm⟩
  · exact .inr (.inl ⟨_, .square, by rw [Option.some.inj h]⟩)
  · exact .inr (.inl ⟨_, .round, by rw [Option.some.inj h]⟩)
  · cases h
  · cases h
  · rename_i hsquare hround hsquare' hround' _ _
    exact .inr (.inr ⟨⟨hsquare, hsquare', hround, hround'⟩, (Option.some.inj h).symm⟩)

theorem openFrom_append (opened front back : List Char) :
    openFrom opened (front ++ back) = (openFrom opened front).bind (openFrom · back) := by
  induction front generalizing opened with
  | nil => rfl
  | cons c r ih =>
    rw [List.cons_append, openFrom, openFrom, Option.bind_assoc]
    exact Option.bind_congr fun next _ => ih next

theorem Paired.openFrom (h : Paired cs) (opened : List Char) :
    openFrom opened cs = some opened := by
  induction h generalizing opened with
  | nil => rfl
  | plain hc hcs ih =>
    rw [Mask.openFrom, openStep_of_isPlain hc]
    exact ih opened
  | enclosed h hinner hcs ihinner ih =>
    cases h with
    | square =>
      change Mask.openFrom ('[' :: opened) _ = _
      rw [openFrom_append, ihinner]
      exact ih opened
    | round =>
      change Mask.openFrom ('(' :: opened) _ = _
      rw [openFrom_append, ihinner]
      exact ih opened

/-- Below the depth that a text keeps to, it leaves the open brackets as they are. -/
theorem drop_openFrom (hdepth : depthFrom d cs = some e) (h : openFrom opened cs = some left) :
    left.drop e = opened.drop d := by
  induction cs generalizing d opened with
  | nil =>
    obtain rfl := Option.some.inj hdepth
    obtain rfl := Option.some.inj h
    rfl
  | cons x r ih =>
    rw [Mask.depthFrom] at hdepth
    obtain ⟨d', hstep, hdepth'⟩ := Option.bind_eq_some_iff.1 hdepth
    rw [Mask.openFrom] at h
    obtain ⟨next, hopen, h'⟩ := Option.bind_eq_some_iff.1 h
    rw [ih hdepth' h']
    rcases openStep_cases hopen with ⟨hx, rfl⟩ | ⟨o, hpair, rfl⟩ | ⟨hx, rfl⟩
    · have hd : d' = d + 1 := by
        rcases hx with rfl | rfl <;> exact (Option.some.inj hstep).symm
      rw [hd, List.drop_succ_cons]
    · have hd : d = d' + 1 := by
        cases hpair <;> cases d <;> cases hstep <;> rfl
      rw [hd, List.drop_succ_cons]
    · rw [bracketStep_of_isPlain hx] at hstep
      rw [Option.some.inj hstep]

theorem Paired.not_mixed (h : Paired cs) : ¬Mixed cs := by
  rintro ⟨front, o, inner, c, back, rfl, hinner, hcrossing⟩
  have hcs := h.openFrom []
  rw [openFrom_append] at hcs
  obtain ⟨opened, -, hopen⟩ := Option.bind_eq_some_iff.1 hcs
  have ho : Mask.openFrom opened (o :: (inner ++ c :: back)) =
      (Mask.openFrom (o :: opened) inner).bind (Mask.openFrom · (c :: back)) := by
    rw [← openFrom_append]
    cases hcrossing <;> rfl
  rw [ho] at hopen
  obtain ⟨left, hleft, hclose⟩ := Option.bind_eq_some_iff.1 hopen
  -- the bracket is still the innermost one where the other kind closes it
  obtain rfl : left = o :: opened := drop_openFrom (depthFrom_zero_iff.2 hinner) hleft
  cases hcrossing <;> cases hclose

theorem paired_iff : Paired cs ↔ Balanced cs ∧ ¬Mixed cs := by
  refine ⟨fun h => ⟨h.balanced, h.not_mixed⟩, fun ⟨hbalanced, hmixed⟩ => ?_⟩
  cases layers_of_depthFrom (depthFrom_zero_iff.2 hbalanced) hmixed with
  | top h => exact h

theorem Mixed.of_isInfix {part : List Char} (h : Mixed part) (hpart : part <:+: cs) :
    Mixed cs := by
  obtain ⟨before, after, rfl⟩ := hpart
  obtain ⟨front, o, inner, c, back, rfl, hinner, hcrossing⟩ := h
  exact ⟨before ++ front, o, inner, c, back ++ after, by simp, hinner, hcrossing⟩

/-! ## Fields -/

/-- The pieces of a list are parts of it, the first one at its beginning. -/
theorem infix_of_splitTop {first : List Char} {rest : List (List Char)}
    (h : splitTop d cs = first :: rest) : first <+: cs ∧ ∀ p ∈ rest, p <:+: cs := by
  induction cs generalizing d first rest with
  | nil =>
    obtain ⟨rfl, rfl⟩ := List.cons.inj h
    exact ⟨List.prefix_rfl, nofun⟩
  | cons c r ih =>
    rw [splitTop] at h
    split at h
    · obtain ⟨rfl, rfl⟩ := List.cons.inj h
      refine ⟨List.nil_prefix, fun p hp => List.infix_cons ?_⟩
      cases hr : splitTop d r with
      | nil => simp [hr] at hp
      | cons next rest =>
        obtain ⟨hnext, hrest⟩ := ih hr
        rw [hr] at hp
        rcases List.mem_cons.1 hp with rfl | hp
        · exact hnext.isInfix
        · exact hrest p hp
    · dsimp only at h
      split at h
      · obtain ⟨rfl, rfl⟩ := List.cons.inj h
        exact ⟨⟨r, rfl⟩, nofun⟩
      · rename_i piece pieces hr
        obtain ⟨rfl, rfl⟩ := List.cons.inj h
        obtain ⟨hpiece, hpieces⟩ := ih hr
        exact ⟨List.cons_prefix_cons.2 ⟨rfl, hpiece⟩, fun p hp => List.infix_cons (hpieces p hp)⟩

theorem infix_of_mem_splitTop {p : List Char} (h : p ∈ splitTop d cs) : p <:+: cs := by
  cases hcs : splitTop d cs with
  | nil => simp [hcs] at h
  | cons first rest =>
    obtain ⟨hfirst, hrest⟩ := infix_of_splitTop hcs
    rw [hcs] at h
    rcases List.mem_cons.1 h with rfl | h
    · exact hfirst.isInfix
    · exact hrest p h

theorem trim_isInfix (cs : List Char) : Text.trim cs <:+: cs := by
  obtain ⟨front, back, hcs, -, -⟩ := Text.exists_trim cs
  exact ⟨front, back, by rw [List.append_assoc, ← hcs]⟩

theorem mem_fields_pushPieces {source : String} {pieces : List (List Char)} {m result : Mask}
    {field : String} (h : pushPieces source m pieces = .ok result) (hfield : field ∈ result.fields) :
    field ∈ m.fields ∨ ∃ p ∈ pieces, field.toList = Text.trim p := by
  induction pieces generalizing m with
  | nil =>
    cases h
    exact .inl hfield
  | cons p rest ih =>
    rw [pushPieces] at h
    split at h
    · cases h
    · rcases ih h with hpushed | ⟨q, hq, heq⟩
      · unfold push at hpushed
        dsimp only at hpushed
        split at hpushed
        · exact .inl hpushed
        · rcases List.mem_append.1 hpushed with hold | hnew
          · exact .inl hold
          · refine .inr ⟨p, List.mem_cons_self, ?_⟩
            rw [List.mem_singleton.1 hnew, Text.trimmed, String.toList_ofList,
              String.toList_ofList]
      · exact .inr ⟨q, List.mem_cons_of_mem p hq, heq⟩

/-- The fields of a mask that is read are parts of its text. -/
theorem infix_of_parse {source : String} {m : Mask} (h : parse source = .ok m) {field : String}
    (hfield : field ∈ m.fields) : field.toList <:+: source.toList := by
  unfold parse at h
  dsimp only at h
  split at h
  · cases h
  · split at h
    · cases h
    · rename_i kind body hsplit
      split at h
      · cases h
        cases hfield
      · rcases mem_fields_pushPieces h hfield with hmem | ⟨p, hp, heq⟩
        · cases hmem
        · rw [heq]
          exact (trim_isInfix p).trans ((infix_of_mem_splitTop hp).trans
            ((splitKind?_isInfix hsplit).trans (trim_isInfix _)))

/-! ## What is refused -/

theorem pushPieces_error {source : String} {pieces : List (List Char)} {m : Mask}
    {e : QueryError} (h : pushPieces source m pieces = .error e) : e = .emptyMaskField source := by
  induction pieces generalizing m with
  | nil => cases h
  | cons p rest ih =>
    rw [pushPieces] at h
    split at h
    · exact (Except.error.inj h).symm
    · exact ih h

/-- A mask is refused for its brackets or for a field without a text. -/
theorem parse_error {source : String} {e : QueryError} (h : parse source = .error e) :
    e = .unbalancedMask (Text.trimmed source) ∨ e = .emptyMaskField source := by
  unfold parse at h
  dsimp only at h
  split at h
  · exact .inl (Except.error.inj h).symm
  · split at h
    · exact .inl (Except.error.inj h).symm
    · split at h
      · cases h
      · exact .inr (pushPieces_error h)

theorem balanced_trim_iff : Balanced (Text.trim cs) ↔ Balanced cs := by
  rw [← depthFrom_zero_iff, depthFrom_trim, depthFrom_zero_iff]

theorem balanced_of_parse {source : String} {m : Mask} (h : parse source = .ok m) :
    Balanced source.toList := by
  refine balanced_trim_iff.1 (Classical.not_not.1 fun hbalanced => ?_)
  rw [parse_of_not_balanced hbalanced] at h
  cases h

/-- Brackets of masks.  A text is properly paired exactly if it is balanced, both kinds counted
alike, and no bracket is closed by one of the other kind.  What is not balanced is refused as
such, and what is refused is refused for its brackets or for an empty field.  What is accepted
is balanced, as a whole and in each field; so it is properly paired exactly if it is not mixed,
and then its fields are, too. -/
theorem pairs_unless_mixed (source : String) :
    (Paired source.toList ↔ Balanced source.toList ∧ ¬Mixed source.toList) ∧
    (¬Balanced source.toList → parse source = .error (.unbalancedMask (Text.trimmed source))) ∧
    (∀ e, parse source = .error e →
      e = .unbalancedMask (Text.trimmed source) ∨ e = .emptyMaskField source) ∧
    ∀ m, parse source = .ok m →
      Balanced source.toList ∧ (Paired source.toList ↔ ¬Mixed source.toList) ∧
      ∀ field ∈ m.fields, Balanced field.toList ∧
        (Paired field.toList ↔ ¬Mixed field.toList) ∧
        (Paired source.toList → Paired field.toList) := by
  refine ⟨paired_iff, fun h => parse_of_not_balanced (mt balanced_trim_iff.1 h),
    fun e => parse_error, fun m h => ?_⟩
  have hsource := balanced_of_parse h
  refine ⟨hsource, paired_iff.trans (and_iff_right hsource), fun field hfield => ?_⟩
  have hbalanced := ((wellFormed_parse h).fields field hfield).balanced
  refine ⟨hbalanced, paired_iff.trans (and_iff_right hbalanced), fun hpaired => ?_⟩
  exact paired_iff.2 ⟨hbalanced, fun hmixed =>
    hpaired.not_mixed (hmixed.of_isInfix (infix_of_parse h hfield))⟩

/-- A square bracket that a round one closes is accepted. -/
theorem mixed_accepted :
    parse "mask[datacenter[name)]" = .ok ⟨.plain, ["datacenter[name)"]⟩ ∧
      ¬Paired "mask[datacenter[name)]".toList ∧ ¬Paired "datacenter[name)".toList := by
  have hunpaired {cs : List Char} (h : openFrom [] cs = none) : ¬Paired cs := fun hpaired => by
    rw [hpaired.openFrom] at h
    cases h
  exact ⟨by decide +kernel, hunpaired (by decide), hunpaired (by decide)⟩

end CloudClient.Mask
