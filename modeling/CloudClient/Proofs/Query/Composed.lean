import CloudClient.Proofs.Query.MaskText

/-!
# Composed — several masks as one

Masks that are merged from the left give all their fields, each once, under one keyword.  Masks
without fields leave no trace, but for the keyword of the last one where no mask has any.  So
what a list of masks gives can be said without going through it: `Mask.joint`.

* `Mask.merge_joint`: merging one more mask.
* `Mask.composeFrom_joint`: a whole run of merges.
* `Mask.compose_laws` has when masks can be composed, what comes out, and that it does not matter
  how the sources are grouped or whether one is repeated.
-/

namespace CloudClient

/-! ## Each element once -/

section Once

variable {α : Type} [BEq α] [LawfulBEq α] {seen more : List α}

theorem eraseDups_append_of_subset (h : ∀ a ∈ more, a ∈ seen) :
    (seen ++ more).eraseDups = seen.eraseDups := by
  have hnone : more.removeAll seen = [] := by
    rw [List.removeAll, List.filter_eq_nil_iff]
    intro a ha
    simpa using h a ha
  rw [List.eraseDups_append, hnone, List.eraseDups_nil, List.append_nil]

theorem eraseDups_concat_of_not_mem {a : α} (h : a ∉ seen) :
    (seen ++ [a]).eraseDups = seen.eraseDups ++ [a] := by
  have hone : [a].removeAll seen = [a] := by simp [List.removeAll, h]
  rw [List.eraseDups_append, hone]
  rfl

theorem eraseDups_of_nodup (h : seen.Nodup) : seen.eraseDups = seen := by
  induction seen with
  | nil => rfl
  | cons a r ih =>
    obtain ⟨ha, hr⟩ := List.nodup_cons.1 h
    have hkept : r.filter (fun b => !b == a) = r := by
      rw [List.filter_eq_self]
      intro b hb
      have hne : b ≠ a := fun hba => ha (hba ▸ hb)
      simpa using hne
    rw [List.eraseDups_cons, hkept, ih hr]

end Once

namespace Mask

variable {m other x : Mask} {masks seen : List Mask}

/-! ## Merging -/

theorem push_of_mem {field : String} (h : IsField field) (hmem : field ∈ m.fields) :
    m.push field = m := by
  unfold push
  rw [h.trimmed]
  simp [hmem]

/-- Fields that are added come behind those that are there, each once. -/
theorem foldl_push (kind : MaskKind) (before : List String) {fields : List String}
    (h : ∀ field ∈ fields, IsField field) :
    fields.foldl push ⟨kind, before.eraseDups⟩ = ⟨kind, (before ++ fields).eraseDups⟩ := by
  induction fields generalizing before with
  | nil => rw [List.foldl_nil, List.append_nil]
  | cons field rest ih =>
    obtain ⟨hfield, hrest⟩ := List.forall_mem_cons.1 h
    have hpush : (Mask.mk kind before.eraseDups).push field =
        ⟨kind, (before ++ [field]).eraseDups⟩ := by
      by_cases hmem : field ∈ before
      · have hmem' : field ∈ before.eraseDups := List.mem_eraseDups.2 hmem
        rw [push_of_mem hfield hmem', eraseDups_append_of_subset (List.forall_mem_singleton.2 hmem)]
      · have hmem' : field ∉ before.eraseDups := fun h => hmem (List.mem_eraseDups.1 h)
        rw [push_of_not_mem hfield hmem', eraseDups_concat_of_not_mem hmem]
    rw [List.foldl_cons, hpush, ih (before ++ [field]) hrest, ← List.append_cons]

/-- A mask without fields takes the other keyword; otherwise the keywords have to agree, unless
the other mask has no fields. -/
theorem merge_eq (m other : Mask) :
    m.merge other =
      if m.fields = [] then .ok (other.fields.foldl push ⟨other.kind, []⟩)
      else if other.fields ≠ [] ∧ m.kind ≠ other.kind then
        .error (.incompatibleMasks m.kind.text other.kind.text)
      else .ok (other.fields.foldl push m) := by
  obtain ⟨kind, fields⟩ := m
  unfold merge
  by_cases hkind : kind = other.kind
  · subst hkind
    cases fields <;> simp
  · cases fields with
    | nil => simp [hkind]
    | cons field rest => cases hother : other.fields <;> simp [hkind]

/-! ## What masks give together -/

/-- Masks that have fields are all of one kind. -/
def Compatible (masks : List Mask) : Prop :=
  ∀ a ∈ masks, ∀ b ∈ masks, a.fields ≠ [] → b.fields ≠ [] → a.kind = b.kind

/-- The kind of the first mask that has fields, or of the last mask if none has any. -/
def jointKind (masks : List Mask) : MaskKind :=
  match masks.find? fun m => !m.isEmpty with
  | some m => m.kind
  | none => (masks.getLast?.map Mask.kind).getD .plain

/-- The fields of all masks, each once, under their common keyword. -/
def joint (masks : List Mask) : Mask :=
  ⟨jointKind masks, (masks.flatMap Mask.fields).eraseDups⟩

theorem jointKind_of_mem (h : Compatible masks) (hx : x ∈ masks) (hfields : x.fields ≠ []) :
    jointKind masks = x.kind := by
  unfold jointKind
  split
  · rename_i first hfirst
    have hnonempty := List.find?_some hfirst
    apply h first (List.mem_of_find?_eq_some hfirst) x hx _ hfields
    simpa [isEmpty] using hnonempty
  · rename_i hnone
    have hempty := List.find?_eq_none.1 hnone x hx
    exact absurd (by simpa [isEmpty] using hempty) hfields

theorem jointKind_of_none (h : ∀ x ∈ masks, x.fields = []) :
    jointKind masks = (masks.getLast?.map Mask.kind).getD .plain := by
  have hnone : masks.find? (fun m => !m.isEmpty) = none := by
    rw [List.find?_eq_none]
    intro x hx
    simp [isEmpty, h x hx]
  rw [jointKind, hnone]

theorem joint_fields_eq_nil_iff :
    (joint masks).fields = [] ↔ ∀ x ∈ masks, x.fields = [] := by
  rw [← List.flatMap_eq_nil_iff]
  constructor
  · intro h
    apply List.eq_nil_iff_forall_not_mem.2
    intro field hfield
    have hmem : field ∈ (joint masks).fields := List.mem_eraseDups.2 hfield
    rw [h] at hmem
    cases hmem
  · intro h
    change (masks.flatMap Mask.fields).eraseDups = []
    rw [h]
    rfl

theorem exists_fields_of_joint (h : (joint masks).fields ≠ []) :
    ∃ x ∈ masks, x.fields ≠ [] := by
  by_contra hnone
  apply h
  rw [joint_fields_eq_nil_iff]
  intro x hx
  by_contra hfields
  exact hnone ⟨x, hx, hfields⟩

theorem Compatible.mono {fewer : List Mask} (h : Compatible masks) (hsub : fewer ⊆ masks) :
    Compatible fewer :=
  fun a ha b hb => h a (hsub ha) b (hsub hb)

theorem compatible_concat_iff :
    Compatible (masks ++ [other]) ↔
      Compatible masks ∧
        ∀ x ∈ masks, x.fields ≠ [] → other.fields ≠ [] → x.kind = other.kind := by
  constructor
  · intro h
    have hlast : other ∈ masks ++ [other] :=
      List.mem_append_right masks (List.mem_singleton_self other)
    exact ⟨h.mono (List.subset_append_left masks [other]),
      fun x hx => h x (List.mem_append_left [other] hx) other hlast⟩
  · rintro ⟨h, hnew⟩ a ha b hb hafields hbfields
    rw [List.mem_append, List.mem_singleton] at ha hb
    obtain ha | rfl := ha
    · obtain hb | rfl := hb
      · exact h a ha b hb hafields hbfields
      · exact hnew a ha hafields hbfields
    · obtain hb | rfl := hb
      · exact (hnew b hb hbfields hafields).symm
      · rfl

theorem jointKind_concat (h : Compatible (masks ++ [other])) :
    jointKind (masks ++ [other]) =
      if (joint masks).fields = [] then other.kind else jointKind masks := by
  split
  · rename_i hnone
    rw [joint_fields_eq_nil_iff] at hnone
    by_cases hother : other.fields = []
    · -- none has fields, and the other mask is now the last one
      rw [jointKind_of_none]
      · simp
      · exact List.forall_mem_append.2 ⟨hnone, List.forall_mem_singleton.2 hother⟩
    · exact jointKind_of_mem h (List.mem_append_right masks (List.mem_singleton_self other)) hother
  · rename_i hsome
    obtain ⟨x, hx, hfields⟩ := exists_fields_of_joint hsome
    rw [jointKind_of_mem h (List.mem_append_left [other] hx) hfields,
      jointKind_of_mem (compatible_concat_iff.1 h).1 hx hfields]

/-- Merging one more mask gives what all of them give, if they agree. -/
theorem merge_joint (hother : ∀ field ∈ other.fields, IsField field)
    (h : Compatible (masks ++ [other])) :
    (joint masks).merge other = .ok (joint (masks ++ [other])) := by
  have hnext : joint (masks ++ [other]) =
      ⟨if (joint masks).fields = [] then other.kind else jointKind masks,
        (masks.flatMap Mask.fields ++ other.fields).eraseDups⟩ := by
    rw [← jointKind_concat h, joint, List.flatMap_append, List.flatMap_singleton]
  rw [merge_eq, hnext]
  split
  · -- no field so far: the other keyword is taken over
    rename_i hnone
    have hnil : masks.flatMap Mask.fields = [] :=
      List.flatMap_eq_nil_iff.2 (joint_fields_eq_nil_iff.1 hnone)
    rw [hnil]
    exact congrArg Except.ok (foldl_push other.kind [] hother)
  · -- some mask has fields, and its kind is that of the other one
    rename_i hsome
    rw [if_neg]
    · exact congrArg Except.ok (foldl_push _ _ hother)
    · rintro ⟨hfields, hkind⟩
      obtain ⟨hmasks, hnew⟩ := compatible_concat_iff.1 h
      obtain ⟨x, hx, hxfields⟩ := exists_fields_of_joint hsome
      apply hkind
      exact (jointKind_of_mem hmasks hx hxfields).trans (hnew x hx hxfields hfields)

theorem compatible_of_merge (h : Compatible masks) (hmerge : (joint masks).merge other = .ok m) :
    Compatible (masks ++ [other]) := by
  apply compatible_concat_iff.2 ⟨h, _⟩
  intro x hx hxfields hfields
  by_contra hne
  have hsome : (joint masks).fields ≠ [] := fun hnone =>
    hxfields (joint_fields_eq_nil_iff.1 hnone x hx)
  have hkind : (joint masks).kind ≠ other.kind := by
    rw [joint, jointKind_of_mem h hx hxfields]
    exact hne
  rw [merge_eq, if_neg hsome, if_pos ⟨hfields, hkind⟩] at hmerge
  cases hmerge

theorem joint_concat_of_mem (h : Compatible masks) (hx : x ∈ masks) (hfields : x.fields ≠ []) :
    Compatible (masks ++ [x]) ∧ joint (masks ++ [x]) = joint masks := by
  have hagree : Compatible (masks ++ [x]) := by
    apply h.mono
    rw [List.append_subset]
    exact ⟨List.Subset.refl masks, List.cons_subset.2 ⟨hx, List.nil_subset masks⟩⟩
  have hsub : ∀ field ∈ x.fields, field ∈ masks.flatMap Mask.fields :=
    fun field hfield => List.mem_flatMap.2 ⟨x, hx, hfield⟩
  have hkind : jointKind (masks ++ [x]) = jointKind masks := by
    rw [jointKind_of_mem h hx hfields]
    exact jointKind_of_mem hagree (List.mem_append_left [x] hx) hfields
  refine ⟨hagree, ?_⟩
  rw [joint, hkind, List.flatMap_append, List.flatMap_singleton,
    eraseDups_append_of_subset hsub, joint]

/-! ## Composing -/

theorem composeFrom_append (m : Mask) (front back : List String) :
    composeFrom m (front ++ back) = (composeFrom m front).bind (composeFrom · back) := by
  induction front generalizing m with
  | nil => rfl
  | cons source rest ih =>
    rw [List.cons_append, composeFrom, composeFrom]
    cases parse source with
    | error e => rfl
    | ok other =>
      cases hmerge : m.merge other with
      | error e => simp only [hmerge, Except.bind]
      | ok next => simp only [hmerge, ih]

/-- Sources can be merged into masks that agree exactly if all of them can be read and agree
with each other and with these; what comes out is what all of them give. -/
theorem composeFrom_joint {sources : List String} (hseen : Compatible seen) :
    composeFrom (joint seen) sources = .ok m ↔
      ∃ masks, sources.map parse = masks.map .ok ∧ Compatible (seen ++ masks) ∧
        joint (seen ++ masks) = m := by
  induction sources generalizing seen with
  | nil =>
    constructor
    · intro h
      cases h
      refine ⟨[], rfl, ?_, ?_⟩ <;> rw [List.append_nil]
      exact hseen
    · rintro ⟨masks, hmasks, -, rfl⟩
      rw [List.map_nil, eq_comm, List.map_eq_nil_iff] at hmasks
      rw [hmasks, List.append_nil, composeFrom]
  | cons source rest ih =>
    -- what is seen grows by one mask, and `Compatible` and `joint` are about all of them
    constructor
    · intro h
      rw [composeFrom] at h
      split at h
      · cases h
      · rename_i other hother
        split at h
        · cases h
        · rename_i next hnext
          have hagree := compatible_of_merge hseen hnext
          rw [merge_joint (wellFormed_parse hother).fields hagree] at hnext
          cases hnext
          obtain ⟨masks, hmasks, hall, hm⟩ := (ih hagree).1 h
          rw [← List.append_cons] at hall hm
          exact ⟨other :: masks, by rw [List.map_cons, List.map_cons, hother, hmasks], hall, hm⟩
    · rintro ⟨masks, hmasks, hall, hm⟩
      cases masks with
      | nil => cases hmasks
      | cons other masks =>
        rw [List.map_cons, List.map_cons, List.cons.injEq] at hmasks
        obtain ⟨hother, hrest⟩ := hmasks
        rw [List.append_cons] at hall hm
        have hagree := hall.mono (List.subset_append_left (seen ++ [other]) masks)
        have hmerge := merge_joint (wellFormed_parse hother).fields hagree
        simp only [composeFrom, hother, hmerge]
        exact (ih hagree).2 ⟨masks, hrest, hall, hm⟩

theorem compose_eq_ok_iff {sources : List String} :
    compose sources = .ok m ↔
      ∃ masks, sources.map parse = masks.map .ok ∧ Compatible masks ∧ joint masks = m :=
  @composeFrom_joint m [] sources nofun

theorem WellFormed.empty_merge (h : m.WellFormed) : empty.merge m = .ok m := by
  have hfold := Mask.foldl_push m.kind [] h.fields
  rw [List.nil_append, eraseDups_of_nodup h.nodup] at hfold
  have hempty : empty.fields = [] := rfl
  rw [merge_eq, if_pos hempty]
  exact congrArg Except.ok hfold

/-- A composed mask stands for the sources it is composed from. -/
theorem compose_text_cons {front back : List String} (h : compose front = .ok m) :
    compose (m.text :: back) = compose (front ++ back) := by
  have hm := (Joined.composed h).wellFormed
  unfold compose at h ⊢
  rw [composeFrom_append, h]
  simp only [composeFrom, parse_text hm, hm.empty_merge, Except.bind]

/-- A source that is there already and has fields changes nothing. -/
theorem compose_concat_of_mem {sources : List String} {source : String} (hmem : source ∈ sources)
    (hx : parse source = .ok x) (hfields : x.fields ≠ []) :
    compose (sources ++ [source]) = compose sources := by
  cases h : compose sources with
  | error e =>
    rw [compose, composeFrom_append, ← compose, h]
    rfl
  | ok m =>
    obtain ⟨masks, hmasks, hagree, hm⟩ := compose_eq_ok_iff.1 h
    have hxmem : x ∈ masks := by
      have hread : parse source ∈ sources.map parse := List.mem_map_of_mem hmem
      rw [hmasks, hx, List.mem_map] at hread
      obtain ⟨y, hy, hxy⟩ := hread
      cases hxy
      exact hy
    obtain ⟨hconcat, hjoint⟩ := joint_concat_of_mem hagree hxmem hfields
    refine compose_eq_ok_iff.2 ⟨masks ++ [x], ?_, hconcat, hjoint.trans hm⟩
    rw [List.map_append, List.map_append, hmasks, List.map_singleton, hx, List.map_singleton]

/-! ## Changes in place -/

theorem forM_push (fields : List String) (m : Mask) :
    (forM fields fun field => (modify (push · field) : EStateM QueryError Mask Unit)) m =
      .ok () (fields.foldl push m) := by
  induction fields generalizing m with
  | nil => rfl
  | cons field rest ih =>
    rw [List.foldl_cons]
    exact ih (m.push field)

/-- To change a mask in place is to merge, or to leave the mask as it is. -/
theorem absorb_eq (m other : Mask) :
    (absorb other).run m =
      match m.merge other with
      | .ok joined => .ok () joined
      | .error e => .error e m := by
  unfold absorb merge
  simp only [List.forM_eq_forM, EStateM.run_bind, EStateM.run_get]
  split
  · exact forM_push other.fields ⟨other.kind, m.fields⟩
  · split
    · rfl
    · exact forM_push other.fields m

/-- Masks composed from texts.  It works exactly if every text can be read and all masks with
fields are of one kind.  Then the fields of all masks come out, each where it is first, under
that kind; if no mask has fields, under the kind of the last one, which is the plain one if
there is none.  A composed mask stands for the sources it comes from, and a source with fields
that is repeated changes nothing.  A mask that cannot be merged in place leaves the other as
it is. -/
theorem compose_laws :
    (∀ sources, (∃ m, compose sources = .ok m) ↔
      ∃ masks : List Mask, sources.map parse = masks.map .ok ∧
        ∀ a ∈ masks, ∀ b ∈ masks, a.fields ≠ [] → b.fields ≠ [] → a.kind = b.kind) ∧
    (∀ (sources : List String) (masks : List Mask) (m : Mask),
      sources.map parse = masks.map .ok → compose sources = .ok m →
      m.fields = (masks.flatMap Mask.fields).eraseDups ∧
      (∀ x ∈ masks, x.fields ≠ [] → m.kind = x.kind) ∧
      ((∀ x ∈ masks, x.fields = []) →
        m.kind = (masks.getLast?.map Mask.kind).getD .plain)) ∧
    (∀ front back m, compose front = .ok m →
      compose (m.text :: back) = compose (front ++ back)) ∧
    (∀ sources source x, source ∈ sources → parse source = .ok x → x.fields ≠ [] →
      compose (sources ++ [source]) = compose sources) ∧
    (∀ (m other : Mask) e left, (absorb other).run m = .error e left →
      left = m ∧ m.merge other = .error e) := by
  refine ⟨fun sources => ?_, fun sources masks m hmasks hm => ?_,
    fun front back m hm => compose_text_cons hm,
    fun sources source x hmem hx hfields => compose_concat_of_mem hmem hx hfields,
    fun m other e left h => ?_⟩
  · constructor
    · rintro ⟨m, hm⟩
      obtain ⟨masks, hmasks, hagree, -⟩ := compose_eq_ok_iff.1 hm
      exact ⟨masks, hmasks, hagree⟩
    · rintro ⟨masks, hmasks, hagree⟩
      exact ⟨joint masks, compose_eq_ok_iff.2 ⟨masks, hmasks, hagree, rfl⟩⟩
  · obtain ⟨masks', hmasks', hagree, rfl⟩ := compose_eq_ok_iff.1 hm
    -- what is read from the sources is determined by them
    obtain rfl : masks' = masks :=
      (List.map_inj_right fun _ _ => Except.ok.inj).1 (hmasks'.symm.trans hmasks)
    exact ⟨rfl, fun x hx => jointKind_of_mem hagree hx, jointKind_of_none⟩
  · rw [absorb_eq] at h
    cases hmerge : m.merge other with
    | ok joined =>
      rw [hmerge] at h
      cases h
    | error e' =>
      rw [hmerge] at h
      cases h
      exact ⟨rfl, rfl⟩

end Mask

end CloudClient
