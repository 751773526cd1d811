import CloudClient.Call.Rest
import CloudClient.Proofs.Query.MaskText
import CloudClient.Proofs.XmlRpc.Call

/-!
# Wrapped — the text sent for a mask means what was written

A bare list of fields is put into `mask[…]` before it is sent, and a text that carries a keyword
or a bracket goes out as it is.  Which of the two is the case, writing tells by the first
characters and reading by the brackets behind them.  They agree all the same: a text that is
wrapped is read as a bare list, and brackets that pair up only by being wrapped are refused as
the body of the mask.

* `Mask.Agree`: two readings that give the same mask or refuse for the same reason.
* `Mask.agree_wireText`: the text that is sent and the text that was written.
* `Mask.sent_agrees` has it for what either wire format carries.
-/

namespace CloudClient.Mask

/-- Two readings of masks agree: they give the same mask, or refuse for the same reason,
whichever text each of them shows. -/
inductive Agree : Except QueryError Mask → Except QueryError Mask → Prop
  | mask (m : Mask) : Agree (.ok m) (.ok m)
  | unbalanced (s t : String) : Agree (.error (.unbalancedMask s)) (.error (.unbalancedMask t))
  | emptyField (s t : String) : Agree (.error (.emptyMaskField s)) (.error (.emptyMaskField t))

/-! ## Reading two texts -/

variable {s t : String} {cs : List Char}

/-- The pieces of a list are read alike, whatever text they are from. -/
theorem agree_pushPieces (s t : String) (m : Mask) (pieces : List (List Char)) :
    Agree (pushPieces s m pieces) (pushPieces t m pieces) := by
  induction pieces generalizing m with
  | nil => exact .mask m
  | cons piece rest ih =>
    rw [pushPieces, pushPieces]
    split
    · exact .emptyField s t
    · exact ih _

theorem parse_of_splitKind?_eq_none (h : splitKind? (Text.trim t.toList) = none) :
    parse t = .error (.unbalancedMask (.ofList (Text.trim t.toList))) := by
  unfold parse
  dsimp only
  rw [h]
  split <;> rfl

/-- Texts with the same list behind the same keyword are read alike. -/
theorem agree_of_splitKind? (hs : Balanced (Text.trim s.toList))
    (ht : Balanced (Text.trim t.toList))
    (h : splitKind? (Text.trim s.toList) = splitKind? (Text.trim t.toList)) :
    Agree (parse s) (parse t) := by
  unfold parse
  dsimp only
  rw [balanced_iff.2 hs, balanced_iff.2 ht, h]
  simp only [Bool.not_true, Bool.false_eq_true, if_false]
  split
  · exact .unbalanced _ _
  · split
    · exact .mask _
    · exact agree_pushPieces s t _ _

theorem agree_of_trim (h : Text.trim s.toList = Text.trim t.toList) :
    Agree (parse s) (parse t) := by
  by_cases ht : Balanced (Text.trim t.toList)
  · exact agree_of_splitKind? (h ▸ ht) ht (congrArg splitKind? h)
  · rw [parse_of_not_balanced ht, parse_of_not_balanced (h ▸ ht)]
    exact .unbalanced _ _

/-! ## Wrapping -/

/-- A text that goes out as it is. -/
def IsMarked (cs : List Char) : Prop :=
  "mask".toList <+: cs ∨ "[".toList <+: cs ∨ "filteredMask".toList <+: cs

theorem wireText_of_isMarked (h : IsMarked (Text.trim t.toList)) :
    wireText t = Text.trimmed t := by
  unfold wireText
  simp only [Text.startsWith, Text.trimmed, String.toList_ofList]
  refine if_pos ?_
  simpa [IsMarked, or_assoc] using h

theorem wireText_of_not_isMarked (h : ¬IsMarked (Text.trim t.toList)) :
    wireText t = "mask[" ++ Text.trimmed t ++ "]" := by
  unfold wireText
  simp only [Text.startsWith, Text.trimmed, String.toList_ofList]
  refine if_neg ?_
  simpa [IsMarked, or_assoc] using h

/-- A text that is wrapped is read as a bare list. -/
theorem splitKind?_of_not_isMarked (h : ¬IsMarked cs) : splitKind? cs = some (.plain, cs) := by
  rw [IsMarked, not_or, not_or] at h
  obtain ⟨hmask, hopen, hfiltered⟩ := h
  have hnone {head : List Char} (hhead : ¬head <+: cs) : Text.dropHead? head cs = none := by
    refine Option.eq_none_iff_forall_ne_some.2 fun rest hrest => hhead ⟨rest, ?_⟩
    exact (Text.dropHead?_eq_some_iff.1 hrest).symm
  -- a mask with a type begins with `mask` too
  have htyped : ¬"mask(".toList <+: cs := fun h => hmask (List.IsPrefix.trans ⟨['('], rfl⟩ h)
  have hbare : ¬['['].isPrefixOf cs = true := fun h => hopen (List.isPrefixOf_iff_prefix.1 h)
  rw [splitKind?, hnone hfiltered, hnone htyped, hnone hmask]
  exact if_neg hbare

theorem toList_wrapped (t : String) : ("mask[" ++ Text.trimmed t ++ "]").toList =
    "mask".toList ++ '[' :: (Text.trim t.toList ++ [']']) := by
  simp [Text.trimmed, String.toList_append]

theorem trim_wrapped (cs : List Char) : Text.trim ("mask".toList ++ '[' :: (cs ++ [']'])) =
    "mask".toList ++ '[' :: (cs ++ [']']) := by
  have hclosed := @Text.trim_closed ("ask".toList ++ '[' :: cs) 'm' ']' rfl rfl
  simpa using hclosed

theorem agree_wireText (t : String) : Agree (parse (wireText t)) (parse t) := by
  by_cases hmarked : IsMarked (Text.trim t.toList)
  · refine agree_of_trim ?_
    rw [wireText_of_isMarked hmarked, Text.trimmed, String.toList_ofList, Text.trim_trim]
  · have hwrapped : Text.trim (wireText t).toList =
        "mask".toList ++ '[' :: (Text.trim t.toList ++ [']']) := by
      rw [wireText_of_not_isMarked hmarked, toList_wrapped, trim_wrapped]
    have hclosed : Text.trim ('[' :: (Text.trim t.toList ++ [']'])) =
        '[' :: (Text.trim t.toList ++ [']']) :=
      @Text.trim_closed (Text.trim t.toList) '[' ']' rfl rfl
    by_cases hbalanced : Balanced (Text.trim t.toList)
    · refine agree_of_splitKind? ?_ hbalanced ?_
      · rw [hwrapped, ← depthFrom_zero_iff, depthFrom_append]
        exact depthFrom_brackets hbalanced 0
      · rw [hwrapped, splitKind?_of_not_isMarked hmarked, splitKind?_wrapped,
          bracketBody?_eq_some_iff.2 ⟨hclosed, hbalanced⟩]
        rfl
    · -- the brackets may pair up once the text is wrapped, but not those of the body
      have hbody : bracketBody? ('[' :: (Text.trim t.toList ++ [']'])) = none := by
        refine Option.eq_none_iff_forall_ne_some.2 fun body hsome => hbalanced ?_
        obtain ⟨htrim, hbody⟩ := bracketBody?_eq_some_iff.1 hsome
        rw [hclosed] at htrim
        exact List.append_cancel_right (List.cons.inj htrim).2 ▸ hbody
      have hnone : splitKind? (Text.trim (wireText t).toList) = none := by
        rw [hwrapped, splitKind?_wrapped, hbody]
        rfl
      rw [parse_of_splitKind?_eq_none hnone, parse_of_not_balanced hbalanced]
      exact .unbalanced _ _

theorem wireText_wireText (t : String) : wireText (wireText t) = wireText t := by
  by_cases hmarked : IsMarked (Text.trim t.toList)
  · have htrim : Text.trim (Text.trimmed t).toList = Text.trim t.toList := by
      rw [Text.trimmed, String.toList_ofList, Text.trim_trim]
    have hagain : IsMarked (Text.trim (Text.trimmed t).toList) := by
      rw [htrim]
      exact hmarked
    rw [wireText_of_isMarked hmarked, wireText_of_isMarked hagain, Text.trimmed, htrim,
      Text.trimmed]
  · have htrim : Text.trim (wireText t).toList = (wireText t).toList := by
      rw [wireText_of_not_isMarked hmarked, toList_wrapped, trim_wrapped]
    have hagain : IsMarked (Text.trim (wireText t).toList) := by
      rw [htrim, wireText_of_not_isMarked hmarked, toList_wrapped]
      exact .inl (List.prefix_append _ _)
    rw [wireText_of_isMarked hagain, Text.trimmed, htrim, String.ofList_toList]

/-! ## Both wire formats -/

/-- The parameter of a REST address that carries the mask. -/
theorem filter_objectMask (r : Request) :
    (Rest.parameters r).filter (·.1 == "objectMask") =
      (r.mask?.map fun m => ("objectMask", wireText m)).toList := by
  unfold Rest.parameters
  cases r.mask? <;> cases r.filter? <;> cases Rest.window? r <;> rfl

/-- What is sent for a mask is read as what was written: the same mask comes out of both, or
both are refused for the same reason.  What is sent can be sent again.  Both wire formats send
this text for a mask that is not blank, and a blank one, which asks for nothing, leaves them as
they are without a mask. -/
theorem sent_agrees :
    (∀ t : String, Agree (parse (wireText t)) (parse t) ∧ wireText (wireText t) = wireText t) ∧
    ∀ (r : Request) (written : String), r.mask = some written →
      let name := r.service ++ "ObjectMask"
      let inContainer := Fields.find? name (XmlRpc.container r)
      let inAddress := (Rest.parameters r).filter (·.1 == "objectMask")
      (Text.isBlankText written = false →
        ∃ sent, inContainer = some (.obj [("mask", .str sent)]) ∧
          inAddress = [("objectMask", sent)] ∧ Agree (parse sent) (parse written)) ∧
      (Text.isBlankText written = true →
        parse written = .ok empty ∧ inContainer = Fields.find? name r.headers ∧
          inAddress = []) := by
  refine ⟨fun t => ⟨agree_wireText t, wireText_wireText t⟩, fun r written hr => ?_⟩
  dsimp only
  rw [XmlRpc.find?_mask_or, filter_objectMask, Request.mask?, hr]
  constructor
  · intro hblank
    refine ⟨wireText written, ?_, ?_, agree_wireText written⟩
    · simp [Option.filter, hblank]
    · simp [Option.filter, hblank]
  · intro hblank
    have hnil : Text.trim written.toList = [] :=
      Text.trim_eq_nil_iff.2 fun c hc => List.all_eq_true.1 hblank c hc
    refine ⟨?_, ?_, ?_⟩
    · unfold parse
      rw [hnil]
      rfl
    · simp [Option.filter, hblank]
    · simp [Option.filter, hblank]

end CloudClient.Mask
