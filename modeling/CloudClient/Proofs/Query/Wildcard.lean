import CloudClient.Proofs.Text.Numeral
import CloudClient.Proofs.Text.Split
import CloudClient.Proofs.Text.Trim
import CloudClient.Query.Shorthand

/-!
# Reading an operation once more

The operation of a leaf is a text or a number, and can be typed again as it stands.  An operator
is read as itself, with its operand trimmed; so a leaf comes back unchanged unless its operand
has blanks around it, and only a pattern leaves such an operand.

* `operation_apply`: an operator in front of an operand.
* `wildcard_eq`: a pattern asks for what stands between its asterisks, whichever it has.
* `reread_iff`: which texts give a leaf that comes back unchanged.
-/

namespace CloudClient.Shorthand

/-! ## Operators -/

/-- An operator is found where a blank, or nothing, follows it. -/
theorem splitOperator?_append {op : String} (h : op ∈ operators) {rest : List Char}
    (hrest : ∀ c ∈ rest.head?, c = ' ') :
    splitOperator? (op.toList ++ rest) operators = some (op, rest) := by
  simp only [operators, List.mem_cons, List.not_mem_nil, or_false] at h
  rcases rest with _ | ⟨c, r⟩
  · rcases h with rfl | rfl | rfl | rfl | rfl | rfl | rfl | rfl | rfl | rfl <;> rfl
  · obtain rfl : c = ' ' := hrest c rfl
    rcases h with rfl | rfl | rfl | rfl | rfl | rfl | rfl | rfl | rfl | rfl <;> rfl

theorem ne_nil_of_mem_operators {op : String} (h : op ∈ operators) : op.toList ≠ [] := by
  revert op
  decide

theorem isBlank_of_mem_operators {op : String} (h : op ∈ operators) :
    ∀ c ∈ op.toList, Text.isBlank c = false := by
  have hall : ∀ op ∈ operators, op.toList.any Text.isBlank = false := by decide
  exact fun c hc => Bool.eq_false_iff.2 (List.any_eq_false.1 (hall op h) c hc)

/-- A text that begins with an operator is no integer. -/
theorem i64?_append {op : String} (h : op ∈ operators) (rest : List Char) :
    Text.i64? (.ofList (op.toList ++ rest)) = none := by
  have hall : ∀ op ∈ operators, op.toList.any
      (fun c => !(Text.digit? c).isSome && c != '-' && c != '+') = true := by decide
  obtain ⟨c, hc, hother⟩ := List.any_eq_true.1 (hall op h)
  simp only [Bool.and_eq_true, Bool.not_eq_true', bne_iff_ne] at hother
  obtain ⟨⟨hdigit, hminus⟩, hplus⟩ := hother
  rw [Text.i64?, String.toList_ofList, Option.filter_eq_none_iff]
  intro i hi
  rcases Text.mem_of_integer? hi c (List.mem_append_left rest hc) with hd | rfl | rfl
  · rw [hdigit] at hd
    cases hd
  · exact absurd rfl hminus
  · exact absurd rfl hplus

/-- An operator in front of an operand is read as itself, and its operand trimmed. -/
theorem operation_apply {op : String} (h : op ∈ operators) (operand : List Char) :
    operation (op ++ " " ++ .ofList operand) = apply op (Text.trim operand) := by
  have hlist : (op ++ " " ++ String.ofList operand).toList = op.toList ++ ' ' :: operand := by
    simp [String.toList_append]
  have htrim : Text.trim (op.toList ++ ' ' :: operand) =
      op.toList ++ Text.trimEnd (' ' :: operand) :=
    Text.trim_append (ne_nil_of_mem_operators h) (isBlank_of_mem_operators h)
  -- a blank, or nothing, is left between the operator and its operand
  have hblank : ∀ c ∈ (Text.trimEnd (' ' :: operand)).head?, c = ' ' := by
    obtain ⟨back, hback⟩ := Text.trimEnd_prefix (' ' :: operand)
    intro c hc
    obtain ⟨r, hr⟩ := List.head?_eq_some_iff.1 hc
    rw [hr] at hback
    exact (List.cons.inj hback).1
  rw [operation, hlist, htrim, i64?_append h, splitOperator?_append h hblank]
  dsimp only
  rw [Text.trim_trimEnd, Text.trim, Text.trimStart_cons_of_isBlank rfl, Text.trim]

/-! ## Patterns -/

/-- A pattern asks for what stands between its asterisks: they are taken off at both ends, and
where there are none this takes nothing off. -/
theorem wildcard_eq (cs : List Char) :
    ∃ op ∈ operators, wildcard cs = apply op (Text.stripChar '*' cs) := by
  have hstart (h : cs.head? ≠ some '*') : cs.dropWhile (· == '*') = cs := by
    refine Text.dropWhile_eq_self_iff_head?.2 fun c hc => beq_false_of_ne ?_
    rintro rfl
    exact h hc
  have hend (h : cs.getLast? ≠ some '*') :
      (cs.dropWhile (· == '*')).reverse.dropWhile (· == '*') =
        (cs.dropWhile (· == '*')).reverse := by
    refine Text.dropWhile_eq_self_iff_head?.2 fun c hc => beq_false_of_ne ?_
    rintro rfl
    rw [List.head?_reverse] at hc
    -- what is left has the last character of the text
    refine h ?_
    rw [← List.takeWhile_append_dropWhile (p := (· == '*')) (l := cs),
      List.getLast?_append, hc, Option.some_or]
  unfold wildcard
  dsimp only
  split
  · exact ⟨"~", by decide, rfl⟩
  · rename_i hboth
    split
    · rename_i hfirst
      refine ⟨"$=", by decide, congrArg (apply "$=") ?_⟩
      by_cases hlast : cs.getLast? = some '*'
      · -- the only asterisk is the whole text
        obtain rfl : cs = ['*'] := by
          rcases cs with _ | ⟨c, _ | ⟨d, r⟩⟩
          · cases hlast
          · exact congrArg (fun c => [c]) (Option.some.inj hlast)
          · refine absurd ?_ hboth
            rw [hfirst, hlast]
            simp
        rfl
      · rw [Text.stripChar, hend hlast, List.reverse_reverse]
    · rename_i hfirst
      split
      · exact ⟨"^=", by decide, by rw [Text.stripChar, hstart (by simpa using hfirst)]⟩
      · rename_i hlast
        refine ⟨"_=", by decide, ?_⟩
        rw [Text.stripChar, hend (by simpa using hlast), hstart (by simpa using hfirst),
          List.reverse_reverse]

/-! ## Reading once more -/

/-- What the operation of a leaf asks for when it is typed again. -/
def reread : Operation → Operation
  | .text s => operation s
  | op => op

/-- Whether a text is a pattern: it is no integer, and begins with no operator. -/
def IsPattern (query : String) : Prop :=
  Text.i64? (Text.trimmed query) = none ∧
    splitOperator? (Text.trim query.toList) operators = none

/-- What stands between the asterisks of a pattern. -/
def core (query : String) : List Char := Text.stripChar '*' (Text.trim query.toList)

/-- Whether a text is a pattern with a blank next to an asterisk. -/
def IsPadded (query : String) : Prop :=
  IsPattern query ∧ ((∃ c ∈ (core query).head?, Text.isBlank c = true) ∨
    ∃ c ∈ (core query).getLast?, Text.isBlank c = true)

theorem apply_inj {op : String} {a b : List Char} : apply op a = apply op b ↔ a = b := by
  simp [apply, String.append_right_inj, String.ofList_inj]

theorem reread_apply {op : String} (h : op ∈ operators) (operand : List Char) :
    reread (apply op operand) = apply op (Text.trim operand) :=
  operation_apply h operand

theorem mem_of_splitOperator? {cs operand : List Char} {op : String} {ops : List String}
    (h : splitOperator? cs ops = some (op, operand)) : op ∈ ops := by
  induction ops with
  | nil => cases h
  | cons first rest ih =>
    rw [splitOperator?] at h
    split at h
    · obtain ⟨rfl, -⟩ := Prod.mk.inj (Option.some.inj h)
      exact List.mem_cons_self
    · exact List.mem_cons_of_mem _ (ih h)

/-- A text asks for an integer, for an operand without blanks around it, or, as a pattern, for
what stands between its asterisks. -/
theorem operation_cases (query : String) :
    (¬ IsPattern query ∧ ∃ i, operation query = .integer i) ∨
      (¬ IsPattern query ∧
        ∃ op ∈ operators, ∃ operand, operation query = apply op (Text.trim operand)) ∨
      IsPattern query ∧ ∃ op ∈ operators, operation query = apply op (core query) := by
  unfold operation IsPattern
  dsimp only
  rw [Text.trimmed]
  split
  · rename_i i hi
    exact .inl ⟨fun hpattern => by simp [hi] at hpattern, i, rfl⟩
  · rename_i hi
    split
    · rename_i op operand hop
      exact .inr (.inl ⟨fun hpattern => by simp [hop] at hpattern, op, mem_of_splitOperator? hop,
        operand, rfl⟩)
    · rename_i hop
      exact .inr (.inr ⟨⟨hi, hop⟩, wildcard_eq _⟩)

theorem trim_core_iff {query : String} (h : IsPattern query) :
    Text.trim (core query) = core query ↔ ¬ IsPadded query := by
  rw [Text.trim_eq_self_iff, IsPadded, not_and, not_or]
  simp [h]

/-- The leaf of a text comes back unchanged when its operation is typed again, exactly unless
the text is a pattern with a blank next to an asterisk; and what then comes back is final. -/
theorem reread_iff (query : String) :
    (leaf (reread (operation query)) = text query ↔ ¬ IsPadded query) ∧
      leaf (reread (reread (operation query))) = leaf (reread (operation query)) := by
  have hinj {a b : Operation} : leaf a = leaf b ↔ a = b := by simp [leaf]
  rw [text, hinj, hinj]
  rcases operation_cases query with
    ⟨hpattern, i, hop⟩ | ⟨hpattern, op, hmem, operand, hop⟩ | ⟨hpattern, op, hmem, hop⟩
  · -- an integer is typed as it is
    rw [hop]
    exact ⟨iff_of_true rfl fun hpadded => hpattern hpadded.1, rfl⟩
  · rw [hop, reread_apply hmem, reread_apply hmem, Text.trim_trim, Text.trim_trim]
    exact ⟨iff_of_true rfl fun hpadded => hpattern hpadded.1, rfl⟩
  · rw [hop, reread_apply hmem, reread_apply hmem, Text.trim_trim, apply_inj]
    exact ⟨trim_core_iff hpattern, rfl⟩

/-- The blank behind the first asterisk is kept by the first reading and dropped by the second. -/
theorem reread_padded :
    text "* web*" = leaf (.text "~  web") ∧
      leaf (reread (operation "* web*")) = leaf (.text "~ web") ∧
      leaf (reread (operation "* web*")) ≠ text "* web*" := by
  have hfirst : operation "* web*" = .text "~  web" := by decide
  have hsecond : reread (operation "* web*") = .text "~ web" := by decide
  rw [text, hsecond, hfirst]
  exact ⟨rfl, rfl, by simp [leaf]⟩

end CloudClient.Shorthand
