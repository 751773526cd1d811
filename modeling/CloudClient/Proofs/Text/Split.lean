import CloudClient.Proofs.Text.Trim
import CloudClient.Text.Search

/-!
# Where a text is taken apart

Heads, tails and first separators: what is found gives the whole text back.  The lines of a text
are those of its parts, where the first part ends with a line end.
-/

namespace CloudClient.Text

theorem dropHead?_eq_some_iff {head cs r : List Char} :
    dropHead? head cs = some r ↔ cs = head ++ r := by
  unfold dropHead?
  split
  · rename_i h
    obtain ⟨t, rfl⟩ := List.isPrefixOf_iff_prefix.1 h
    simp
  · rename_i h
    constructor
    · nofun
    · rintro rfl
      exact absurd (List.isPrefixOf_iff_prefix.2 (List.prefix_append head r)) h

theorem dropTail?_eq_some_iff {tail cs r : List Char} :
    dropTail? tail cs = some r ↔ cs = r ++ tail := by
  unfold dropTail?
  split
  · rename_i h
    obtain ⟨t, rfl⟩ := List.isSuffixOf_iff_suffix.1 h
    simp
  · rename_i h
    constructor
    · nofun
    · rintro rfl
      exact absurd (List.isSuffixOf_iff_suffix.2 (List.suffix_append r tail)) h

theorem occurs_iff_infix {needle cs : List Char} : occurs needle cs = true ↔ needle <:+: cs := by
  induction cs with
  | nil => simp [occurs]
  | cons c r ih =>
    rw [occurs, Bool.or_eq_true, List.isPrefixOf_iff_prefix, ih, List.infix_cons_iff]

theorem splitOnce?_append {p : Char → Bool} {a : List Char} {c : Char}
    (ha : ∀ x ∈ a, p x = false) (hc : p c = true) (b : List Char) :
    splitOnce? p (a ++ c :: b) = some (a, b) := by
  induction a with
  | nil => simp [splitOnce?, hc]
  | cons x a ih =>
    have hx : p x = false := ha x List.mem_cons_self
    have htail := ih fun y hy => ha y (List.mem_cons_of_mem x hy)
    simp [splitOnce?, hx, htail]

theorem splitOnce?_eq_none_iff {p : Char → Bool} {cs : List Char} :
    splitOnce? p cs = none ↔ ∀ c ∈ cs, p c = false := by
  induction cs with
  | nil => simp [splitOnce?]
  | cons c cs ih => cases hc : p c <;> simp [splitOnce?, hc, ih]

/-- The parts before and after the first separator, with it, are the text. -/
theorem append_of_splitOnce? {p : Char → Bool} {cs a b : List Char}
    (h : splitOnce? p cs = some (a, b)) :
    ∃ c, p c = true ∧ cs = a ++ c :: b ∧ ∀ x ∈ a, p x = false := by
  induction cs generalizing a with
  | nil => cases h
  | cons c r ih =>
    rw [splitOnce?] at h
    split at h
    · rename_i hc
      obtain ⟨rfl, rfl⟩ := Prod.mk.inj (Option.some.inj h)
      exact ⟨c, hc, rfl, List.forall_mem_nil _⟩
    · rename_i hc
      obtain ⟨⟨x, y⟩, hsplit, hpair⟩ := Option.map_eq_some_iff.1 h
      obtain ⟨rfl, rfl⟩ := Prod.mk.inj hpair
      obtain ⟨d, hd, rfl, hx⟩ := ih hsplit
      exact ⟨d, hd, rfl, List.forall_mem_cons.2 ⟨Bool.eq_false_iff.2 hc, hx⟩⟩

theorem splitAll_append_cons {p : Char → Bool} {c : Char} (hc : p c = true)
    (front back : List Char) :
    splitAll p (front ++ c :: back) = splitAll p front ++ splitAll p back := by
  induction front with
  | nil => simp [splitAll, hc]
  | cons d front ih =>
    by_cases hd : p d = true
    · simp [splitAll, hd, ih]
    · obtain ⟨piece, rest, hsplit⟩ := List.exists_cons_of_ne_nil (splitAll_ne_nil p front)
      simp [splitAll, hd, ih, hsplit]

theorem splitAll_intercalate {p : Char → Bool} {sep : Char} (hsep : p sep = true)
    {pieces : List (List Char)} (hne : pieces ≠ [])
    (h : ∀ piece ∈ pieces, ∀ c ∈ piece, p c = false) :
    splitAll p ([sep].intercalate pieces) = pieces := by
  induction pieces with
  | nil => exact absurd rfl hne
  | cons piece rest ih =>
    have hpiece := h piece List.mem_cons_self
    cases rest with
    | nil =>
      show splitAll _ ([piece].flatten) = _
      rw [List.flatten_singleton, splitAll_of_none hpiece]
    | cons next rest =>
      have hrest := ih (List.cons_ne_nil _ _) fun p hp => h p (List.mem_cons_of_mem _ hp)
      rw [List.intercalate_cons_cons, List.append_assoc, List.singleton_append,
        splitAll_append_cons hsep, splitAll_of_none hpiece, hrest]
      rfl

/-- A separator stands before every piece but the first. -/
theorem intercalate_cons_eq_flatMap (sep first : List Char) (rest : List (List Char)) :
    sep.intercalate (first :: rest) = first ++ rest.flatMap (sep ++ ·) := by
  induction rest generalizing first with
  | nil => simp
  | cons next rest ih =>
    rw [List.intercalate_cons_cons, ih, List.flatMap_cons, List.append_assoc, List.append_assoc]

/-- With a separator at the end, one stands behind every piece. -/
theorem intercalate_append_separator (sep first : List Char) (rest : List (List Char)) :
    sep.intercalate (first :: rest) ++ sep = (first :: rest).flatMap (· ++ sep) := by
  induction rest generalizing first with
  | nil => simp
  | cons next rest ih =>
    rw [List.intercalate_cons_cons, List.append_assoc, ih next, List.flatMap_cons (x := first)]

/-- Pieces that are joined with another separator have it in the place of theirs. -/
theorem intercalate_splitAll_eq_flatMap (p : Char → Bool) (sep cs : List Char) :
    sep.intercalate (splitAll p cs) = cs.flatMap fun c => if p c then sep else [c] := by
  induction cs with
  | nil => simp [splitAll]
  | cons c cs ih =>
    obtain ⟨piece, rest, hsplit⟩ := List.exists_cons_of_ne_nil (splitAll_ne_nil p cs)
    rw [List.flatMap_cons, ← ih, splitAll, hsplit]
    by_cases hc : p c = true
    · rw [if_pos hc, if_pos hc, List.intercalate_cons_cons, List.nil_append]
    · rw [if_neg hc, if_neg hc, intercalate_cons_eq_flatMap, intercalate_cons_eq_flatMap]
      rfl

/-- Pieces that are joined in two parts have one more separator between the parts. -/
theorem intercalate_append {sep : Char} {front back : List (List Char)} (hfront : front ≠ [])
    (hback : back ≠ []) :
    [sep].intercalate (front ++ back) =
      [sep].intercalate front ++ sep :: [sep].intercalate back := by
  induction front with
  | nil => exact absurd rfl hfront
  | cons piece front ih =>
    cases front with
    | nil =>
      obtain ⟨next, back, rfl⟩ := List.exists_cons_of_ne_nil hback
      simp [List.intercalate_cons_cons]
    | cons next front =>
      have hrest := ih (List.cons_ne_nil next front)
      rw [List.cons_append] at hrest
      rw [List.cons_append, List.cons_append, List.intercalate_cons_cons,
        List.intercalate_cons_cons, hrest, List.append_assoc, List.append_assoc, List.append_assoc]

/-! ## Lines -/

/-- Text behind a line end is read line by line by itself. -/
theorem lines_append (front back : List Char) :
    lines (front ++ '\n' :: back) = lines (front ++ ['\n']) ++ lines back := by
  have hsplit (r : List Char) : splitAll (· == '\n') (front ++ '\n' :: r) =
      splitAll (· == '\n') front ++ splitAll (· == '\n') r := splitAll_append_cons rfl front r
  have hend : splitAll (· == '\n') [] = [[]] := rfl
  have hne := splitAll_ne_nil (· == '\n') back
  rw [lines, lines, lines, hsplit, hsplit, hend, List.dropLast_append_of_ne_nil hne,
    List.dropLast_concat, List.getLast?_append, List.getLast?_concat,
    List.getLast?_eq_some_getLast hne, Option.some_or]
  simp

theorem lines_cons {line : List Char} (h : '\n' ∉ line) (back : List Char) :
    lines (line ++ '\n' :: back) = dropReturn line :: lines back := by
  have hline : ∀ c ∈ line, (c == '\n') = false := fun c hc =>
    beq_false_of_ne fun heq => h (heq ▸ hc)
  have hone : lines (line ++ ['\n']) = [dropReturn line] := by
    rw [lines, splitAll_append_cons rfl, splitAll_of_none hline]
    rfl
  rw [lines_append, hone, List.singleton_append]

theorem trim_dropReturn (line : List Char) : trim (dropReturn line) = trim line := by
  rw [dropReturn]
  cases hline : dropTail? ['\r'] line with
  | none => rfl
  | some r =>
    obtain rfl := dropTail?_eq_some_iff.1 hline
    exact (trim_concat_of_isBlank (by decide)).symm

/-- A line end behind a text adds nothing but a blank line at most. -/
theorem mem_lines_concat {cs line : List Char} (h : line ∈ lines (cs ++ ['\n'])) :
    trim line = [] ∨ ∃ l ∈ lines cs, trim line = trim l := by
  have hlines : lines (cs ++ ['\n']) = (splitAll (· == '\n') cs).map dropReturn := by
    have hend : splitAll (· == '\n') [] = [[]] := rfl
    rw [lines, splitAll_append_cons rfl, hend, List.dropLast_concat, List.getLast?_concat]
    exact List.append_nil _
  rw [hlines] at h
  obtain ⟨piece, hpiece, rfl⟩ := List.mem_map.1 h
  rw [← List.dropLast_concat_getLast (splitAll_ne_nil (· == '\n') cs), List.mem_append,
    List.mem_singleton] at hpiece
  rw [trim_dropReturn]
  rcases hpiece with hpiece | rfl
  · exact .inr ⟨_, List.mem_append_left _ (List.mem_map_of_mem hpiece), (trim_dropReturn _).symm⟩
  · -- the last piece is a line as it stands, unless it is empty
    generalize hlast : (splitAll (· == '\n') cs).getLast _ = piece
    cases piece with
    | nil => exact .inl rfl
    | cons c r =>
      refine .inr ⟨c :: r, List.mem_append_right _ ?_, rfl⟩
      rw [List.getLast?_eq_some_getLast (splitAll_ne_nil (· == '\n') cs), hlast]
      exact List.mem_singleton_self _

end CloudClient.Text
