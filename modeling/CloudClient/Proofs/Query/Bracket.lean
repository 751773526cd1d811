import CloudClient.Proofs.Text.Trim
import CloudClient.Query.Mask

/-!
# Brackets — depth, balance and commas at the top

Brackets of both kinds are counted alike.  In a balanced text no bracket closes what was not
opened, and as many close as open.  The commas outside all brackets cut a balanced text into
pieces that are balanced themselves, and such pieces, put together again with commas, are cut
at the same places.

* `Mask.depthFrom_eq_some_iff`: the depth of a text, by how many brackets open and close.
* `Mask.exists_splitTop` tells what the pieces of a text are.
* `Mask.splitTop_intercalate`: pieces that are joined are found again.
-/

namespace CloudClient.Mask

/-! ## Counting -/

def opens (cs : List Char) : Nat := cs.countP fun c => c == '[' || c == '('

def closes (cs : List Char) : Nat := cs.countP fun c => c == ']' || c == ')'

/-- Never more brackets have closed than opened, and at the end just as many. -/
def Balanced (cs : List Char) : Prop :=
  (∀ front back, cs = front ++ back → closes front ≤ opens front) ∧ closes cs = opens cs

/-- Every comma stands where more brackets have opened than closed. -/
def NoTopComma (cs : List Char) : Prop :=
  ∀ front back, cs = front ++ ',' :: back → opens front ≠ closes front

theorem opens_cons (c : Char) (cs : List Char) : opens (c :: cs) = opens [c] + opens cs :=
  @List.countP_append _ _ [c] cs

theorem closes_cons (c : Char) (cs : List Char) : closes (c :: cs) = closes [c] + closes cs :=
  @List.countP_append _ _ [c] cs

/-! ## Depth -/

variable {d e : Nat} {c : Char} {cs : List Char}

theorem bracketStep_eq_some_iff :
    bracketStep d c = some e ↔
      closes [c] ≤ d + opens [c] ∧ d + opens [c] = e + closes [c] := by
  unfold bracketStep
  by_cases hopen : (c == '[' || c == '(') = true
  · -- a bracket that opens does not close
    have hclose : (c == ']' || c == ')') = false := by
      rcases Bool.or_eq_true_iff.1 hopen with h | h
      · rw [beq_iff_eq.1 h]
        rfl
      · rw [beq_iff_eq.1 h]
        rfl
    simp only [hopen, if_true, opens, closes, List.countP_singleton, hclose, Option.some.injEq,
      Bool.false_eq_true, if_false]
    omega
  · by_cases hclose : (c == ']' || c == ')') = true
    · simp only [hopen, hclose, if_true, opens, closes, List.countP_singleton, if_false,
        Bool.false_eq_true]
      cases d with
      | zero => simp
      | succ d => simp
    · simp only [hopen, hclose, opens, closes, List.countP_singleton, if_false,
        Bool.false_eq_true, Option.some.injEq]
      omega

/-- The depth at the end of a text is told by how many brackets open and close, if on the
way no bracket closes nothing. -/
theorem depthFrom_eq_some_iff :
    depthFrom d cs = some e ↔
      (∀ front back, cs = front ++ back → closes front ≤ d + opens front) ∧
        d + opens cs = e + closes cs := by
  induction cs generalizing d with
  | nil =>
    constructor
    · intro h
      obtain rfl := Option.some.inj h
      refine ⟨fun front back hcs => ?_, rfl⟩
      obtain ⟨rfl, -⟩ := List.append_eq_nil_iff.1 hcs.symm
      exact Nat.zero_le _
    · intro h
      exact congrArg some h.2
  | cons c r ih =>
    rw [depthFrom, Option.bind_eq_some_iff]
    simp only [bracketStep_eq_some_iff, ih]
    have hopens := opens_cons c
    have hcloses := closes_cons c
    constructor
    · rintro ⟨next, ⟨hle, hnext⟩, hfronts, hend⟩
      refine ⟨fun front back hcs => ?_, ?_⟩
      · cases front with
        | nil => exact Nat.zero_le _
        | cons x front =>
          obtain ⟨rfl, hr⟩ := List.cons.inj hcs
          have hfront := hfronts front back hr
          rw [hopens, hcloses]
          omega
      · rw [hopens, hcloses]
        omega
    · rintro ⟨hfronts, hend⟩
      have hfirst := hfronts [c] r rfl
      refine ⟨d + opens [c] - closes [c], ⟨hfirst, by omega⟩, fun front back hr => ?_, ?_⟩
      · have hfront := hfronts (c :: front) back (congrArg (c :: ·) hr)
        rw [hopens, hcloses] at hfront
        omega
      · rw [hopens, hcloses] at hend
        omega

theorem depthFrom_zero_iff : depthFrom 0 cs = some 0 ↔ Balanced cs := by
  rw [depthFrom_eq_some_iff, Balanced]
  simp only [Nat.zero_add, eq_comm]

theorem balanced_iff : balanced cs = true ↔ Balanced cs := by
  rw [balanced, beq_iff_eq, depthFrom_zero_iff]

theorem depthFrom_append (d : Nat) (cs rest : List Char) :
    depthFrom d (cs ++ rest) = (depthFrom d cs).bind fun e => depthFrom e rest := by
  induction cs generalizing d with
  | nil => rfl
  | cons c r ih =>
    rw [List.cons_append, depthFrom, depthFrom, Option.bind_assoc]
    exact Option.bind_congr fun e _ => ih e

/-- A balanced text keeps the depth that it begins at. -/
theorem Balanced.depthFrom (h : Balanced cs) (d : Nat) : depthFrom d cs = some d := by
  refine depthFrom_eq_some_iff.2 ⟨fun front back hcs => ?_, ?_⟩
  · have hfront := h.1 front back hcs
    omega
  · have hend := h.2
    omega

theorem bracketStep_of_isBlank (d : Nat) (h : Text.isBlank c = true) :
    bracketStep d c = some d := by
  have hne (x : Char) (hx : Text.isBlank x = false) : (c == x) = false := by
    refine beq_eq_false_iff_ne.2 ?_
    rintro rfl
    rw [hx] at h
    cases h
  simp [bracketStep, hne '[' rfl, hne '(' rfl, hne ']' rfl, hne ')' rfl]

theorem depthFrom_of_isBlank (d : Nat) (h : ∀ c ∈ cs, Text.isBlank c = true) :
    depthFrom d cs = some d := by
  induction cs with
  | nil => rfl
  | cons c r ih =>
    obtain ⟨hc, hr⟩ := List.forall_mem_cons.1 h
    rw [depthFrom, bracketStep_of_isBlank d hc]
    exact ih hr

theorem depthFrom_trim (d : Nat) (cs : List Char) :
    depthFrom d (Text.trim cs) = depthFrom d cs := by
  obtain ⟨front, back, hcs, hfront, hback⟩ := Text.exists_trim cs
  have hwhole := congrArg (depthFrom d) hcs
  rw [hwhole, depthFrom_append, depthFrom_of_isBlank d hfront, Option.bind_some, depthFrom_append]
  cases depthFrom d (Text.trim cs) with
  | none => rfl
  | some e => exact (depthFrom_of_isBlank e hback).symm

/-! ## Pieces -/

/-- A piece that stands at depth `d`: it leads down to the top, and every comma in it stands
within brackets. -/
structure IsPiece (d : Nat) (p : List Char) : Prop where
  depth : depthFrom d p = some 0
  comma : ∀ front back, p = front ++ ',' :: back → depthFrom d front ≠ some 0

theorem isPiece_iff {p : List Char} : IsPiece 0 p ↔ Balanced p ∧ NoTopComma p := by
  -- before a comma of a balanced text the depth is what the counts say
  have hfront (h : Balanced p) {front back : List Char} (hp : p = front ++ ',' :: back) :
      depthFrom 0 front = some 0 ↔ opens front = closes front := by
    rw [depthFrom_eq_some_iff]
    simp only [Nat.zero_add]
    refine and_iff_right fun first rest hsplit => h.1 first (rest ++ ',' :: back) ?_
    rw [hp, hsplit, List.append_assoc]
  constructor
  · intro h
    have hbalanced := depthFrom_zero_iff.1 h.depth
    exact ⟨hbalanced, fun front back hp heq => h.comma front back hp ((hfront hbalanced hp).2 heq)⟩
  · intro h
    refine ⟨depthFrom_zero_iff.2 h.1, fun front back hp hdepth => ?_⟩
    exact h.2 front back hp ((hfront h.1 hp).1 hdepth)

theorem IsPiece.nil : IsPiece 0 [] := by
  refine ⟨rfl, fun front back h => ?_⟩
  cases front <;> cases h

theorem isPiece_cons {p : List Char} (hstep : bracketStep d c = some e) :
    IsPiece d (c :: p) ↔ (c = ',' → d ≠ 0) ∧ IsPiece e p := by
  have hdepth (r : List Char) : depthFrom d (c :: r) = depthFrom e r := by
    rw [depthFrom, hstep, Option.bind_some]
  constructor
  · intro h
    refine ⟨?_, (hdepth p).symm.trans h.depth, fun front back hp hfront => ?_⟩
    · rintro rfl rfl
      exact h.comma [] p rfl rfl
    · exact h.comma (c :: front) back (congrArg (c :: ·) hp) ((hdepth front).trans hfront)
  · rintro ⟨hcomma, h⟩
    refine ⟨(hdepth p).trans h.depth, fun front back hp hfront => ?_⟩
    cases front with
    | nil =>
      obtain ⟨rfl, -⟩ := List.cons.inj hp
      exact hcomma rfl (Option.some.inj hfront)
    | cons x front =>
      obtain ⟨rfl, hrest⟩ := List.cons.inj hp
      exact h.comma front back hrest ((hdepth front).symm.trans hfront)

theorem IsPiece.trim {p : List Char} (h : IsPiece 0 p) : IsPiece 0 (Text.trim p) := by
  refine ⟨(depthFrom_trim 0 p).trans h.depth, fun front back hp hfront => ?_⟩
  obtain ⟨before, after, hsplit, hbefore, -⟩ := Text.exists_trim p
  refine h.comma (before ++ front) (back ++ after) ?_ ?_
  · rw [hsplit, hp]
    simp
  · rw [depthFrom_append, depthFrom_of_isBlank 0 hbefore]
    exact hfront

/-- Pieces at the top can be put behind a piece. -/
theorem IsPiece.append {p q : List Char} (hp : IsPiece d p) (hq : IsPiece 0 q) :
    IsPiece d (p ++ q) := by
  induction p generalizing d with
  | nil =>
    obtain rfl := Option.some.inj hp.depth
    exact hq
  | cons c p ih =>
    have hdepth := hp.depth
    rw [depthFrom] at hdepth
    obtain ⟨e, hstep, -⟩ := Option.bind_eq_some_iff.1 hdepth
    obtain ⟨hcomma, hrest⟩ := (isPiece_cons hstep).1 hp
    exact (isPiece_cons hstep).2 ⟨hcomma, ih hrest⟩

theorem isPiece_of_isBlank (h : ∀ c ∈ cs, Text.isBlank c = true) : IsPiece 0 cs := by
  refine ⟨depthFrom_of_isBlank 0 h, fun front back hcs _ => ?_⟩
  have hcomma : Text.isBlank ',' = true := h ',' (by simp [hcs])
  revert hcomma
  decide

theorem isPiece_trim_iff {p : List Char} : IsPiece 0 (Text.trim p) ↔ IsPiece 0 p := by
  refine ⟨fun h => ?_, IsPiece.trim⟩
  obtain ⟨front, back, hp, hfront, hback⟩ := Text.exists_trim p
  rw [hp]
  exact (isPiece_of_isBlank hfront).append (h.append (isPiece_of_isBlank hback))

/-! ## Splitting -/

theorem splitTop_comma (r : List Char) : splitTop 0 (',' :: r) = [] :: splitTop 0 r := rfl

/-- A character other than a comma at the top goes to the first piece of what follows. -/
theorem splitTop_cons (hstep : bracketStep d c = some e) (hcomma : c = ',' → d ≠ 0)
    {r first : List Char} {rest : List (List Char)} (hr : splitTop e r = first :: rest) :
    splitTop d (c :: r) = (c :: first) :: rest := by
  have hnext : (if c == '[' || c == '(' then d + 1
      else if c == ']' || c == ')' then d - 1 else d) = e := by
    unfold bracketStep at hstep
    split at hstep
    · rename_i hopen
      rw [if_pos hopen]
      exact Option.some.inj hstep
    · rename_i hopen
      rw [if_neg hopen]
      split at hstep
      · rename_i hclose
        rw [if_pos hclose]
        cases d with
        | zero => cases hstep
        | succ d => exact Option.some.inj hstep
      · rename_i hclose
        rw [if_neg hclose]
        exact Option.some.inj hstep
  have htop : ¬(c == ',' && d == 0) = true := by
    simpa using hcomma
  rw [splitTop, if_neg htop]
  simp only [hnext, hr]

/-- The pieces of a text that ends at the top. -/
theorem exists_splitTop (h : depthFrom d cs = some 0) :
    ∃ first rest, splitTop d cs = first :: rest ∧ IsPiece d first ∧
      ∀ p ∈ rest, IsPiece 0 p := by
  induction cs generalizing d with
  | nil =>
    obtain rfl := Option.some.inj h
    exact ⟨[], [], rfl, .nil, nofun⟩
  | cons c r ih =>
    rw [depthFrom] at h
    obtain ⟨e, hstep, hr⟩ := Option.bind_eq_some_iff.1 h
    obtain ⟨first, rest, hsplit, hfirst, hrest⟩ := ih hr
    by_cases htop : c = ',' ∧ d = 0
    · -- a comma at the top ends the first piece
      obtain ⟨rfl, rfl⟩ := htop
      obtain rfl := Option.some.inj hstep
      refine ⟨[], first :: rest, ?_, .nil, List.forall_mem_cons.2 ⟨hfirst, hrest⟩⟩
      rw [splitTop_comma, hsplit]
    · have hcomma : c = ',' → d ≠ 0 := fun hc hd => htop ⟨hc, hd⟩
      exact ⟨c :: first, rest, splitTop_cons hstep hcomma hsplit,
        (isPiece_cons hstep).2 ⟨hcomma, hfirst⟩, hrest⟩

/-- A piece with other pieces behind it is found first. -/
theorem splitTop_append {p cs : List Char} {rest : List (List Char)} (h : IsPiece d p)
    (hcs : splitTop 0 cs = [] :: rest) : splitTop d (p ++ cs) = p :: rest := by
  induction p generalizing d with
  | nil =>
    obtain rfl := Option.some.inj h.depth
    exact hcs
  | cons c p ih =>
    have hdepth := h.depth
    rw [depthFrom] at hdepth
    obtain ⟨e, hstep, -⟩ := Option.bind_eq_some_iff.1 hdepth
    obtain ⟨hcomma, hp⟩ := (isPiece_cons hstep).1 h
    exact splitTop_cons hstep hcomma (ih hp)

/-- Pieces that are joined with commas are found again. -/
theorem splitTop_intercalate {pieces : List (List Char)} (hne : pieces ≠ [])
    (h : ∀ p ∈ pieces, IsPiece 0 p) : splitTop 0 ([','].intercalate pieces) = pieces := by
  induction pieces with
  | nil => exact absurd rfl hne
  | cons p rest ih =>
    obtain ⟨hp, hrest⟩ := List.forall_mem_cons.1 h
    cases rest with
    | nil =>
      have hend : splitTop 0 (p ++ []) = [p] := splitTop_append hp rfl
      simpa using hend
    | cons q rest =>
      rw [List.intercalate_cons_cons, List.append_assoc]
      refine splitTop_append hp ?_
      rw [List.singleton_append, splitTop_comma, ih (List.cons_ne_nil q rest) hrest]

theorem depthFrom_intercalate {pieces : List (List Char)} (h : ∀ p ∈ pieces, IsPiece 0 p) :
    depthFrom 0 ([','].intercalate pieces) = some 0 := by
  induction pieces with
  | nil => rfl
  | cons p rest ih =>
    obtain ⟨hp, hrest⟩ := List.forall_mem_cons.1 h
    cases rest with
    | nil => simpa using hp.depth
    | cons q rest =>
      rw [List.intercalate_cons_cons, List.append_assoc, depthFrom_append, hp.depth]
      exact ih hrest

end CloudClient.Mask
