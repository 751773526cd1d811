import CloudClient.Json.Printer
import CloudClient.Proofs.Json.Number
import CloudClient.Proofs.XmlRpc.RoundTrip

/-!
# JSON text is read back

Compact text is read as the value that it was written for: texts with everything that is
escaped in them, elements and members in their order.  Numbers are read back where the reader
reads their own text back, as one may miss the nearest double of a long numeral.

* `Json.ReadsBack`, `Json.Legible`: numbers and values whose numbers are read back.
* `Json.value_compact`: a value in front of what may follow it.
* `Json.readWithin?_compact`: whole documents, for a reader that goes deep enough.
* `Json.readsBack_number`, `Json.readsBack_int`: the numbers of the client's own reader.
-/

namespace CloudClient.Json

/-! ## Strings -/

theorem stringBody_simple {c x : Char} (h : simpleEscape? c = some x) (r : List Char) :
    stringBody ('\\' :: c :: r) = consChar x (stringBody r) := by
  have hu : c ≠ 'u' := by
    rintro rfl
    cases h
  rw [stringBody]
  · rw [h]
  · exact fun _ _ _ _ _ _ _ _ _ he _ => hu he
  · exact fun _ _ _ _ _ he _ => hu he

theorem stringBody_hex {a b c d : Char} {n : Nat} (h : hex4? a b c d = some n) (hn : n < 0xD800)
    (r : List Char) :
    stringBody ('\\' :: 'u' :: a :: b :: c :: d :: r) = consChar (.ofNat n) (stringBody r) := by
  have hhigh : ¬ (0xD800 ≤ n ∧ n < 0xDC00) := by omega
  have hlow : ¬ (0xDC00 ≤ n ∧ n < 0xE000) := by omega
  have hneither : ¬ (0xD800 ≤ n ∧ n < 0xE000) := by omega
  -- another escape may follow, but only a surrogate is read together with it
  by_cases hnext : ∃ e f g i t, r = '\\' :: 'u' :: e :: f :: g :: i :: t
  · obtain ⟨e, f, g, i, t, rfl⟩ := hnext
    rw [stringBody, h]
    simp only [if_neg hhigh, if_neg hlow]
  · rw [stringBody]
    · simp only [h, if_neg hneither]
    · exact fun e f g i t he => hnext ⟨e, f, g, i, t, he⟩

theorem stringBody_char {c : Char} (hquote : c ≠ '"') (hslash : c ≠ '\\')
    (hcontrol : ¬ c.toNat < 0x20) (r : List Char) :
    stringBody (c :: r) = consChar c (stringBody r) := by
  rw [stringBody]
  · rw [if_neg (by simpa using hslash), if_neg hcontrol]
  · exact hquote
  · exact fun _ _ _ _ _ _ _ _ _ he _ => hslash he
  · exact fun _ _ _ _ _ he _ => hslash he
  · exact fun _ _ he _ => hslash he

theorem hex4?_hexByte : ∀ n < 0x20,
    hex4? '0' '0' (Nat.digitChar (n / 16)) (Nat.digitChar (n % 16)) = some n := by
  decide

/-- An escaped character is read as the character. -/
theorem stringBody_escapeChar (c : Char) (r : List Char) :
    stringBody (escapeChar c ++ r) = consChar c (stringBody r) := by
  unfold escapeChar
  split
  · exact stringBody_simple rfl r
  · exact stringBody_simple rfl r
  · exact stringBody_simple rfl r
  · exact stringBody_simple rfl r
  · exact stringBody_simple rfl r
  · exact stringBody_simple rfl r
  · exact stringBody_simple rfl r
  · next hquote hslash _ _ _ _ _ =>
    split
    · next hcontrol =>
      have hread := stringBody_hex (hex4?_hexByte c.toNat hcontrol) (by omega) r
      rw [Char.ofNat_toNat] at hread
      exact hread
    · next hcontrol => exact stringBody_char hquote hslash hcontrol r

theorem stringBody_flatMap (cs r : List Char) :
    stringBody (cs.flatMap escapeChar ++ '"' :: r) = .ok (cs, r) := by
  induction cs with
  | nil => rw [List.flatMap_nil, List.nil_append, stringBody]
  | cons c cs ih =>
    rw [List.flatMap_cons, List.append_assoc, stringBody_escapeChar, ih]
    rfl

/-- A string between quotation marks is read as itself. -/
theorem string_quoted (s : String) (r : List Char) :
    ∃ body, quoted s ++ r = '"' :: body ∧ string body = .ok (s, r) := by
  refine ⟨s.toList.flatMap escapeChar ++ '"' :: r, by simp [quoted], ?_⟩
  rw [string, stringBody_flatMap]
  show Except.ok (String.ofList s.toList, r) = .ok (s, r)
  rw [String.ofList_toList]

/-! ## Values -/

/-- The text of a number starts like one and is read as the number, whatever may follow it. -/
structure ReadsBack (numeral : List Char → Read Number) (n : Number) : Prop where
  start : ∃ c r, (numberText n).toList = c :: r ∧ (c = '-' ∨ (Text.digit? c).isSome = true)
  read : ∀ {rest : List Char}, Follows rest →
    numeral ((numberText n).toList ++ rest) = .ok (n, rest)

mutual

/-- Each number is read back. -/
def Legible (numeral : List Char → Read Number) : Json → Prop
  | .num n => ReadsBack numeral n
  | .arr items => LegibleItems numeral items
  | .obj members => LegibleMembers numeral members
  | _ => True

def LegibleItems (numeral : List Char → Read Number) : List Json → Prop
  | [] => True
  | v :: r => v.Legible numeral ∧ LegibleItems numeral r

def LegibleMembers (numeral : List Char → Read Number) : List (String × Json) → Prop
  | [] => True
  | (_, v) :: r => v.Legible numeral ∧ LegibleMembers numeral r

end

mutual

def nesting : Json → Nat
  | .arr items => nestingItems items + 1
  | .obj members => nestingMembers members + 1
  | _ => 0

def nestingItems : List Json → Nat
  | [] => 0
  | v :: r => max v.nesting (nestingItems r)

def nestingMembers : List (String × Json) → Nat
  | [] => 0
  | (_, v) :: r => max v.nesting (nestingMembers r)

end

theorem word_append (w : List Char) (v : Json) (rest : List Char) :
    word w v (w ++ rest) = .ok (v, rest) := by
  rw [word, if_pos (List.isPrefixOf_iff_prefix.2 (List.prefix_append w rest)), List.drop_left]

theorem isSome_digit?_ne {c x : Char} (h : (Text.digit? c).isSome = true)
    (hx : (Text.digit? x).isSome = false) : c ≠ x := by
  rintro rfl
  rw [h] at hx
  cases hx

section Values

variable {numeral : List Char → Read Number}

theorem value_numeral {n : Number} (h : ReadsBack numeral n) (fuel depth : Nat)
    {rest : List Char} (hrest : Follows rest) :
    value numeral (fuel + 1) depth ((numberText n).toList ++ rest) = .ok (.num n, rest) := by
  have hread := h.read hrest
  obtain ⟨c, r, hcs, hc⟩ := h.start
  have hne {x : Char} (hx : x ≠ '-' ∧ (Text.digit? x).isSome = false) : c ≠ x := by
    rcases hc with rfl | hdigit
    · exact hx.1.symm
    · exact isSome_digit?_ne hdigit hx.2
  have hstart : (c == '-' || (Text.digit? c).isSome) = true := by
    rcases hc with rfl | hdigit
    · rfl
    · rw [hdigit, Bool.or_true]
  rw [hcs, List.cons_append] at hread ⊢
  rw [value, if_pos hstart, hread]
  · rfl
  all_goals exact fun he => hne (by decide) he

theorem skip_cons {c : Char} (h : isSpace c = false) (r : List Char) : skip (c :: r) = c :: r :=
  List.dropWhile_cons_of_neg (by simp [h])

/-- The text of a value starts neither with a blank nor with the end of an array. -/
theorem exists_cons_compactChars {v : Json} (h : v.Legible numeral) :
    ∃ c r, v.compactChars = c :: r ∧ isSpace c = false ∧ c ≠ ']' := by
  cases v with
  | null => exact ⟨'n', _, rfl, by decide, by decide⟩
  | bool b => cases b <;> exact ⟨_, _, rfl, by decide, by decide⟩
  | num n =>
    obtain ⟨c, r, hcs, hc⟩ := h.start
    refine ⟨c, r, hcs, ?_⟩
    rcases hc with rfl | hdigit
    · decide
    · have hne {x : Char} (hx : (Text.digit? x).isSome = false) : c ≠ x :=
        isSome_digit?_ne hdigit hx
      refine ⟨?_, hne (by decide)⟩
      simp only [isSpace, Bool.or_eq_false_iff, beq_eq_false_iff_ne]
      exact ⟨⟨⟨hne (by decide), hne (by decide)⟩, hne (by decide)⟩, hne (by decide)⟩
  | str s => exact ⟨'"', _, rfl, by decide, by decide⟩
  | arr items => exact ⟨'[', _, by rw [compactChars], by decide, by decide⟩
  | obj members => exact ⟨'{', _, by rw [compactChars], by decide, by decide⟩

theorem follows_cons {c : Char} (h : c = ',' ∨ c = ']' ∨ c = '}') (rest : List Char) :
    Follows (c :: rest) := by
  rintro x ⟨⟩
  exact h

theorem value_brackets (fuel depth : Nat) (rest : List Char) :
    value numeral (fuel + 1) (depth + 1) ('[' :: ']' :: rest) = .ok (.arr [], rest) :=
  rfl

theorem value_braces (fuel depth : Nat) (rest : List Char) :
    value numeral (fuel + 1) (depth + 1) ('{' :: '}' :: rest) = .ok (.obj [], rest) :=
  rfl

theorem value_bracket {c : Char} {r rest : List Char} {vs : List Json} {fuel depth : Nat}
    (hspace : isSpace c = false) (hc : c ≠ ']')
    (h : items numeral fuel depth [] (c :: r) = .ok (vs, rest)) :
    value numeral (fuel + 1) (depth + 1) ('[' :: c :: r) = .ok (.arr vs, rest) := by
  rw [value, if_neg (by omega), skip_cons hspace]
  split
  · next heq => exact absurd (List.cons.inj heq).1 hc
  · rw [Nat.add_sub_cancel, h]
    rfl

theorem value_brace {r rest : List Char} {ms : Fields Json} {fuel depth : Nat}
    (h : members numeral fuel depth [] ('"' :: r) = .ok (ms, rest)) :
    value numeral (fuel + 1) (depth + 1) ('{' :: '"' :: r) = .ok (.obj ms, rest) := by
  show (members numeral fuel depth [] ('"' :: r)).map _ = _
  rw [h]
  rfl

theorem exists_cons_compactItems {v : Json} (r : List Json) (h : v.Legible numeral)
    (rest : List Char) :
    ∃ c t, compactItems (v :: r) ++ rest = c :: t ∧ isSpace c = false ∧ c ≠ ']' := by
  obtain ⟨c, t, hcs, hc⟩ := exists_cons_compactChars h
  cases r with
  | nil =>
    refine ⟨c, t ++ rest, ?_, hc⟩
    rw [compactItems, hcs, List.cons_append]
  | cons w r =>
    refine ⟨c, t ++ ',' :: (compactItems (w :: r) ++ rest), ?_, hc⟩
    rw [compactItems, hcs]
    simp

theorem exists_cons_compactMembers (k : String) (v : Json) (r : List (String × Json))
    (rest : List Char) : ∃ t, compactMembers ((k, v) :: r) ++ rest = '"' :: t := by
  cases r <;> exact ⟨_, by rw [compactMembers, quoted]; rfl⟩

theorem members_close {fuel depth : Nat} (done : Fields Json) {k : String} {v : Json}
    {body text rest : List Char} (hk : string body = .ok (k, ':' :: text))
    (hv : value numeral fuel depth (skip text) = .ok (v, '}' :: rest)) :
    members numeral (fuel + 1) depth done ('"' :: body) = .ok (Fields.insert k v done, rest) := by
  have hcolon : skip (':' :: text) = ':' :: text := skip_cons rfl text
  have hclose : skip ('}' :: rest) = '}' :: rest := skip_cons rfl rest
  simp only [members, hk, hcolon, hv, hclose]

theorem members_comma {fuel depth : Nat} (done : Fields Json) {k : String} {v : Json}
    {body text rest : List Char} (hk : string body = .ok (k, ':' :: text))
    (hv : value numeral fuel depth (skip text) = .ok (v, ',' :: rest)) :
    members numeral (fuel + 1) depth done ('"' :: body) =
      members numeral fuel depth (Fields.insert k v done) (skip rest) := by
  have hcolon : skip (':' :: text) = ':' :: text := skip_cons rfl text
  have hcomma : skip (',' :: rest) = ',' :: rest := skip_cons rfl rest
  simp only [members, hk, hcolon, hv, hcomma]

mutual

/-- A written value is read as itself, whatever may follow it. -/
theorem value_compact : ∀ (v : Json), v.Ordered → v.Legible numeral → ∀ (fuel depth : Nat)
    {rest : List Char}, Follows rest → 2 * v.compactChars.length ≤ fuel → v.nesting ≤ depth →
    value numeral fuel depth (v.compactChars ++ rest) = .ok (v, rest)
  | .null, _, _, fuel + 1, _, rest, _, _, _ => word_append "null".toList .null rest
  | .bool true, _, _, fuel + 1, _, rest, _, _, _ => word_append "true".toList (.bool true) rest
  | .bool false, _, _, fuel + 1, _, rest, _, _, _ => word_append "false".toList (.bool false) rest
  | .num n, _, hl, 0, _, _, _, hfuel, _ => by
    obtain ⟨c, r, hcs, -⟩ := exists_cons_compactChars hl
    rw [hcs] at hfuel
    exact absurd hfuel (by simp)
  | .num n, _, hl, fuel + 1, depth, rest, hrest, _, _ =>
    value_numeral hl fuel depth hrest
  | .str s, _, _, fuel + 1, depth, rest, _, _, _ => by
    obtain ⟨body, hbody, hread⟩ := string_quoted s rest
    rw [compactChars, scalarText, hbody, value, hread]
    rfl
  | .arr [], _, _, fuel + 1, depth + 1, rest, _, _, _ => value_brackets fuel depth rest
  | .arr (v :: r), ho, hl, fuel + 1, depth + 1, rest, _, hfuel, hdepth => by
    have hread := items_compact (v :: r) (by simp) ho hl fuel depth [] rest
      (by
        rw [compactChars, List.length_cons, List.length_append] at hfuel
        omega)
      (by
        rw [nesting] at hdepth
        omega)
    -- the first element is no closing bracket
    obtain ⟨c, t, hcs, hspace, hc⟩ := exists_cons_compactItems r hl.1 (']' :: rest)
    rw [hcs] at hread
    rw [compactChars, List.cons_append, List.append_assoc, List.singleton_append, hcs]
    exact value_bracket hspace hc hread
  | .obj [], _, _, fuel + 1, depth + 1, rest, _, _, _ => value_braces fuel depth rest
  | .obj ((k, v) :: r), ho, hl, fuel + 1, depth + 1, rest, _, hfuel, hdepth => by
    have hread := members_compact ((k, v) :: r) (by simp) ho.2 hl fuel depth [] rest ho.1
      (by
        rw [compactChars, List.length_cons, List.length_append] at hfuel
        omega)
      (by
        rw [nesting] at hdepth
        omega)
    obtain ⟨t, ht⟩ := exists_cons_compactMembers k v r ('}' :: rest)
    rw [ht] at hread
    rw [compactChars, List.cons_append, List.append_assoc, List.singleton_append, ht]
    exact value_brace hread

/-- So are elements up to their closing bracket. -/
theorem items_compact : ∀ (vs : List Json), vs ≠ [] → OrderedItems vs → LegibleItems numeral vs →
    ∀ (fuel depth : Nat) (done : List Json) (rest : List Char),
    2 * (compactItems vs).length + 1 ≤ fuel → nestingItems vs ≤ depth →
    items numeral fuel depth done (compactItems vs ++ ']' :: rest) = .ok (done.reverse ++ vs, rest)
  | [], hne, _, _, _, _, _, _, _, _ => absurd rfl hne
  | [v], _, ho, hl, fuel + 1, depth, done, rest, hfuel, hdepth => by
    have hlength : 2 * v.compactChars.length ≤ fuel := Nat.le_of_succ_le_succ hfuel
    have hdeep : v.nesting ≤ depth := Nat.le_trans (Nat.le_max_left _ _) hdepth
    have hv := value_compact v ho.1 hl.1 fuel depth
      (follows_cons (.inr (.inl rfl)) rest) hlength hdeep
    rw [compactItems, items, hv]
    show Except.ok ((v :: done).reverse, rest) = _
    rw [List.reverse_cons]
  | v :: w :: r, _, ho, hl, fuel + 1, depth, done, rest, hfuel, hdepth => by
    rw [compactItems, List.length_append, List.length_cons] at hfuel
    rw [nestingItems] at hdepth
    have hv := value_compact v ho.1 hl.1 fuel depth
      (follows_cons (.inl rfl) (compactItems (w :: r) ++ ']' :: rest)) (by omega) (by omega)
    have hr := items_compact (w :: r) (by simp) ho.2 hl.2 fuel depth (v :: done) rest
      (by omega) (by omega)
    have hstart : skip (compactItems (w :: r) ++ ']' :: rest) =
        compactItems (w :: r) ++ ']' :: rest := by
      obtain ⟨c, t, hcs, hspace, -⟩ := exists_cons_compactItems r hl.2.1 (']' :: rest)
      rw [hcs, skip_cons hspace]
    rw [compactItems, List.append_assoc, List.cons_append, items, hv]
    show items numeral fuel depth (v :: done) (skip (compactItems (w :: r) ++ ']' :: rest)) = _
    rw [hstart, hr, List.reverse_cons, List.append_assoc, List.singleton_append]

/-- So are members up to their closing brace. -/
theorem members_compact : ∀ (es : List (String × Json)), es ≠ [] → OrderedMembers es →
    LegibleMembers numeral es → ∀ (fuel depth : Nat) (done : Fields Json) (rest : List Char),
    Fields.Sorted (done ++ es) → 2 * (compactMembers es).length + 1 ≤ fuel →
    nestingMembers es ≤ depth →
    members numeral fuel depth done (compactMembers es ++ '}' :: rest) = .ok (done ++ es, rest)
  | [], hne, _, _, _, _, _, _, _, _, _ => absurd rfl hne
  | [(k, v)], _, ho, hl, fuel + 1, depth, done, rest, hsorted, hfuel, hdepth => by
    obtain ⟨body, hbody, hstring⟩ := string_quoted k (':' :: (v.compactChars ++ '}' :: rest))
    obtain ⟨c, t, hcs, hspace, -⟩ := exists_cons_compactChars hl.1
    rw [compactMembers, List.length_append, List.length_cons] at hfuel
    have hdeep : v.nesting ≤ depth := Nat.le_trans (Nat.le_max_left _ _) hdepth
    have hv := value_compact v ho.1 hl.1 fuel depth
      (follows_cons (.inr (.inr rfl)) rest) (by omega) hdeep
    have hstart : skip (v.compactChars ++ '}' :: rest) = v.compactChars ++ '}' :: rest := by
      rw [hcs, List.cons_append, skip_cons hspace]
    have hlast : ∀ e ∈ done, e.1 < k := fun e he =>
      (List.pairwise_append.1 hsorted).2.2 e he (k, v) List.mem_cons_self
    rw [compactMembers, List.append_assoc, List.cons_append, hbody,
      members_close done hstring (hstart ▸ hv), Fields.insert_append hlast]
  | (k, v) :: (l, w) :: r, _, ho, hl, fuel + 1, depth, done, rest, hsorted, hfuel, hdepth => by
    obtain ⟨body, hbody, hstring⟩ := string_quoted k
      (':' :: (v.compactChars ++ ',' :: (compactMembers ((l, w) :: r) ++ '}' :: rest)))
    obtain ⟨c, t, hcs, hspace, -⟩ := exists_cons_compactChars hl.1
    rw [compactMembers, List.length_append, List.length_cons, List.length_append,
      List.length_cons] at hfuel
    rw [nestingMembers] at hdepth
    have hv := value_compact v ho.1 hl.1 fuel depth
      (follows_cons (.inl rfl) (compactMembers ((l, w) :: r) ++ '}' :: rest)) (by omega) (by omega)
    have hlast : ∀ e ∈ done, e.1 < k := fun e he =>
      (List.pairwise_append.1 hsorted).2.2 e he (k, v) List.mem_cons_self
    -- in their order members go behind those that are read already
    have hr := members_compact ((l, w) :: r) (by simp) ho.2 hl.2 fuel depth (done ++ [(k, v)]) rest
      (by rwa [List.append_assoc]) (by omega) (by omega)
    have hstart : skip (v.compactChars ++ ',' :: (compactMembers ((l, w) :: r) ++ '}' :: rest)) =
        v.compactChars ++ ',' :: (compactMembers ((l, w) :: r) ++ '}' :: rest) := by
      rw [hcs, List.cons_append, skip_cons hspace]
    have hnext : skip (compactMembers ((l, w) :: r) ++ '}' :: rest) =
        compactMembers ((l, w) :: r) ++ '}' :: rest := by
      obtain ⟨t, ht⟩ := exists_cons_compactMembers l w r ('}' :: rest)
      rw [ht, skip_cons (by decide)]
    rw [compactMembers, List.append_assoc, List.cons_append, List.append_assoc, List.cons_append,
      hbody, members_comma done hstring (hstart ▸ hv), hnext, Fields.insert_append hlast, hr,
      List.append_assoc, List.singleton_append]

end

end Values

/-! ## Documents -/

mutual

theorem nesting_le : ∀ v : Json, v.nesting ≤ v.compactChars.length
  | .arr items => by
    have hitems := nestingItems_le items
    rw [nesting, compactChars, List.length_cons, List.length_append]
    omega
  | .obj members => by
    have hmembers := nestingMembers_le members
    rw [nesting, compactChars, List.length_cons, List.length_append]
    omega
  | .null | .bool _ | .num _ | .str _ => Nat.zero_le _

theorem nestingItems_le : ∀ vs : List Json, nestingItems vs ≤ (compactItems vs).length
  | [] => Nat.le_refl 0
  | [v] => by
    have hv := nesting_le v
    rw [nestingItems, nestingItems, compactItems]
    omega
  | v :: w :: r => by
    have hv := nesting_le v
    have hr := nestingItems_le (w :: r)
    rw [nestingItems, compactItems, List.length_append, List.length_cons]
    omega

theorem nestingMembers_le : ∀ es : List (String × Json),
    nestingMembers es ≤ (compactMembers es).length
  | [] => Nat.le_refl 0
  | [(k, v)] => by
    have hv := nesting_le v
    rw [nestingMembers, nestingMembers, compactMembers, List.length_append, List.length_cons]
    omega
  | (k, v) :: e :: r => by
    have hv := nesting_le v
    have hr := nestingMembers_le (e :: r)
    rw [nestingMembers, compactMembers, List.length_append, List.length_cons, List.length_append,
      List.length_cons]
    omega

end

/-- The value of a document that nests at most `depth` deep. -/
def readWithin? (numeral : List Char → Read Number) (depth : Nat) (text : String) : Option Json :=
  match value numeral (2 * text.toList.length + 2) depth (skip text.toList) with
  | .error _ => none
  | .ok (v, rest) => if skip rest = [] then some v else none

/-- The text of a value is a document with that value, for each reader that goes deep enough. -/
theorem readWithin?_compact {numeral : List Char → Read Number} {v : Json}
    (hordered : v.Ordered) (hlegible : v.Legible numeral) {depth : Nat}
    (hdepth : v.nesting ≤ depth) : readWithin? numeral depth v.compact = some v := by
  have hend : Follows [] := fun c hc => nomatch hc
  have hread := value_compact v hordered hlegible (2 * v.compactChars.length + 2) depth hend
    (by omega) hdepth
  obtain ⟨c, r, hcs, hspace, -⟩ := exists_cons_compactChars hlegible
  have hstart : skip v.compactChars = v.compactChars := by
    rw [hcs, skip_cons hspace]
  rw [List.append_nil] at hread
  rw [readWithin?, compact, String.toList_ofList, hstart, hread]
  rfl

/-! ## The reader of the client -/

/-- A number starts with a sign or a digit. -/
theorem exists_cons_of_number {cs back : List Char} {n : Number} (h : number cs = .ok (n, back)) :
    ∃ c r, cs = c :: r ∧ (c = '-' ∨ (Text.digit? c).isSome = true) := by
  cases cs with
  | nil => cases h
  | cons c r =>
    refine ⟨c, r, rfl, ?_⟩
    by_contra hc
    obtain ⟨hsign, hdigit⟩ := not_or.1 hc
    have hzero : ∀ t, c :: r = '0' :: t → False := by
      rintro t ⟨⟩
      exact hdigit rfl
    have hminus : ∀ t, c :: r = '-' :: t → False := by
      rintro t ⟨⟩
      exact hsign rfl
    rw [number.eq_2 _ hminus, unsignedNumber.eq_2 _ _ hzero, startsWithDigit, if_neg hdigit] at h
    cases h

/-- A number is read back in front of other text if it is on its own. -/
theorem readsBack_number {n : Number} (h : number (numberText n).toList = .ok (n, [])) :
    ReadsBack number n :=
  ⟨exists_cons_of_number h, fun hrest => number_append h hrest⟩

theorem readsBack_int {i : Int} (h : Text.fitsI64 i = true) : ReadsBack number (.int i) :=
  readsBack_number (number_ofInt h)

end CloudClient.Json
