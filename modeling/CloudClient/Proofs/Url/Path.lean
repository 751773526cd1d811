import CloudClient.Proofs.Url.Form
import CloudClient.Url

/-!
# Paths — what an address keeps of its end

Reading an address resolves dots, looks for drives and writes much of it in percent
encoding.  Names at the end of a path go through all this unchanged, whatever stands before
them and whatever the scheme.

* `IsSegment` is a part of a path that every address keeps as it is.
* `place_append`: segments behind an address are the end of its path, but for the first
  where nothing else can be the host.
-/

namespace CloudClient.Url

/-! ## Characters -/

theorem mem_percentEncode {set : Char → Bool} {cs : List Char} {c : Char}
    (h : c ∈ percentEncode set cs) : (c ∈ cs ∧ set c = false) ∨ isPercentChar c = true := by
  obtain ⟨x, hx, hc⟩ := List.mem_flatMap.1 h
  split at hc
  · obtain ⟨b, -, hb⟩ := List.mem_flatMap.1 hc
    exact .inr (isPercentChar_of_mem hb)
  · rename_i hkept
    obtain rfl := List.mem_singleton.1 hc
    simp only [Bool.or_eq_true, decide_eq_true_eq, not_or] at hkept
    exact .inl ⟨hx, Bool.eq_false_iff.2 hkept.2⟩

theorem percentEncode_append (set : Char → Bool) (front back : List Char) :
    percentEncode set (front ++ back) = percentEncode set front ++ percentEncode set back :=
  List.flatMap_append

theorem percentEncode_of_kept {set : Char → Bool} {cs : List Char}
    (h : ∀ c ∈ cs, c.toNat < 128 ∧ set c = false) : percentEncode set cs = cs := by
  induction cs with
  | nil => rfl
  | cons c cs ih =>
    obtain ⟨hascii, hset⟩ := h c List.mem_cons_self
    have hrest := ih fun x hx => h x (List.mem_cons_of_mem _ hx)
    have hkept : ¬ (decide (c.toNat ≥ 128) || set c) = true := by
      rw [hset, Bool.or_false, decide_eq_true_eq]
      omega
    show (if _ then _ else _) ++ percentEncode set cs = _
    rw [if_neg hkept, hrest]
    rfl

/-- The characters that every part of an address keeps. -/
def isUnreserved (c : Char) : Bool := c.isAlphanum || c == '_' || c == '-' || c == '.'

theorem toNat_of_isUnreserved {c : Char} (h : isUnreserved c = true) :
    0x20 < c.toNat ∧ c.toNat < 128 := by
  simp only [isUnreserved, Bool.or_eq_true, beq_iff_eq] at h
  rcases h with ((h | rfl) | rfl) | rfl
  · change ((decide (65 ≤ c.val ∧ c.val ≤ 90) || (decide (97 ≤ c.val) && decide (c.val ≤ 122))) ||
      (decide (48 ≤ c.val) && decide (c.val ≤ 57))) = true at h
    simp only [Bool.or_eq_true, Bool.and_eq_true, decide_eq_true_eq, UInt32.le_iff_toNat_le] at h
    change ((65 ≤ c.toNat ∧ c.toNat ≤ 90) ∨ (97 ≤ c.toNat ∧ c.toNat ≤ 122)) ∨
      (48 ≤ c.toNat ∧ c.toNat ≤ 57) at h
    omega
  · decide
  · decide
  · decide

theorem unreserved_table : ∀ n < 128, isUnreserved (Char.ofNat n) = true →
    pathSet (Char.ofNat n) = false ∧ controlSet (Char.ofNat n) = false ∧
      isSlash true (Char.ofNat n) = false ∧ (Char.ofNat n).toLower ≠ '%' ∧
      (Char.ofNat n ≠ '.' → (Char.ofNat n).toLower ≠ '.') := by
  decide +kernel

theorem isUnreserved_spec {c : Char} (h : isUnreserved c = true) :
    pathSet c = false ∧ controlSet c = false ∧ isSlash true c = false ∧ c.toLower ≠ '%' ∧
      (c ≠ '.' → c.toLower ≠ '.') := by
  have hc := unreserved_table c.toNat (toNat_of_isUnreserved h).2
  rw [Char.ofNat_toNat] at hc
  exact hc h

theorem ne_of_isUnreserved {c x : Char} (h : isUnreserved c = true)
    (hx : isUnreserved x = false) : c ≠ x := by
  rintro rfl
  rw [h] at hx
  cases hx

/-! ## Segments -/

/-- A part of a path that stays as it is: it is not made of dots alone, and has no signs but
a few. -/
structure IsSegment (s : String) : Prop where
  plain : ∀ c ∈ s.toList, isUnreserved c = true
  named : ∃ c ∈ s.toList, c ≠ '.'

namespace IsSegment

variable {s : String} (h : IsSegment s)

include h

theorem ne_nil : s.toList ≠ [] := by
  obtain ⟨c, hc, -⟩ := h.named
  exact List.ne_nil_of_mem hc

theorem isSlash_eq_false (special : Bool) : ∀ c ∈ s.toList, isSlash special c = false := by
  intro c hc
  have hslash := (isUnreserved_spec (h.plain c hc)).2.2.1
  cases special with
  | true => exact hslash
  | false =>
    simp only [isSlash, Bool.or_eq_false_iff] at hslash ⊢
    exact ⟨hslash.1, rfl⟩

theorem percentEncode_pathSet : percentEncode pathSet s.toList = s.toList :=
  percentEncode_of_kept fun c hc =>
    ⟨(toNat_of_isUnreserved (h.plain c hc)).2, (isUnreserved_spec (h.plain c hc)).1⟩

/-- Dot segments are made of dots and of percent encodings. -/
theorem asciiLower_ne {t : String} (ht : t.toList.all (· == '.') = true ∨ '%' ∈ t.toList) :
    Text.asciiLower s ≠ t := by
  rintro rfl
  rw [Text.asciiLower, String.toList_ofList] at ht
  rcases ht with hdots | hpercent
  · obtain ⟨c, hc, hnamed⟩ := h.named
    exact (isUnreserved_spec (h.plain c hc)).2.2.2.2 hnamed
      (beq_iff_eq.1 (List.all_eq_true.1 hdots _ (List.mem_map_of_mem hc)))
  · obtain ⟨c, hc, heq⟩ := List.mem_map.1 hpercent
    exact (isUnreserved_spec (h.plain c hc)).2.2.2.1 heq

theorem isDot_eq_false : isDot s = false := by
  have hfirst := h.asciiLower_ne (t := ".") (.inl (by decide))
  have hsecond := h.asciiLower_ne (t := "%2e") (.inr (by decide))
  simp [isDot, hfirst, hsecond]

theorem isDoubleDot_eq_false : isDoubleDot s = false := by
  have hfirst := h.asciiLower_ne (t := "..") (.inl (by decide))
  have hsecond := h.asciiLower_ne (t := ".%2e") (.inr (by decide))
  have hthird := h.asciiLower_ne (t := "%2e.") (.inr (by decide))
  have hfourth := h.asciiLower_ne (t := "%2e%2e") (.inr (by decide))
  simp [isDoubleDot, hfirst, hsecond, hthird, hfourth]

theorem isDrive_eq_false : isDrive s.toList = false := by
  unfold isDrive
  split
  · rename_i letter mark hs
    have hmark : isUnreserved mark = true := h.plain mark (by rw [hs]; simp)
    have hcolon : mark ≠ ':' := ne_of_isUnreserved hmark rfl
    have hbar : mark ≠ '|' := ne_of_isUnreserved hmark rfl
    simp [hcolon, hbar]
  · rfl

end IsSegment

/-! ## Paths -/

section Path

variable {special : Bool} {isTop : String → Bool} {segments : List String}

/-- The text of segments. -/
theorem toList_join (segments : List String) :
    (Text.join "/" segments).toList = ['/'].intercalate (segments.map String.toList) := by
  rw [Text.join, String.toList_intercalate]
  rfl

theorem mem_join {sep : String} {c : Char} (h : c ∈ (Text.join sep segments).toList) :
    c ∈ sep.toList ∨ ∃ s ∈ segments, c ∈ s.toList := by
  rw [Text.join, String.toList_intercalate] at h
  induction segments with
  | nil => cases h
  | cons s segments ih =>
    cases segments with
    | nil => exact .inr ⟨s, List.mem_cons_self, by simpa using h⟩
    | cons t segments =>
      rw [List.map_cons, List.map_cons, List.intercalate_cons_cons, List.mem_append,
        List.mem_append] at h
      rcases h with (h | h) | h
      · exact .inr ⟨s, List.mem_cons_self, h⟩
      · exact .inl h
      · rcases ih h with h | ⟨u, hu, h⟩
        · exact .inl h
        · exact .inr ⟨u, List.mem_cons_of_mem _ hu, h⟩

theorem splitAll_join (hne : segments ≠ []) (h : ∀ s ∈ segments, IsSegment s) :
    Text.splitAll (isSlash special) (Text.join "/" segments).toList =
      segments.map String.toList := by
  rw [toList_join]
  refine Text.splitAll_intercalate rfl (by simpa using hne) fun piece hpiece => ?_
  obtain ⟨s, hs, rfl⟩ := List.mem_map.1 hpiece
  exact (h s hs).isSlash_eq_false special

/-- Segments behind a slash are segments of the whole. -/
theorem segmentsOf_append (front : List Char) (hne : segments ≠ [])
    (h : ∀ s ∈ segments, IsSegment s) :
    ∃ before, segmentsOf special (front ++ '/' :: (Text.join "/" segments).toList) =
        before ++ segments ∧ (front = [] → before = []) := by
  have hencode : (segments.map String.toList).map
      (fun s => String.ofList (percentEncode pathSet s)) = segments := by
    rw [List.map_map]
    refine (List.map_congr_left fun s hs => ?_).trans (List.map_id _)
    show String.ofList (percentEncode pathSet s.toList) = s
    rw [(h s hs).percentEncode_pathSet, String.ofList_toList]
  unfold segmentsOf
  cases front with
  | nil =>
    refine ⟨[], ?_, fun _ => rfl⟩
    have hslash : isSlash special '/' = true := rfl
    dsimp only [List.nil_append]
    rw [if_pos hslash, splitAll_join hne h, hencode]
  | cons c front =>
    let body := if isSlash special c then front else c :: front
    refine ⟨(Text.splitAll (isSlash special) body).map fun s => .ofList (percentEncode pathSet s),
      ?_, nofun⟩
    have hbody : (if isSlash special c then front ++ '/' :: (Text.join "/" segments).toList
        else c :: (front ++ '/' :: (Text.join "/" segments).toList)) =
        body ++ '/' :: (Text.join "/" segments).toList := by
      by_cases hc : isSlash special c = true
      · simp only [body, if_pos hc]
      · simp only [body, if_neg hc, List.cons_append]
    dsimp only [List.cons_append]
    rw [hbody, Text.splitAll_append_cons (c := '/') rfl, splitAll_join hne h, List.map_append,
      hencode]

/-- Dots in front of segments leave them alone. -/
theorem resolveDots_segments (done : List String) (hne : segments ≠ [])
    (h : ∀ s ∈ segments, IsSegment s) :
    resolveDots isTop done segments = done.reverse ++ segments := by
  induction segments generalizing done with
  | nil => exact absurd rfl hne
  | cons s rest ih =>
    have hs := h s List.mem_cons_self
    cases rest with
    | nil =>
      rw [resolveDots, hs.isDoubleDot_eq_false, hs.isDot_eq_false]
      simp
    | cons t rest =>
      have hrest := ih (s :: done) (List.cons_ne_nil _ _) fun x hx =>
        h x (List.mem_cons_of_mem _ hx)
      rw [resolveDots, hs.isDoubleDot_eq_false, hs.isDot_eq_false]
      · simpa using hrest
      · exact List.cons_ne_nil t rest

theorem resolveDots_append (before done : List String) (hne : segments ≠ [])
    (h : ∀ s ∈ segments, IsSegment s) :
    ∃ kept, resolveDots isTop done (before ++ segments) = kept ++ segments := by
  induction before generalizing done with
  | nil => exact ⟨done.reverse, resolveDots_segments done hne h⟩
  | cons b before ih =>
    obtain ⟨t, rest, hcons⟩ := List.exists_cons_of_ne_nil
      (List.append_ne_nil_of_right_ne_nil before hne)
    rw [List.cons_append, hcons, resolveDots, ← hcons]
    · split
      · exact ih _
      · split
        · exact ih _
        · exact ih _
    · exact List.cons_ne_nil t rest

/-- The text of segments behind others. -/
theorem join_append (kept : List String) (hne : segments ≠ []) :
    (kept = [] ∧ (Text.join "/" (kept ++ segments)).toList = (Text.join "/" segments).toList) ∨
      (Text.join "/" (kept ++ segments)).toList =
        (Text.join "/" kept).toList ++ '/' :: (Text.join "/" segments).toList := by
  cases kept with
  | nil => exact .inl ⟨rfl, rfl⟩
  | cons s kept =>
    right
    induction kept generalizing s with
    | nil =>
      obtain ⟨t, rest, rfl⟩ := List.exists_cons_of_ne_nil hne
      simp [toList_join, List.intercalate_cons_cons]
    | cons t kept ih =>
      have hrest := ih t
      simp only [toList_join, List.cons_append, List.map_cons,
        List.intercalate_cons_cons] at hrest ⊢
      rw [hrest]
      simp

/-- Segments at the end of the text of a path are at the end of the path. -/
theorem pathText_append (front : List Char) (hne : segments ≠ [])
    (h : ∀ s ∈ segments, IsSegment s) :
    ∃ before, (pathText special (front ++ '/' :: (Text.join "/" segments).toList)).toList =
      before ++ '/' :: (Text.join "/" segments).toList := by
  obtain ⟨before, hsegments, -⟩ := @segmentsOf_append special segments front hne h
  obtain ⟨kept, hkept⟩ := @resolveDots_append (fun _ => false) segments before [] hne h
  rw [pathText, hsegments, hkept, String.toList_append]
  rcases join_append kept hne with ⟨-, hjoin⟩ | hjoin
  · exact ⟨[], by rw [hjoin]; rfl⟩
  · exact ⟨"/".toList ++ (Text.join "/" kept).toList, by rw [hjoin, List.append_assoc]⟩

/-- A path of nothing but segments. -/
theorem pathText_segments (hne : segments ≠ []) (h : ∀ s ∈ segments, IsSegment s) :
    (pathText special ('/' :: (Text.join "/" segments).toList)).toList =
      '/' :: (Text.join "/" segments).toList := by
  obtain ⟨before, hsegments, hbefore⟩ := @segmentsOf_append special segments [] hne h
  rw [List.nil_append] at hsegments
  rw [pathText, hsegments, hbefore rfl, List.nil_append, resolveDots_segments [] hne h,
    String.toList_append]
  rfl

theorem dropWhile_slashes (front : List Char) {c : Char} (hc : c ≠ '/') (rest : List Char) :
    ∃ before, '/' :: (front ++ '/' :: c :: rest).dropWhile (· == '/') =
      before ++ '/' :: c :: rest := by
  induction front with
  | nil => exact ⟨[], by simp [hc]⟩
  | cons x front ih =>
    by_cases hx : x = '/'
    · subst hx
      exact ih
    · exact ⟨'/' :: x :: front, by simp [hx]⟩

theorem exists_cons_join (hne : segments ≠ []) (h : ∀ s ∈ segments, IsSegment s) :
    ∃ c rest, (Text.join "/" segments).toList = c :: rest ∧ c ≠ '/' := by
  obtain ⟨s, segments, rfl⟩ := List.exists_cons_of_ne_nil hne
  have hs := h s List.mem_cons_self
  obtain ⟨c, cs, hcons⟩ := List.exists_cons_of_ne_nil hs.ne_nil
  have hc : c ≠ '/' := ne_of_isUnreserved (hs.plain c (by rw [hcons]; exact List.mem_cons_self)) rfl
  rw [toList_join, List.map_cons, hcons]
  cases segments with
  | nil => exact ⟨c, cs, by simp, hc⟩
  | cons t segments => exact ⟨c, _, by rw [List.map_cons, List.intercalate_cons_cons]; rfl, hc⟩

/-- Resolved and without slashes at its start, a path ends with its last segments. -/
theorem trimmed_append (before : List String) (hne : segments ≠ [])
    (h : ∀ s ∈ segments, IsSegment s) :
    ∃ front, '/' :: (Text.join "/" (resolveDots isTop [] (before ++ segments))).toList.dropWhile
        (· == '/') = front ++ '/' :: (Text.join "/" segments).toList ∧
      (before = [] → front = []) := by
  obtain ⟨c, rest, hcons, hc⟩ := exists_cons_join hne h
  cases before with
  | nil =>
    refine ⟨[], ?_, fun _ => rfl⟩
    rw [List.nil_append, resolveDots_segments [] hne h, List.reverse_nil, List.nil_append, hcons]
    simp [hc]
  | cons b before =>
    obtain ⟨kept, hkept⟩ := @resolveDots_append isTop segments (b :: before) [] hne h
    rw [hkept]
    rcases join_append kept hne with ⟨-, hjoin⟩ | hjoin
    · refine ⟨[], ?_, nofun⟩
      rw [hjoin, hcons]
      simp [hc]
    · obtain ⟨front, hfront⟩ := dropWhile_slashes (Text.join "/" kept).toList hc rest
      refine ⟨front, ?_, nofun⟩
      rw [hjoin, hcons, hfront]

theorem filePath_append (before : List String) (hne : segments ≠ [])
    (h : ∀ s ∈ segments, IsSegment s) :
    ∃ front, (filePath (before ++ segments)).toList =
        front ++ '/' :: (Text.join "/" segments).toList ∧ (before = [] → front = []) := by
  let isTop (s : String) : Bool := isDrive s.toList && s.toList.contains ':'
  cases before with
  | nil =>
    -- a drive at the start is none of the segments
    obtain ⟨s, rest, rfl⟩ := List.exists_cons_of_ne_nil hne
    have hdrive : driveText s = s := by
      rw [driveText, (h s List.mem_cons_self).isDrive_eq_false]
      rfl
    have htrimmed := @trimmed_append isTop (s :: rest) [] hne h
    show ∃ front, (String.ofList ('/' :: (Text.join "/"
      (resolveDots isTop [] (driveText s :: rest))).toList.dropWhile _)).toList = _ ∧ _
    rw [hdrive, String.toList_ofList]
    exact htrimmed
  | cons b before =>
    obtain ⟨front, hfront, -⟩ := @trimmed_append isTop segments (driveText b :: before) hne h
    refine ⟨front, ?_, nofun⟩
    show (String.ofList ('/' :: (Text.join "/"
      (resolveDots isTop [] (driveText b :: before ++ segments))).toList.dropWhile _)).toList = _
    rw [String.toList_ofList]
    exact hfront

end Path

/-! ## Places -/

theorem drop_length_takeWhile (p : Char → Bool) (cs : List Char) :
    cs.drop (cs.takeWhile p).length = cs.dropWhile p := by
  induction cs with
  | nil => rfl
  | cons c cs ih =>
    by_cases hc : p c = true
    · simpa [hc] using ih
    · simp [hc]

theorem dropWhile_upTo {p : Char → Bool} {x : Char} (hx : p x = false) (front rest : List Char) :
    (front ++ x :: rest).dropWhile p = front.dropWhile p ++ x :: rest := by
  induction front with
  | nil => simp [hx]
  | cons c front ih =>
    by_cases hc : p c = true
    · simpa [hc] using ih
    · simp [hc]

theorem dropWhile_past {p : Char → Bool} {x c : Char} (hx : p x = true) (hc : p c = false)
    (front rest : List Char) :
    (front ++ x :: c :: rest).dropWhile p = c :: rest ∨
      ∃ before, (front ++ x :: c :: rest).dropWhile p = before ++ x :: c :: rest := by
  induction front with
  | nil => exact .inl (by simp [hx, hc])
  | cons d front ih =>
    by_cases hd : p d = true
    · simpa [hd] using ih
    · exact .inr ⟨d :: front, by simp [hd]⟩

def fileParts (cs : List Char) : List Char × List Char :=
  match cs with
  | a :: b :: rest =>
    let host := rest.takeWhile fun c => !isSlash true c
    if !isSlash true a || !isSlash true b then ([], cs)
    else if isDrive host then ([], rest)
    else (host, rest.drop host.length)
  | _ => ([], cs)

theorem fileParts_cons (a b : Char) (rest : List Char) :
    fileParts (a :: b :: rest) =
      if !isSlash true a || !isSlash true b then ([], a :: b :: rest)
      else if isDrive (rest.takeWhile fun c => !isSlash true c) then ([], rest)
      else (rest.takeWhile fun c => !isSlash true c,
        rest.dropWhile fun c => !isSlash true c) := by
  rw [← drop_length_takeWhile]
  rfl

theorem filePlace_ok {cs : List Char} {authority : Option Authority} {path : String}
    (h : filePlace cs = .ok (authority, path)) :
    path = filePath (segmentsOf true (fileParts cs).2) ∧
      ∃ host, authority = some ⟨"", "", host, none⟩ ∧
        (host = "" ∨ domainHost (fileParts cs).1 = .ok host) := by
  let found (host : String) : Option Authority × String :=
    let hasDrive := (segmentsOf true (fileParts cs).2).head?.any (isDrive ·.toList)
    (some ⟨"", "", if hasDrive || host == "localhost" then "" else host, none⟩,
      filePath (segmentsOf true (fileParts cs).2))
  have hplace : filePlace cs =
      if (fileParts cs).1.isEmpty then .ok (found "")
      else (domainHost (fileParts cs).1).map found := by
    rfl
  -- a host is dropped or stays as it is
  have hhost (host : String) (hfound : found host = (authority, path))
      (hcases : host = "" ∨ domainHost (fileParts cs).1 = .ok host) :
      path = filePath (segmentsOf true (fileParts cs).2) ∧
        ∃ host, authority = some ⟨"", "", host, none⟩ ∧
          (host = "" ∨ domainHost (fileParts cs).1 = .ok host) := by
    obtain ⟨rfl, rfl⟩ := Prod.mk.inj hfound
    refine ⟨rfl, _, rfl, ?_⟩
    split
    · exact .inl rfl
    · exact hcases
  rw [hplace] at h
  split at h
  · exact hhost "" (Except.ok.inj h) (.inl rfl)
  · cases hdomain : domainHost (fileParts cs).1 with
    | error e =>
      rw [hdomain] at h
      cases h
    | ok host =>
      rw [hdomain] at h
      rw [hdomain] at hhost
      exact hhost host (Except.ok.inj h) (.inr rfl)

theorem hostPlace_ok {scheme : String} {cs : List Char} {authority : Option Authority}
    {path : String} (h : hostPlace scheme cs = .ok (authority, path)) :
    (∃ a, authority = some a ∧ authorityOf scheme
        (cs.takeWhile fun c => !isSlash (isSpecial scheme) c) = .ok a) ∧
      path = if !isSpecial scheme && (cs.dropWhile fun c => !isSlash (isSpecial scheme) c).isEmpty
        then "" else
          pathText (isSpecial scheme) (cs.dropWhile fun c => !isSlash (isSpecial scheme) c) := by
  unfold hostPlace at h
  cases hauthority : authorityOf scheme
      (cs.takeWhile fun c => !isSlash (isSpecial scheme) c) with
  | error e =>
    simp only [hauthority] at h
    cases h
  | ok a =>
    simp only [hauthority] at h
    obtain ⟨rfl, rfl⟩ := Prod.mk.inj (Except.ok.inj h)
    exact ⟨⟨a, rfl, rfl⟩, rfl⟩

section Place

variable {scheme : String} {first : String} {rest : List String} {authority : Option Authority}
  {path : String}

/-- The text of a path that is behind an address. -/
def tailText (first : String) (rest : List String) : List Char :=
  (Text.join "/" (first :: rest)).toList

theorem tailText_eq (hrest : rest ≠ []) :
    tailText first rest = first.toList ++ '/' :: (Text.join "/" rest).toList := by
  obtain ⟨t, rest, rfl⟩ := List.exists_cons_of_ne_nil hrest
  simp [tailText, toList_join, List.intercalate_cons_cons]

theorem dropWhile_tailText {special : Bool} (hfirst : IsSegment first) (hrest : rest ≠ []) :
    (tailText first rest).dropWhile (fun c => !isSlash special c) =
      '/' :: (Text.join "/" rest).toList := by
  have hskip : ∀ c ∈ first.toList, (!isSlash special c) = true := fun c hc => by
    rw [hfirst.isSlash_eq_false special c hc]
    rfl
  rw [tailText_eq hrest, List.dropWhile_append_of_pos hskip]
  rfl

theorem takeWhile_tailText {special : Bool} (hfirst : IsSegment first) (hrest : rest ≠ []) :
    (tailText first rest).takeWhile (fun c => !isSlash special c) = first.toList := by
  have hskip : ∀ c ∈ first.toList, (!isSlash special c) = true := fun c hc => by
    rw [hfirst.isSlash_eq_false special c hc]
    rfl
  rw [tailText_eq hrest, List.takeWhile_append_of_pos hskip]
  simp [isSlash]

variable (h : ∀ s ∈ first :: rest, IsSegment s)

include h

theorem mem_tailText {c : Char} (hc : c ∈ tailText first rest) :
    c = '/' ∨ isUnreserved c = true := by
  rcases mem_join hc with hc | ⟨s, hs, hc⟩
  · exact .inl (List.mem_singleton.1 hc)
  · exact .inr ((h s hs).plain c hc)

theorem hostPlace_append (front : List Char)
    (hplace : hostPlace scheme (front ++ '/' :: tailText first rest) = .ok (authority, path)) :
    ∃ before, path.toList = before ++ '/' :: tailText first rest := by
  obtain ⟨-, rfl⟩ := hostPlace_ok hplace
  have hbefore := @dropWhile_upTo (fun c => !isSlash (isSpecial scheme) c) '/' rfl front
    (tailText first rest)
  generalize front.dropWhile _ = before at hbefore
  have hnonempty : (before ++ '/' :: tailText first rest).isEmpty = false := by
    cases before <;> rfl
  rw [hbefore, hnonempty, Bool.and_false]
  exact pathText_append before (List.cons_ne_nil first rest) h

variable (hrest : rest ≠ [])

include hrest

/-- The first segment is the host where nothing but slashes stands before it. -/
theorem hostPlace_tailText
    (hplace : hostPlace scheme (tailText first rest) = .ok (authority, path)) :
    path.toList = '/' :: (Text.join "/" rest).toList := by
  obtain ⟨-, rfl⟩ := hostPlace_ok hplace
  rw [dropWhile_tailText (h first List.mem_cons_self) hrest, List.isEmpty_cons, Bool.and_false]
  exact pathText_segments hrest fun s hs => h s (List.mem_cons_of_mem _ hs)

theorem exists_cons_tailText : ∃ c cs, tailText first rest = c :: cs ∧ c ≠ '/' ∧
    isSlash true c = false := by
  have hfirst := h first List.mem_cons_self
  obtain ⟨c, cs, hcons⟩ := List.exists_cons_of_ne_nil hfirst.ne_nil
  have hmem : c ∈ first.toList := by
    rw [hcons]
    exact List.mem_cons_self
  refine ⟨c, cs ++ '/' :: (Text.join "/" rest).toList, ?_, ?_, hfirst.isSlash_eq_false true c hmem⟩
  · rw [tailText_eq hrest, hcons]
    rfl
  · exact ne_of_isUnreserved (hfirst.plain c hmem) rfl

theorem fileParts_append (front : List Char) :
    (∃ before, (fileParts (front ++ '/' :: tailText first rest)).2 =
        before ++ '/' :: tailText first rest) ∨
      (fileParts (front ++ '/' :: tailText first rest)).2 =
        '/' :: (Text.join "/" rest).toList := by
  have hfirst := h first List.mem_cons_self
  obtain ⟨c, cs, hcons, -, hc⟩ := exists_cons_tailText h hrest
  match front with
  | [] =>
    -- the second character is no slash
    left
    refine ⟨[], ?_⟩
    rw [List.nil_append, hcons, fileParts_cons, hc]
    simp
  | [a] =>
    rw [List.singleton_append, fileParts_cons, dropWhile_tailText hfirst hrest,
      takeWhile_tailText hfirst hrest, hfirst.isDrive_eq_false]
    by_cases ha : isSlash true a = true
    · right
      have hslash : isSlash true '/' = true := rfl
      rw [ha, hslash]
      rfl
    · left
      refine ⟨[a], ?_⟩
      simp [ha]
  | a :: b :: front =>
    left
    rw [List.cons_append, List.cons_append, fileParts_cons]
    split
    · exact ⟨a :: b :: front, rfl⟩
    split
    · exact ⟨front, rfl⟩
    · exact ⟨_, dropWhile_upTo rfl front _⟩

theorem filePlace_append (front : List Char)
    (hplace : filePlace (front ++ '/' :: tailText first rest) = .ok (authority, path)) :
    (∃ before, path.toList = before ++ '/' :: tailText first rest) ∨
      path.toList = '/' :: (Text.join "/" rest).toList := by
  obtain ⟨rfl, -⟩ := filePlace_ok hplace
  rcases fileParts_append h hrest front with ⟨before, hparts⟩ | hparts
  · left
    obtain ⟨segments, hsegments, -⟩ := @segmentsOf_append true (first :: rest) before
      (List.cons_ne_nil _ _) h
    obtain ⟨front', hpath, -⟩ := filePath_append segments (List.cons_ne_nil first rest) h
    refine ⟨front', ?_⟩
    rw [hparts]
    unfold tailText
    rw [hsegments, hpath]
  · right
    have hsegments := fun s hs => h s (List.mem_cons_of_mem first hs)
    obtain ⟨segments, hsegments', hnone⟩ := @segmentsOf_append true rest [] hrest hsegments
    obtain ⟨front', hpath, hfront⟩ := filePath_append segments hrest hsegments
    rw [List.nil_append] at hsegments'
    rw [hparts, hsegments', hpath, hfront (hnone rfl)]
    rfl

/-- Segments that stand behind an address are at the end of its path, but for the first where
it is taken for the host. -/
theorem place_append (front : List Char)
    (hplace : place scheme (front ++ '/' :: tailText first rest) = .ok (authority, path)) :
    (∃ before, path.toList = before ++ '/' :: tailText first rest) ∨
      path.toList = '/' :: (Text.join "/" rest).toList := by
  obtain ⟨c, cs, hcons, hslash, hc⟩ := exists_cons_tailText h hrest
  unfold place at hplace
  split at hplace
  · exact filePlace_append h hrest front hplace
  split at hplace
  · -- all slashes in front of the authority are dropped
    have hpast := @dropWhile_past (isSlash true) '/' c rfl hc front cs
    rw [← hcons] at hpast
    rcases hpast with hdrop | ⟨before, hdrop⟩
    · rw [hdrop] at hplace
      exact .inr (hostPlace_tailText h hrest hplace)
    · rw [hdrop] at hplace
      exact .inl (hostPlace_append h before hplace)
  · -- any other scheme has an authority behind two slashes only
    split at hplace
    · rename_i hcs
      match front, hcs with
      | [], hcs =>
        rw [List.nil_append, hcons] at hcs
        exact absurd (List.cons.inj (List.cons.inj hcs).2).1 hslash
      | [a], hcs =>
        have hrest' := (List.cons.inj (List.cons.inj hcs).2).2
        rw [← hrest'] at hplace
        exact .inr (hostPlace_tailText h hrest hplace)
      | a :: b :: front, hcs =>
        have hrest' := (List.cons.inj (List.cons.inj hcs).2).2
        rw [← hrest'] at hplace
        exact .inl (hostPlace_append h front hplace)
    · obtain ⟨-, rfl⟩ := Prod.mk.inj (Except.ok.inj hplace)
      exact .inl (pathText_append front (List.cons_ne_nil first rest) h)
    · obtain ⟨-, rfl⟩ := Prod.mk.inj (Except.ok.inj hplace)
      refine .inl ⟨percentEncode controlSet front, ?_⟩
      rw [String.toList_ofList, percentEncode_append]
      congr 1
      refine percentEncode_of_kept fun x hx => ?_
      rcases List.mem_cons.1 hx with rfl | hx
      · decide
      · rcases mem_tailText h hx with rfl | hplain
        · decide
        · exact ⟨(toNat_of_isUnreserved hplain).2, (isUnreserved_spec hplain).2.1⟩

end Place

end CloudClient.Url
