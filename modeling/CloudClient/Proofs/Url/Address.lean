import CloudClient.Proofs.Text.Numeral
import CloudClient.Proofs.Url.Path

/-!
# Addresses — path and query in their text

Who gets the text of an address finds its path and its query in it: neither host nor login
holds a slash or a question mark, and no path holds a question mark.

* `writtenPath` and `writtenQuery` look for them in a text.
* `writtenQuery_append`: a query that is added to an address is found in its text.
* `writtenPath_append`: so are names that end its path.
-/

namespace CloudClient.Url

/-! ## Reading the text -/

/-- What follows the authority, if there is one behind two slashes. -/
def behindAuthority : List Char → List Char
  | '/' :: '/' :: rest => rest.dropWhile (· != '/')
  | cs => cs

/-- The path in the text of an address: what is left before the query without scheme and
authority. -/
def writtenPath (address : String) : List Char :=
  behindAuthority ((cut ':' (cut '?' address.toList).1).2.getD [])

def writtenQuery (address : String) : String := .ofList ((cut '?' address.toList).2.getD [])

theorem cut_of_forall_ne {x : Char} {cs : List Char} (h : ∀ c ∈ cs, c ≠ x) :
    cut x cs = (cs, none) := by
  have hnone : Text.splitOnce? (· == x) cs = none :=
    Text.splitOnce?_eq_none_iff.2 fun c hc => beq_false_of_ne (h c hc)
  rw [cut, hnone]

theorem cut_append {x : Char} {front : List Char} (h : ∀ c ∈ front, c ≠ x) (rest : List Char) :
    cut x (front ++ x :: rest) = (front, some rest) := by
  have hsplit := @Text.splitOnce?_append (· == x) front x
    (fun c hc => beq_false_of_ne (h c hc)) (beq_self_eq_true x) rest
  rw [cut, hsplit]

/-! ## Hosts and logins -/

/-- A character that ends neither the authority of an address nor its path. -/
def isInner (c : Char) : Bool := c != '/' && c != '?'

def Inner (s : String) : Prop := ∀ c ∈ s.toList, isInner c = true

instance (s : String) : Decidable (Inner s) :=
  List.decidableBAll (fun c => isInner c = true) s.toList

theorem inner_ofList {cs : List Char} : Inner (.ofList cs) ↔ ∀ c ∈ cs, isInner c = true := by
  rw [Inner, String.toList_ofList]

/-- What a set of characters leaves out is inner if the set has both ends in it. -/
theorem isInner_of_eq_false {set : Char → Bool} {c : Char} (h : set c = false)
    (hslash : set '/' = true) (hmark : set '?' = true) : isInner c = true := by
  have hne {x : Char} (hx : set x = true) : c ≠ x := by
    rintro rfl
    rw [h] at hx
    cases hx
  simp [isInner, hne hslash, hne hmark]

theorem isInner_percentEncode {set : Char → Bool} {cs : List Char}
    (h : ∀ c ∈ cs, set c = false → isInner c = true) :
    ∀ c ∈ percentEncode set cs, isInner c = true := by
  intro c hc
  rcases mem_percentEncode hc with ⟨hmem, hset⟩ | hpercent
  · exact h c hmem hset
  · exact @isInner_of_eq_false (fun c => !isPercentChar c) c (by simp [hpercent]) rfl rfl

theorem isInner_digitChar : ∀ n < 16, isInner (Nat.digitChar n) = true := by
  decide

theorem isInner_toDigits (n : Nat) : ∀ c ∈ Nat.toDigits 16 n, isInner c = true := by
  induction n using Nat.strongRecOn with
  | ind n ih =>
    rw [Nat.toDigits_eq_if (by decide)]
    split
    · rename_i hlt
      intro c hc
      rw [List.mem_singleton.1 hc]
      exact isInner_digitChar n hlt
    · rename_i hle
      intro c hc
      rcases List.mem_append.1 hc with hc | hc
      · exact ih (n / 16) (by omega) c hc
      · rw [List.mem_singleton.1 hc]
        exact isInner_digitChar _ (by omega)

theorem inner_ofNat (n : Nat) : Inner (Text.ofNat n) := by
  intro c hc
  rw [Text.ofNat, String.toList_ofList] at hc
  have hdigit := Text.isDigit_toDigits c hc
  exact @isInner_of_eq_false (fun c => !c.isDigit) c (by simp [hdigit]) rfl rfl

theorem inner_join {sep : String} (hsep : Inner sep) {pieces : List String}
    (h : ∀ s ∈ pieces, Inner s) : Inner (Text.join sep pieces) := by
  intro c hc
  rcases mem_join hc with hc | ⟨s, hs, hc⟩
  · exact hsep c hc
  · exact h s hs c hc

theorem inner_append {a b : String} (ha : Inner a) (hb : Inner b) : Inner (a ++ b) := by
  intro c hc
  rw [String.toList_append, List.mem_append] at hc
  exact hc.elim (ha c) (hb c)

theorem inner_colonText (pieces : List Nat) : Inner (colonText pieces) := by
  have hside (ns : List Nat) : Inner (Text.join ":" (ns.map hexText)) := by
    refine inner_join (by decide) fun s hs => ?_
    obtain ⟨n, -, rfl⟩ := List.mem_map.1 hs
    exact inner_ofList.2 (isInner_toDigits n)
  unfold colonText
  dsimp only
  split
  · exact hside pieces
  · exact inner_append (inner_append (hside _) (by decide)) (hside _)

theorem inner_dottedText (n : Nat) : Inner (dottedText n) := by
  refine inner_join (by decide) fun s hs => ?_
  obtain ⟨part, -, rfl⟩ := List.mem_map.1 hs
  exact inner_ofNat part

theorem inner_bracketHost {cs : List Char} {host : String} (h : bracketHost cs = .ok host) :
    Inner host := by
  unfold bracketHost at h
  split at h
  · rename_i pieces _
    obtain rfl := Except.ok.inj h
    exact inner_append (inner_append (by decide) (inner_colonText pieces)) (by decide)
  · cases h

theorem inner_domainHost {cs : List Char} {host : String} (h : domainHost cs = .ok host) :
    Inner host := by
  unfold domainHost at h
  split at h
  · exact inner_bracketHost h
  split at h
  · cases h
  · rename_i domain hdomain
    split at h
    · cases h
    split at h
    · split at h
      · rename_i n _
        obtain rfl := Except.ok.inj h
        exact inner_dottedText n
      · cases h
    · obtain rfl := Except.ok.inj h
      rw [inner_ofList]
      obtain ⟨-, hallowed⟩ := Option.filter_eq_some_iff.1 hdomain
      intro c hc
      have hchar : forbiddenInDomain c = false := by
        simpa using (List.any_eq_false.1 (by simpa using hallowed)) c hc
      exact isInner_of_eq_false hchar rfl rfl

theorem inner_opaqueHost {cs : List Char} {host : String} (h : opaqueHost cs = .ok host) :
    Inner host := by
  unfold opaqueHost at h
  split at h
  · exact inner_bracketHost h
  split at h
  · cases h
  · rename_i hallowed
    obtain rfl := Except.ok.inj h
    rw [inner_ofList]
    refine isInner_percentEncode fun c hc _ => ?_
    have hchar : forbiddenInHost c = false := by
      simpa using (List.any_eq_false.1 (Bool.eq_false_iff.2 hallowed)) c hc
    exact isInner_of_eq_false hchar rfl rfl

theorem inner_text {a : Authority} (huser : Inner a.user) (hpassword : Inner a.password)
    (hhost : Inner a.host) : Inner a.text := by
  have hempty : Inner "" := by decide
  have hsecret : Inner (if a.password.isEmpty then "" else ":" ++ a.password) := by
    split
    · exact hempty
    · exact inner_append (by decide) hpassword
  have hlogin (login : String) (h : Inner login) :
      Inner (if login.isEmpty then "" else login ++ "@") := by
    split
    · exact hempty
    · exact inner_append h (by decide)
  have hport (port : String) (h : Inner port) :
      Inner ((if (a.user ++ if a.password.isEmpty then "" else ":" ++ a.password).isEmpty then ""
        else (a.user ++ if a.password.isEmpty then "" else ":" ++ a.password) ++ "@") ++ a.host ++
          port) :=
    inner_append (inner_append (hlogin _ (inner_append huser hsecret)) hhost) h
  unfold Authority.text
  cases a.port with
  | none => exact hport "" hempty
  | some n => exact hport _ (inner_append (by decide) (inner_ofNat n))

theorem authorityOf_ok {scheme : String} {cs : List Char} {a : Authority}
    (h : authorityOf scheme cs = .ok a) :
    ∃ user password host, a.user = .ofList (percentEncode userSet user) ∧
      a.password = .ofList (percentEncode userSet password) ∧
      (domainHost host = .ok a.host ∨ opaqueHost host = .ok a.host) := by
  unfold authorityOf at h
  simp only [bind, Except.bind] at h
  split at h
  · cases h
  split at h
  · split at h
    · cases h
    · rename_i host hhost
      split at h
      · cases h
      · obtain rfl := Except.ok.inj h
        exact ⟨_, _, _, rfl, rfl, .inl hhost⟩
  · split at h
    · cases h
    · rename_i host hhost
      split at h
      · cases h
      · obtain rfl := Except.ok.inj h
        exact ⟨_, _, _, rfl, rfl, .inr hhost⟩

theorem inner_authorityOf {scheme : String} {cs : List Char} {a : Authority}
    (h : authorityOf scheme cs = .ok a) : Inner a.text := by
  obtain ⟨user, password, host, huser, hpassword, hhost⟩ := authorityOf_ok h
  have hlogin (cs : List Char) : Inner (String.ofList (percentEncode userSet cs)) := by
    rw [inner_ofList]
    exact isInner_percentEncode fun c _ hc => isInner_of_eq_false hc rfl rfl
  refine inner_text ?_ ?_ ?_
  · rw [huser]
    exact hlogin user
  · rw [hpassword]
    exact hlogin password
  · exact hhost.elim inner_domainHost inner_opaqueHost

/-! ## Paths -/

theorem ne_mark_percentEncode {set : Char → Bool} {cs : List Char}
    (h : set '?' = true ∨ ∀ c ∈ cs, c ≠ '?') : ∀ c ∈ percentEncode set cs, c ≠ '?' := by
  intro c hc
  rcases mem_percentEncode hc with ⟨hmem, hset⟩ | hpercent
  · rcases h with hmark | hnone
    · rintro rfl
      rw [hmark] at hset
      cases hset
    · exact hnone c hmem
  · exact Form.ne_of_isPercentChar hpercent rfl

section Resolve

variable {P : String → Prop} {isTop : String → Bool} {done segments : List String}

theorem forall_mem_above (h : ∀ s ∈ done, P s) : ∀ s ∈ above isTop done, P s := by
  unfold above
  split
  · exact h
  · exact fun s hs => h s (List.mem_of_mem_tail hs)

/-- Resolving dots adds nothing but an empty name. -/
theorem forall_mem_resolveDots (hempty : P "") (hdone : ∀ s ∈ done, P s)
    (hsegments : ∀ s ∈ segments, P s) : ∀ s ∈ resolveDots isTop done segments, P s := by
  fun_induction resolveDots isTop done segments with
  | case1 done => exact fun s hs => hdone s (List.mem_reverse.1 hs)
  | case2 done last _ =>
    have hall := List.forall_mem_cons.2 ⟨hempty, @forall_mem_above P isTop done hdone⟩
    exact fun s hs => hall s (List.mem_reverse.1 hs)
  | case3 done last _ _ =>
    have hall := List.forall_mem_cons.2 ⟨hempty, hdone⟩
    exact fun s hs => hall s (List.mem_reverse.1 hs)
  | case4 done last _ _ =>
    have hall := List.forall_mem_cons.2 ⟨hsegments last List.mem_cons_self, hdone⟩
    exact fun s hs => hall s (List.mem_reverse.1 hs)
  | case5 done segment rest _ _ ih =>
    exact ih (forall_mem_above hdone) (List.forall_mem_cons.1 hsegments).2
  | case6 done segment rest _ _ _ ih =>
    exact ih hdone (List.forall_mem_cons.1 hsegments).2
  | case7 done segment rest _ _ _ ih =>
    obtain ⟨hsegment, hrest⟩ := List.forall_mem_cons.1 hsegments
    exact ih (List.forall_mem_cons.2 ⟨hsegment, hdone⟩) hrest

end Resolve

/-- Names without a question mark make a path without one. -/
theorem ne_mark_join {isTop : String → Bool} {segments : List String}
    (h : ∀ s ∈ segments, ∀ c ∈ s.toList, c ≠ '?') :
    ∀ c ∈ (Text.join "/" (resolveDots isTop [] segments)).toList, c ≠ '?' := by
  intro c hc
  rcases mem_join hc with hc | ⟨s, hs, hc⟩
  · rw [List.mem_singleton.1 hc]
    decide
  · have hall : ∀ s ∈ resolveDots isTop [] segments, ∀ c ∈ s.toList, c ≠ '?' := by
      refine forall_mem_resolveDots ?_ ?_ h
      · exact fun c hc => absurd hc List.not_mem_nil
      · exact fun s hs => absurd hs List.not_mem_nil
    exact hall s hs c hc

theorem ne_mark_segmentsOf {special : Bool} {cs : List Char} :
    ∀ s ∈ segmentsOf special cs, ∀ c ∈ s.toList, c ≠ '?' := by
  intro s hs
  obtain ⟨piece, -, rfl⟩ := List.mem_map.1 hs
  rw [String.toList_ofList]
  exact ne_mark_percentEncode (.inl rfl)

theorem ne_mark_pathText {special : Bool} {cs : List Char} :
    ∀ c ∈ (pathText special cs).toList, c ≠ '?' := by
  intro c hc
  rw [pathText, String.toList_append, List.mem_append] at hc
  rcases hc with hc | hc
  · rw [List.mem_singleton.1 hc]
    decide
  · exact ne_mark_join ne_mark_segmentsOf c hc

theorem ne_mark_filePath {segments : List String} (h : ∀ s ∈ segments, ∀ c ∈ s.toList, c ≠ '?') :
    ∀ c ∈ (filePath segments).toList, c ≠ '?' := by
  have hdrive : ∀ s ∈ segments, ∀ c ∈ (driveText s).toList, c ≠ '?' := by
    intro s hs c hc
    unfold driveText at hc
    split at hc
    · rw [String.toList_ofList, List.mem_append] at hc
      rcases hc with hc | hc
      · exact h s hs c (List.mem_of_mem_take hc)
      · rw [List.mem_singleton.1 hc]
        decide
    · exact h s hs c hc
  have hkept {isTop : String → Bool} {segments : List String}
      (h : ∀ s ∈ segments, ∀ c ∈ s.toList, c ≠ '?') : ∀ c ∈ '/' :: ((Text.join "/"
        (resolveDots isTop [] segments)).toList.dropWhile (· == '/')), c ≠ '?' := by
    refine List.forall_mem_cons.2 ⟨by decide, fun c hc => ?_⟩
    exact ne_mark_join h c ((List.dropWhile_sublist _).mem hc)
  unfold filePath
  dsimp only
  rw [String.toList_ofList]
  cases segments with
  | nil => exact hkept h
  | cons first rest =>
    refine hkept (List.forall_mem_cons.2 ⟨hdrive first List.mem_cons_self, ?_⟩)
    exact fun s hs => h s (List.mem_cons_of_mem _ hs)

/-- What stands before a query holds no question mark, and its authority no slash. -/
theorem place_ok {scheme : String} {cs : List Char} {authority : Option Authority}
    {path : String} (hcs : ∀ c ∈ cs, c ≠ '?')
    (h : place scheme cs = .ok (authority, path)) :
    (∀ c ∈ path.toList, c ≠ '?') ∧
      ∀ a, authority = some a → Inner a.text := by
  have hhost {cs : List Char} (h : hostPlace scheme cs = .ok (authority, path)) :
      (∀ c ∈ path.toList, c ≠ '?') ∧
        ∀ a, authority = some a → Inner a.text := by
    obtain ⟨⟨a, rfl, ha⟩, rfl⟩ := hostPlace_ok h
    constructor
    · split
      · exact fun c hc => absurd hc List.not_mem_nil
      · exact ne_mark_pathText
    · rintro _ ⟨⟩
      exact inner_authorityOf ha
  unfold place at h
  split at h
  · obtain ⟨rfl, host, rfl, hdomain⟩ := filePlace_ok h
    refine ⟨ne_mark_filePath ne_mark_segmentsOf, ?_⟩
    have hempty : Inner "" := by decide
    rintro _ ⟨⟩
    refine inner_text hempty hempty ?_
    rcases hdomain with rfl | hdomain
    · exact hempty
    · exact inner_domainHost hdomain
  split at h
  · exact hhost h
  split at h
  · exact hhost h
  · obtain ⟨rfl, rfl⟩ := Prod.mk.inj (Except.ok.inj h)
    exact ⟨ne_mark_pathText, nofun⟩
  · obtain ⟨rfl, rfl⟩ := Prod.mk.inj (Except.ok.inj h)
    rw [String.toList_ofList]
    exact ⟨ne_mark_percentEncode (.inr hcs), nofun⟩

/-! ## Whole addresses -/

theorem scheme_table : ∀ n < 128, isSchemeChar (Char.ofNat n) = true →
    (Char.ofNat n).toLower ≠ ':' ∧ (Char.ofNat n).toLower ≠ '?' := by
  decide +kernel

theorem ne_of_isSchemeChar {c : Char} (h : isSchemeChar c = true) :
    c.toLower ≠ ':' ∧ c.toLower ≠ '?' := by
  have hascii : c.toNat < 128 := by
    by_cases hplus : c = '+'
    · subst hplus
      decide
    · refine (toNat_of_isUnreserved ?_).2
      have hsigns : ((c.isAlphanum ∨ c = '+') ∨ c = '-') ∨ c = '.' := by
        simpa [isSchemeChar] using h
      rcases hsigns with ((hc | hc) | hc) | hc
      · simp [isUnreserved, hc]
      · exact absurd hc hplus
      · simp [isUnreserved, hc]
      · simp [isUnreserved, hc]
  have hc := scheme_table c.toNat hascii
  rw [Char.ofNat_toNat] at hc
  exact hc h

theorem takeScheme?_ok {cs : List Char} {scheme : String} {back : List Char}
    (h : takeScheme? cs = some (scheme, back)) :
    (∀ c ∈ scheme.toList, c ≠ ':' ∧ c ≠ '?') ∧ cs.dropWhile isSchemeChar = ':' :: back := by
  unfold takeScheme? at h
  split at h
  · cases h
  dsimp only at h
  split at h
  · rename_i hback
    obtain ⟨rfl, rfl⟩ := Prod.mk.inj (Option.some.inj h)
    refine ⟨fun c hc => ?_, hback⟩
    rw [String.toList_ofList] at hc
    obtain ⟨x, hx, rfl⟩ := List.mem_map.1 hc
    exact ne_of_isSchemeChar (List.all_eq_true.1 List.all_takeWhile x hx)
  · cases h

theorem mem_of_mem_cleaned {cs : List Char} {c : Char} (h : c ∈ cleaned cs) : c ∈ cs := by
  have hcore := List.mem_reverse.1 (List.mem_filter.1 h).1
  exact (List.dropWhile_sublist _).mem (List.mem_reverse.1 ((List.dropWhile_sublist _).mem hcore))

/-- The parts of an address whose text holds neither a question mark nor a number sign. -/
theorem parse_ok {raw : String} (hmarks : ∀ c ∈ raw.toList, c ≠ '?' ∧ c ≠ '#') {u : Url}
    (h : parse raw = .ok u) :
    ∃ back, takeScheme? (cleaned raw.toList) = some (u.scheme, back) ∧
      (∀ c ∈ back, c ≠ '?') ∧ place u.scheme back = .ok (u.authority, u.path) ∧
      u.query = none ∧ u.fragment = none := by
  unfold parse at h
  cases hscheme : takeScheme? (cleaned raw.toList) with
  | none =>
    rw [hscheme] at h
    cases h
  | some found =>
    obtain ⟨scheme, back⟩ := found
    rw [hscheme] at h
    have hback : ∀ c ∈ back, c ≠ '?' ∧ c ≠ '#' := by
      intro c hc
      have hmem : c ∈ (cleaned raw.toList).dropWhile isSchemeChar := by
        rw [(takeScheme?_ok hscheme).2]
        exact List.mem_cons_of_mem _ hc
      exact hmarks c (mem_of_mem_cleaned ((List.dropWhile_sublist _).mem hmem))
    have hfragment := cut_of_forall_ne fun c hc => (hback c hc).2
    have hquery := cut_of_forall_ne fun c hc => (hback c hc).1
    simp only [hfragment, hquery] at h
    cases hplace : place scheme back with
    | error e =>
      rw [hplace] at h
      cases h
    | ok found =>
      rw [hplace] at h
      obtain rfl := Except.ok.inj h
      exact ⟨back, rfl, fun c hc => (hback c hc).1, hplace, rfl, rfl⟩

/-- What an address without query and fragment is: its parts hold no sign that ends them. -/
structure Bare (u : Url) : Prop where
  query : u.query = none
  fragment : u.fragment = none
  scheme : ∀ c ∈ u.scheme.toList, c ≠ ':' ∧ c ≠ '?'
  authority : ∀ a, u.authority = some a → Inner a.text
  path : ∀ c ∈ u.path.toList, c ≠ '?'

theorem bare_of_parse {raw : String} (hmarks : ∀ c ∈ raw.toList, c ≠ '?' ∧ c ≠ '#') {u : Url}
    (h : parse raw = .ok u) : Bare u := by
  obtain ⟨back, hscheme, hback, hplace, hquery, hfragment⟩ := parse_ok hmarks h
  obtain ⟨hpath, hauthority⟩ := place_ok hback hplace
  exact ⟨hquery, hfragment, (takeScheme?_ok hscheme).1, hauthority, hpath⟩

section Parse

variable {first : String} {rest : List String} (h : ∀ s ∈ first :: rest, IsSegment s)

include h

theorem toNat_of_mem_tail {c : Char} (hc : c ∈ '/' :: tailText first rest) : 0x20 < c.toNat := by
  rcases List.mem_cons.1 hc with rfl | hc
  · decide
  · rcases mem_tailText h hc with rfl | hplain
    · decide
    · exact (toNat_of_isUnreserved hplain).1

/-- Blanks around an address and line ends in it do not reach names at its end. -/
theorem cleaned_append (front : List Char) :
    ∃ front', cleaned (front ++ '/' :: tailText first rest) =
      front' ++ '/' :: tailText first rest := by
  let isOuter := fun (c : Char) => decide (c.toNat ≤ 0x20)
  let isKept := fun (c : Char) => !(c == '\t' || c == '\n' || c == '\r')
  have hinner : ∀ c ∈ '/' :: tailText first rest, ¬ isOuter c = true := by
    intro c hc
    have hlarge := toNat_of_mem_tail h hc
    simp only [isOuter, decide_eq_true_eq]
    omega
  have hkept : ∀ c ∈ '/' :: tailText first rest, isKept c = true := by
    intro c hc
    have hlarge := toNat_of_mem_tail h hc
    have htab : c ≠ '\t' := by
      rintro rfl
      exact absurd hlarge (by decide)
    have hline : c ≠ '\n' := by
      rintro rfl
      exact absurd hlarge (by decide)
    have hreturn : c ≠ '\r' := by
      rintro rfl
      exact absurd hlarge (by decide)
    simp [isKept, htab, hline, hreturn]
  have hstart : (front ++ '/' :: tailText first rest).dropWhile isOuter =
      front.dropWhile isOuter ++ '/' :: tailText first rest :=
    dropWhile_upTo rfl front _
  have hend : (front.dropWhile isOuter ++ '/' :: tailText first rest).reverse.dropWhile isOuter =
      (front.dropWhile isOuter ++ '/' :: tailText first rest).reverse := by
    obtain ⟨c, cs, hcons⟩ := List.exists_cons_of_ne_nil
      (List.reverse_ne_nil_iff.2 (List.cons_ne_nil '/' (tailText first rest)))
    have hc : c ∈ '/' :: tailText first rest := by
      rw [← List.mem_reverse, hcons]
      exact List.mem_cons_self
    rw [List.reverse_append, hcons, List.cons_append, List.dropWhile_cons_of_neg (hinner c hc)]
  refine ⟨(front.dropWhile isOuter).filter isKept, ?_⟩
  show (((front ++ '/' :: tailText first rest).dropWhile isOuter).reverse.dropWhile
    isOuter).reverse.filter isKept = _
  rw [hstart, hend, List.reverse_reverse, List.filter_append, List.filter_eq_self.2 hkept]

/-- Names behind an address are at the end of its path, but for the first where it is the
host. -/
theorem path_of_parse (hrest : rest ≠ []) {front : List Char} {raw : String}
    (hraw : raw.toList = front ++ '/' :: tailText first rest)
    (hmarks : ∀ c ∈ raw.toList, c ≠ '?' ∧ c ≠ '#') {u : Url} (hparse : parse raw = .ok u) :
    (∃ before, u.path.toList = before ++ '/' :: tailText first rest) ∨
      u.path.toList = '/' :: (Text.join "/" rest).toList := by
  obtain ⟨back, hscheme, -, hplace, -, -⟩ := parse_ok hmarks hparse
  obtain ⟨front', hcleaned⟩ := cleaned_append h front
  have hback := (takeScheme?_ok hscheme).2
  rw [hraw, hcleaned, dropWhile_upTo rfl] at hback
  -- the colon of the scheme is in front of the names
  cases hfront : front'.dropWhile isSchemeChar with
  | nil =>
    rw [hfront] at hback
    cases hback
  | cons c front'' =>
    rw [hfront] at hback
    rw [← (List.cons.inj hback).2] at hplace
    exact place_append h hrest front'' hplace

end Parse

/-! ## Reading path and query -/

/-- What stands between the scheme of an address and its query. -/
def placeText (u : Url) : String :=
  match u.authority with
  | some a => "//" ++ a.text ++ u.path
  | none => if Text.startsWith u.path "//" then "/." ++ u.path else u.path

theorem text_of_fragment {u : Url} (h : u.fragment = none) :
    u.text = u.scheme ++ ":" ++ placeText u ++ u.query.elim "" ("?" ++ ·) ++ "" := by
  obtain ⟨scheme, authority, path, asked, fragment⟩ := u
  subst h
  cases authority <;> cases asked <;> rfl

section Written

variable {u : Url} (h : Bare u) (pairs : List (String × String))

include h

theorem text_append :
    (u.append pairs).text.toList = u.scheme.toList ++ ':' :: (placeText u).toList ++
      if (Form.encode pairs).isEmpty then [] else '?' :: (Form.encode pairs).toList := by
  have hquery : (u.append pairs).query =
      if (Form.encode pairs).isEmpty then none else some (Form.encode pairs) := by
    unfold append
    rw [h.query]
    simp
  have hplace : placeText (u.append pairs) = placeText u := rfl
  have hscheme : (u.append pairs).scheme = u.scheme := rfl
  have hfragment : (u.append pairs).fragment = none := h.fragment
  rw [text_of_fragment hfragment, hquery, hplace, hscheme]
  by_cases hempty : (Form.encode pairs).isEmpty = true
  · simp [hempty, String.toList_append]
  · simp [hempty, String.toList_append]

theorem ne_mark_placeText : ∀ c ∈ (placeText u).toList, c ≠ '?' := by
  intro c hc
  unfold placeText at hc
  cases hauthority : u.authority with
  | some a =>
    rw [hauthority, String.toList_append, String.toList_append, List.mem_append,
      List.mem_append] at hc
    rcases hc with (hc | hc) | hc
    · have hslash : c = '/' := by simpa using hc
      rw [hslash]
      decide
    · have hinner := h.authority a hauthority c hc
      simp only [isInner, Bool.and_eq_true, bne_iff_ne] at hinner
      exact hinner.2
    · exact h.path c hc
  | none =>
    rw [hauthority] at hc
    dsimp only at hc
    split at hc
    · rw [String.toList_append, List.mem_append] at hc
      rcases hc with hc | hc
      · have hsign : c = '/' ∨ c = '.' := by simpa using hc
        rcases hsign with rfl | rfl <;> decide
      · exact h.path c hc
    · exact h.path c hc

/-- The text of an address is cut at its question mark. -/
theorem cut_text :
    cut '?' (u.append pairs).text.toList =
      (u.scheme.toList ++ ':' :: (placeText u).toList,
        if (Form.encode pairs).isEmpty then none else some (Form.encode pairs).toList) := by
  have hfront : ∀ c ∈ u.scheme.toList ++ ':' :: (placeText u).toList, c ≠ '?' := by
    intro c hc
    rcases List.mem_append.1 hc with hc | hc
    · exact (h.scheme c hc).2
    · rcases List.mem_cons.1 hc with rfl | hc
      · decide
      · exact ne_mark_placeText h c hc
  rw [text_append h pairs]
  split
  · rw [List.append_nil, cut_of_forall_ne hfront]
  · exact cut_append hfront _

/-- The query in the text is what has been added. -/
theorem writtenQuery_append : writtenQuery (u.append pairs).text = Form.encode pairs := by
  rw [writtenQuery, cut_text h pairs]
  by_cases hempty : (Form.encode pairs).isEmpty = true
  · rw [if_pos hempty, String.isEmpty_iff.1 hempty]
    rfl
  · rw [if_neg hempty, Option.getD_some, String.ofList_toList]

/-- The path is in the text, but for a dot that keeps it from being an authority. -/
theorem writtenPath_text :
    writtenPath (u.append pairs).text = u.path.toList.dropWhile (· != '/') ∨
      writtenPath (u.append pairs).text = u.path.toList ∨
      (Text.startsWith u.path "//" = true ∧
        writtenPath (u.append pairs).text = '/' :: '.' :: u.path.toList) := by
  have hscheme : cut ':' (u.scheme.toList ++ ':' :: (placeText u).toList) =
      (u.scheme.toList, some (placeText u).toList) :=
    cut_append (fun c hc => (h.scheme c hc).1) _
  rw [writtenPath, cut_text h pairs]
  dsimp only
  rw [hscheme, Option.getD_some]
  unfold placeText
  cases hauthority : u.authority with
  | some a =>
    left
    have hinner : ∀ c ∈ a.text.toList, (c != '/') = true := fun c hc => by
      have hinner := h.authority a hauthority c hc
      rw [isInner, Bool.and_eq_true] at hinner
      exact hinner.1
    have hplace : ("//" ++ a.text ++ u.path).toList =
        '/' :: '/' :: (a.text.toList ++ u.path.toList) := by
      simp [String.toList_append]
    dsimp only
    rw [hplace, behindAuthority, List.dropWhile_append_of_pos hinner]
  | none =>
    right
    dsimp only
    split
    · rename_i hslashes
      right
      rw [String.toList_append]
      exact ⟨hslashes, rfl⟩
    · rename_i hslashes
      left
      rw [behindAuthority]
      rintro rest heq
      rw [Text.startsWith, heq] at hslashes
      exact hslashes rfl

/-- The path in the text ends with the names behind the address, but for the first where it
is the host. -/
theorem writtenPath_append {first : String} {rest : List String} (hrest : rest ≠ [])
    (hsegments : ∀ s ∈ rest, IsSegment s)
    (hpath : (∃ before, u.path.toList = before ++ '/' :: tailText first rest) ∨
      u.path.toList = '/' :: (Text.join "/" rest).toList) :
    (∃ before, writtenPath (u.append pairs).text = before ++ '/' :: tailText first rest) ∨
      writtenPath (u.append pairs).text = '/' :: (Text.join "/" rest).toList := by
  rcases writtenPath_text h pairs with hwritten | hwritten | ⟨hslashes, hwritten⟩
  · rw [hwritten]
    rcases hpath with ⟨before, hpath⟩ | hpath
    · rw [hpath, dropWhile_upTo rfl]
      exact .inl ⟨_, rfl⟩
    · rw [hpath]
      exact .inr rfl
  · rw [hwritten]
    exact hpath
  · rcases hpath with ⟨before, hpath⟩ | hpath
    · exact .inl ⟨'/' :: '.' :: before, by rw [hwritten, hpath]; rfl⟩
    · -- the first name is not empty
      obtain ⟨c, cs, hcons, hc⟩ := exists_cons_join hrest hsegments
      rw [Text.startsWith, hpath, hcons] at hslashes
      have heq : '/' = c := by simpa using hslashes
      exact absurd heq.symm hc

end Written

end CloudClient.Url
