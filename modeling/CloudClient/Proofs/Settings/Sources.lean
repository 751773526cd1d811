import CloudClient.Proofs.Settings.Ini
import CloudClient.Proofs.Settings.Variable

/-!
# Sources — one text in a file and in the environment

A setting can stand in a file or in an environment variable.  A file gives its text as it is;
a variable is read as a value first, which may be something else than the text.

* `readText_read_eq_iff`, `readSeconds_read_eq_iff`: what a setting makes of both.
* `load_eq_iff`: which texts mean the same in both sources.
-/

namespace CloudClient.Settings

open Text

/-! ## Reading a setting from a layer -/

theorem toOption_map_eq_iff {α β ε : Type} {f : α → β} (hf : f.Injective)
    {x y : Except ε α} : (x.map f).toOption = (y.map f).toOption ↔ x.toOption = y.toOption := by
  have hmap (z : Except ε α) : (z.map f).toOption = z.toOption.map f := by
    cases z with
    | ok a => rfl
    | error e => rfl
  rw [hmap, hmap]
  exact (Option.map_injective hf).eq_iff

theorem bind_eq_map {α β ε : Type} (x : Except ε α) {g : α → Except ε β} {f : α → β}
    (h : ∀ a, g a = .ok (f a)) : x.bind g = x.map f := by
  cases x with
  | ok a => exact h a
  | error e => rfl

def unset : Settings where
  username := none
  apiKey := none
  endpointUrl := none
  timeoutSeconds := none
  proxy := none
  verify := none
  accessToken := none
  refreshToken := none
  account := none
  imsAccount := none
  userId := none
  format := none
  userAgent := none

/-- What a layer with one setting says is what is read for that setting; here it is a
text. -/
theorem ofLayer_text {key : String} (hkey : key ∈ settingNames) (hne : key ≠ "timeout") :
    ∃ f : Option String → Settings, f.Injective ∧
      ∀ v, ofLayer [(key, v)] = (readText v).map f := by
  simp only [settingNames, variableNames, List.map_cons, List.map_nil, List.mem_cons,
    List.not_mem_nil, or_false] at hkey
  rcases hkey with rfl | rfl | rfl | rfl | rfl
  · exact ⟨fun s => { unset with proxy := s }, fun _ _ h => congrArg Settings.proxy h,
      fun _ => bind_eq_map _ fun _ => rfl⟩
  · -- a secret is read as a text and kept as a secret
    refine ⟨fun s => { unset with apiKey := s.map Secret.mk }, fun a b h => ?_, fun v => ?_⟩
    · have hkeys : a.map Secret.mk = b.map Secret.mk := congrArg Settings.apiKey h
      exact Option.map_injective (fun _ _ h => congrArg Secret.exposed h) hkeys
    · have hsecret : ofLayer [("api_key", v)] =
          (readSecret v).map fun key => { unset with apiKey := key } := bind_eq_map _ fun _ => rfl
      rw [hsecret, readSecret]
      cases readText v with
      | ok s => rfl
      | error e => rfl
  · exact ⟨fun s => { unset with endpointUrl := s }, fun _ _ h => congrArg Settings.endpointUrl h,
      fun _ => bind_eq_map _ fun _ => rfl⟩
  · exact absurd rfl hne
  · exact ⟨fun s => { unset with username := s }, fun _ _ h => congrArg Settings.username h,
      fun _ => bind_eq_map _ fun _ => rfl⟩

theorem ofLayer_timeout : ∃ f : Option Nat → Settings, f.Injective ∧
    ∀ v, ofLayer [("timeout", v)] = (readSeconds v).map f :=
  ⟨fun seconds => { unset with timeoutSeconds := seconds },
    fun _ _ h => congrArg Settings.timeoutSeconds h, fun _ => bind_eq_map _ fun _ => rfl⟩

/-! ## What is read -/

section Read

variable {t : String}

/-- A variable gives a text setting exactly if its text stands for itself. -/
theorem readText_read_eq_iff (ht : OneLine t) :
    (readText (.text t)).toOption = (readText (Variable.read t)).toOption ↔
      Variable.read t = .text t := by
  constructor
  · intro h
    change some (some t) = _ at h
    generalize hread : Variable.read t = v at h ⊢
    have hshape : Variable.Shape t v := hread ▸ Variable.shape_read ht.trimmed
    -- a text setting takes a text or a single letter, and nothing else
    cases hshape with
    | itself => rfl
    | quoted s r hr =>
      obtain rfl := Option.some.inj (Option.some.inj h)
      rfl
    | letter c r hr =>
      -- the quotes would be a part of the text
      obtain rfl := Option.some.inj (Option.some.inj h)
      simp at hr
    | flag b => cases h
    | double x => cases h
    | unsigned n hn => cases h
    | signed i hnone hi => cases h
    | list items => cases h
    | table entries => cases h
  · intro h
    rw [h]

theorem readSeconds_text (s : String) : (readSeconds (.text s)).toOption =
    if isBlankText s then some none else (u64? (Text.trimmed s)).map some := by
  rw [readSeconds, readInteger]
  split
  · rfl
  · cases u64? (Text.trimmed s) with
    | none => rfl
    | some n => rfl

theorem readSeconds_integer (i : Int) : (readSeconds (.integer i)).toOption =
    if 0 ≤ i ∧ i ≤ maxU64 then some (some i.toNat) else none := by
  rw [readSeconds, readInteger]
  by_cases h : 0 ≤ i ∧ i ≤ maxU64
  · rw [if_pos (decide_eq_true h), if_pos h]
    rfl
  · rw [if_neg (by simpa using h), if_neg h]
    rfl

/-- Whether a value is a number of seconds, or says that there is none, where its text is no
such number: a zero with a minus sign, or a number or nothing in quotes. -/
def IsHiddenSeconds (v : Value) : Prop :=
  v = .integer 0 ∨
    ∃ s, v = .text s ∧ (isBlankText s = true ∨ (u64? (Text.trimmed s)).isSome = true)

/-- Whether a variable gives seconds by a text that is no number of seconds itself. -/
def HidesSeconds (t : String) : Prop :=
  u64? t = none ∧ IsHiddenSeconds (Variable.read t)

theorem isSome_readSeconds_text (s : String) :
    (readSeconds (.text s)).toOption.isSome = true ↔ IsHiddenSeconds (.text s) := by
  have hhidden : IsHiddenSeconds (.text s) ↔
      isBlankText s = true ∨ (u64? (Text.trimmed s)).isSome = true := by
    simp [IsHiddenSeconds]
  rw [readSeconds_text, hhidden]
  split
  · rename_i hblank
    exact iff_of_true rfl (.inl hblank)
  · rename_i hblank
    rw [Option.isSome_map, or_iff_right hblank]

/-- Where a text is no number of seconds, its value is one exactly if it hides one. -/
theorem isSome_readSeconds {v : Value} (hshape : Variable.Shape t v) (hnone : u64? t = none) :
    (readSeconds v).toOption.isSome = true ↔ IsHiddenSeconds v := by
  -- what is neither an integer nor a text is refused
  have hother {v : Value} (herror : (readSeconds v).toOption.isSome = false)
      (hinteger : v ≠ .integer 0) (htext : ∀ s, v ≠ .text s) :
      (readSeconds v).toOption.isSome = true ↔ IsHiddenSeconds v := by
    refine iff_of_false (Bool.eq_false_iff.1 herror) ?_
    rintro (hv | ⟨s, hv, -⟩)
    · exact hinteger hv
    · exact htext s hv
  cases hshape with
  | itself => exact isSome_readSeconds_text t
  | quoted s r hr => exact isSome_readSeconds_text s
  | unsigned n hn => cases hnone.symm.trans hn
  | signed i _ hi =>
    rw [readSeconds_integer]
    split
    · rename_i hrange
      obtain rfl := eq_zero_of_i64? hnone hi hrange.1
      exact iff_of_true rfl (.inl rfl)
    · rename_i hrange
      refine iff_of_false (by simp) ?_
      rintro (hv | ⟨s, hv, -⟩)
      · cases hv
        exact hrange (by decide)
      · cases hv
  | letter c r hr => exact hother rfl nofun nofun
  | flag b => exact hother rfl nofun nofun
  | double x => exact hother rfl nofun nofun
  | list items => exact hother rfl nofun nofun
  | table entries => exact hother rfl nofun nofun

theorem isBlankText_eq_false (ht : OneLine t) : isBlankText t = false := by
  refine Bool.eq_false_iff.2 fun h => ht.nonempty ?_
  rw [isBlankText, List.all_eq_true] at h
  have hnil := trim_eq_nil_iff.2 h
  rw [ht.trimmed] at hnil
  exact String.toList_eq_nil_iff.1 hnil

/-- A variable gives the same number of seconds as a file unless it gives one where the file
gives none. -/
theorem readSeconds_read_eq_iff (ht : OneLine t) :
    (readSeconds (.text t)).toOption = (readSeconds (Variable.read t)).toOption ↔
      ¬ HidesSeconds t := by
  have htext : (readSeconds (.text t)).toOption = (u64? t).map some := by
    rw [readSeconds_text, isBlankText_eq_false ht, Text.trimmed, ht.trimmed, String.ofList_toList]
    rfl
  rw [htext]
  -- a number of seconds is read by both; else only the variable may find one
  cases hseconds : u64? t with
  | some n =>
    have hmax : n ≤ maxU64 := of_decide_eq_true (Option.filter_eq_some_iff.1 hseconds).2
    rw [Variable.read_of_u64? ht.trimmed hseconds, readSeconds_integer,
      if_pos ⟨Int.natCast_nonneg n, Int.ofNat_le.2 hmax⟩, Int.toNat_natCast]
    refine iff_of_true rfl fun h => ?_
    rw [h.1] at hseconds
    cases hseconds
  | none =>
    have hseen := isSome_readSeconds (Variable.shape_read ht.trimmed) hseconds
    rw [HidesSeconds, and_iff_right hseconds, ← hseen, Option.map_none, eq_comm,
      Bool.not_eq_true, Option.isSome_eq_false_iff, Option.isNone_iff_eq_none]

end Read

/-! ## Loading -/

theorem load_entryFile {path content key t : String} (hpath : isYaml path = false)
    (hcontent : Ini.values content sectionName = [(key, t)]) :
    load path (.text content) [] = (ofLayer [(key, .text t)]).mapError .settings := by
  have hfile : ofFile path (.text content) = .ok [(key, .text t)] := by
    unfold ofFile
    rw [if_neg (by simp [hpath])]
    dsimp only
    rw [hcontent]
    rfl
  rw [load, hfile]
  rfl

theorem load_variable (path : String) {name key : String} (t : String)
    (hname : ofVariable? name = some key) :
    load path .missing [(name, t)] =
      (ofLayer [(key, Variable.read t)]).mapError .settings := by
  have hfile : ofFile path .missing = .ok [] := by
    unfold ofFile
    split <;> rfl
  have henvironment : ofEnvironment [(name, t)] = [(key, Variable.read t)] := by
    simp [ofEnvironment, hname, Fields.ofList, Fields.insert]
  rw [load, hfile, henvironment]
  rfl

/-- Each text on a line can be given by a file.  Given by a file alone and by a variable alone it
means the same, or is refused in both, exactly if the variable's value is the text; a timeout
means the same unless the variable's value is one and the text is not. -/
theorem load_eq_iff {key name t : String} (hname : ofVariable? name = some key)
    (ht : OneLine t) :
    (∃ content, Ini.values content sectionName = [(key, t)]) ∧
      ∀ path content other, isYaml path = false →
        Ini.values content sectionName = [(key, t)] →
        ((load path (.text content) []).toOption =
            (load other .missing [(name, t)]).toOption ↔
          if key = "timeout" then ¬ HidesSeconds t else Variable.read t = .text t) := by
  have hkey := mem_settingNames hname
  refine ⟨⟨_, Ini.values_entryFile hkey ht⟩, fun path content other hpath hcontent => ?_⟩
  have hmapError (r : Except String Settings) :
      (r.mapError Failure.settings).toOption = r.toOption := by
    cases r with
    | ok s => rfl
    | error e => rfl
  rw [load_entryFile hpath hcontent, load_variable other t hname, hmapError, hmapError]
  split
  · rename_i hkey
    subst hkey
    obtain ⟨f, hf, hread⟩ := ofLayer_timeout
    rw [hread, hread, toOption_map_eq_iff hf]
    exact readSeconds_read_eq_iff ht
  · rename_i hne
    obtain ⟨f, hf, hread⟩ := ofLayer_text hkey hne
    rw [hread, hread, toOption_map_eq_iff hf]
    exact readText_read_eq_iff ht

/-- A name of letters means the same in both. -/
theorem load_eq_iff_name :
    ofVariable? "SL_USERNAME" = some "username" ∧ OneLine "someone" ∧
      (load ".softlayer" (.text (entryFile "username" "someone")) []).toOption =
        (load ".softlayer" .missing [("SL_USERNAME", "someone")]).toOption := by
  have hname : ofVariable? "SL_USERNAME" = some "username" := by decide
  have ht : OneLine "someone" := ⟨by decide, by decide, by decide⟩
  have hcontent := Ini.values_entryFile (mem_settingNames hname) ht
  refine ⟨hname, ht, ?_⟩
  refine ((load_eq_iff hname ht).2 ".softlayer" _ ".softlayer" (by decide) hcontent).2 ?_
  rw [if_neg (by decide)]
  rfl

/-- A name of digits is accepted in a file and refused in a variable. -/
theorem number_refused :
    OneLine "12345" ∧ ofVariable? "SL_USERNAME" = some "username" ∧
      Ini.values (entryFile "username" "12345") sectionName = [("username", "12345")] ∧
      ((load ".softlayer" (.text (entryFile "username" "12345")) []).toOption.bind
        Settings.username) = some "12345" ∧
      (load ".softlayer" .missing [("SL_USERNAME", "12345")]).toOption = none := by
  refine ⟨⟨by decide, by decide, by decide⟩, by decide, by decide, ?_, ?_⟩
  · decide
  · decide

end CloudClient.Settings
