import CloudClient.Text.Search
import Mathlib.Data.List.Induction

/-!
# Shell words — how a shell takes a command apart

The quoting rules of POSIX shells.  Outside of quotes blanks part the words and a backslash keeps
the character behind it; between single quotes everything is kept; between double quotes a
backslash keeps the few characters that mean something there.  The quotes themselves vanish, and
only they let a word be empty.

Which other characters do more outside of quotes than stand for themselves is left to the shell:
a text that has one there is no mere list of words.

* `Shell.words?` reads the words of a text.
* `Shell.run_quoted`: a text between single quotes, with its own quotes written as `'\''`, is
  added to the word as it was.
* `Shell.run_weight`: what a reading puts out, against what it takes in.
* `Shell.reads_quoted_iff`: such a text is one more word, and comes out as one only there.
-/

namespace CloudClient

/-- A shell, by the characters that are active outside of quotes: operators, expansions,
patterns, comments.  Letters, dashes and blanks are not. -/
structure Shell where
  /-- Whether a character does more than stand for itself. -/
  active : Char → Bool
  inactive : ∀ c, c.isAlpha = true ∨ c = '-' ∨ c = ' ' → active c = false

namespace Shell

/-- A shell in which everything is active that POSIX wants quoted, under all or under certain
circumstances. -/
def posix : Shell where
  active c := "|&;<>()$`*?[#~=%\n".toList.contains c
  inactive c hc := by
    have hnone : "|&;<>()$`*?[#~=%\n".toList.all
        (fun c => !(c.isAlpha || c == '-' || c == ' ')) = true := by
      decide
    refine Bool.eq_false_iff.2 fun hactive => ?_
    have hplain := List.all_eq_true.1 hnone c (List.contains_iff_mem.1 hactive)
    obtain hc | hc | hc := hc <;> simp [hc] at hplain

/-! ## Reading -/

/-- Where a character stands: outside of quotes or behind a backslash there, between single
quotes, between double quotes or behind a backslash there. -/
inductive Place where
  | bare
  | escaped
  | single
  | double
  | doubleEscaped
deriving DecidableEq, Repr

/-- What a character does: it puts characters to the word, which begins with them if it has not
begun, or is skipped, or ends the word. -/
inductive Act where
  | put (cs : List Char)
  | skip
  | part
deriving DecidableEq, Repr

variable (sh : Shell)

/-- What a character does where it stands, and where the next one stands; none if it is
active. -/
def act : Place → Char → Option (Act × Place)
  | .bare, c =>
    -- quotes begin a word even if nothing stands between them
    if c = '\'' then some (.put [], .single)
    else if c = '"' then some (.put [], .double)
    else if c = '\\' then some (.skip, .escaped)
    else if sh.active c then none
    else if c = ' ' ∨ c = '\t' ∨ c = '\n' then some (.part, .bare)
    else some (.put [c], .bare)
  -- a line end behind a backslash vanishes with it
  | .escaped, c => if c = '\n' then some (.skip, .bare) else some (.put [c], .bare)
  | .single, c => if c = '\'' then some (.skip, .bare) else some (.put [c], .single)
  | .double, c =>
    if c = '"' then some (.skip, .bare)
    else if c = '\\' then some (.skip, .doubleEscaped)
    -- expansions work between double quotes, too
    else if "$`".toList.contains c && sh.active c then none
    else some (.put [c], .double)
  | .doubleEscaped, c =>
    if c = '\n' then some (.skip, .double)
    else if "$`\"\\".toList.contains c then some (.put [c], .double)
    -- before any other character the backslash stands for itself
    else some (.put ['\\', c], .double)

/-- What has been read: where the next character stands, the words that have ended, and the one
that has begun, if any. -/
structure Reading where
  place : Place
  words : List (List Char)
  word : Option (List Char)
deriving DecidableEq, Repr

namespace Reading

def start : Reading := ⟨.bare, [], none⟩

def all (s : Reading) : List (List Char) := s.words ++ s.word.toList

def current (s : Reading) : List Char := s.word.getD []

def output (s : Reading) : List Char := s.all.flatten

def after (s : Reading) (place : Place) : Act → Reading
  | .put cs => ⟨place, s.words, some (s.current ++ cs)⟩
  | .skip => ⟨place, s.words, s.word⟩
  | .part => ⟨place, s.all, none⟩

end Reading

def step (s : Reading) (c : Char) : Option Reading :=
  (sh.act s.place c).map fun (a, place) => s.after place a

def run (s : Reading) : List Char → Option Reading
  | [] => some s
  | c :: r => (sh.step s c).bind fun next => run next r

/-- The words of a text; none if a quote is not closed, nothing stands behind the last backslash
or an active character stands outside of quotes. -/
def words? (text : String) : Option (List String) :=
  (sh.run .start text.toList).bind fun s =>
    if s.place = .bare then some (s.all.map .ofList) else none

def Reads (text : List Char) (ws : List (List Char)) : Prop :=
  ∃ s, sh.run .start text = some s ∧ s.place = .bare ∧ s.all = ws

/-- A text as it stands between single quotes: each quote in it ends the quotes, is written
behind a backslash and begins the quotes again. -/
def inQuotes (cs : List Char) : List Char :=
  cs.flatMap fun c => if c = '\'' then ['\'', '\\', '\'', '\''] else [c]

/-! ## Laws -/

variable {sh : Shell} {s t : Reading} {place next : Place} {a : Act} {c : Char} {cs : List Char}

theorem run_append (s : Reading) (front back : List Char) :
    sh.run s (front ++ back) = (sh.run s front).bind (sh.run · back) := by
  induction front generalizing s with
  | nil => rfl
  | cons c r ih =>
    rw [List.cons_append, run, run, Option.bind_assoc]
    exact Option.bind_congr fun next _ => ih next

theorem Reading.place_after (s : Reading) (place : Place) (a : Act) :
    (s.after place a).place = place := by
  cases a <;> rfl

theorem step_eq_some_iff :
    sh.step s c = some t ↔ ∃ a, sh.act s.place c = some (a, t.place) ∧ t = s.after t.place a := by
  unfold step
  rw [Option.map_eq_some_iff]
  constructor
  · rintro ⟨⟨a, place⟩, hact, rfl⟩
    rw [s.place_after]
    exact ⟨a, hact, rfl⟩
  · rintro ⟨a, hact, ht⟩
    exact ⟨(a, t.place), hact, ht.symm⟩

theorem run_concat_eq_some_iff :
    sh.run s (cs ++ [c]) = some t ↔ ∃ u, sh.run s cs = some u ∧ sh.step u c = some t := by
  rw [run_append, Option.bind_eq_some_iff]
  simp only [run, Option.bind_fun_some]

theorem words?_eq_some_iff {text : String} {ws : List String} :
    sh.words? text = some ws ↔ sh.Reads text.toList (ws.map String.toList) := by
  unfold words? Reads
  rw [Option.bind_eq_some_iff]
  refine exists_congr fun s => and_congr_right fun _ => ?_
  split
  · rename_i hplace
    rw [Option.some_inj, eq_true hplace, true_and]
    constructor
    · rintro rfl
      simp [Function.comp_def]
    · intro h
      simp [h, Function.comp_def]
  · rename_i hplace
    simp [hplace]

/-! ## The rules -/

/-- What a character that is not active does where it stands, rule by rule. -/
inductive Rule : Place → Char → Act → Place → Prop
  | openSingle : Rule .bare '\'' (.put []) .single
  | openDouble : Rule .bare '"' (.put []) .double
  | escape : Rule .bare '\\' .skip .escaped
  | gap {c : Char} (hc : c = ' ' ∨ c = '\t' ∨ c = '\n') : Rule .bare c .part .bare
  | plain {c : Char} (hquote : c ≠ '\'') (hblank : c ≠ ' ') : Rule .bare c (.put [c]) .bare
  | join : Rule .escaped '\n' .skip .bare
  | kept {c : Char} : Rule .escaped c (.put [c]) .bare
  | closeSingle : Rule .single '\'' .skip .bare
  | inSingle {c : Char} (hquote : c ≠ '\'') : Rule .single c (.put [c]) .single
  | closeDouble : Rule .double '"' .skip .bare
  | escapeDouble : Rule .double '\\' .skip .doubleEscaped
  | inDouble {c : Char} : Rule .double c (.put [c]) .double
  | joinDouble : Rule .doubleEscaped '\n' .skip .double
  | keptDouble {c : Char} (hquote : c ≠ '\'') : Rule .doubleEscaped c (.put [c]) .double
  | bothDouble {c : Char} : Rule .doubleEscaped c (.put ['\\', c]) .double

theorem rule_of_act (h : sh.act place c = some (a, next)) : Rule place c a next := by
  cases place with
  | bare =>
    simp only [act] at h
    split at h
    · rename_i hc
      subst hc
      cases h
      exact .openSingle
    · rename_i hquote
      split at h
      · rename_i hc
        subst hc
        cases h
        exact .openDouble
      · split at h
        · rename_i hc
          subst hc
          cases h
          exact .escape
        · split at h
          · cases h
          · split at h
            · rename_i hc
              cases h
              exact .gap hc
            · rename_i hc
              cases h
              exact .plain hquote fun hblank => hc (.inl hblank)
  | escaped =>
    simp only [act] at h
    split at h
    · rename_i hc
      subst hc
      cases h
      exact .join
    · cases h
      exact .kept
  | single =>
    simp only [act] at h
    split at h
    · rename_i hc
      subst hc
      cases h
      exact .closeSingle
    · rename_i hquote
      cases h
      exact .inSingle hquote
  | double =>
    simp only [act] at h
    split at h
    · rename_i hc
      subst hc
      cases h
      exact .closeDouble
    · split at h
      · rename_i hc
        subst hc
        cases h
        exact .escapeDouble
      · split at h
        · cases h
        · cases h
          exact .inDouble
  | doubleEscaped =>
    simp only [act] at h
    split at h
    · rename_i hc
      subst hc
      cases h
      exact .joinDouble
    · split at h
      · rename_i hc
        cases h
        refine .keptDouble ?_
        rintro rfl
        revert hc
        decide
      · cases h
        exact .bothDouble

theorem rule_of_step (h : sh.step s c = some t) :
    ∃ a, Rule s.place c a t.place ∧ t = s.after t.place a := by
  obtain ⟨a, hact, ht⟩ := step_eq_some_iff.1 h
  exact ⟨a, rule_of_act hact, ht⟩

/-! ## Quoting -/

theorem run_cons_of_act (h : sh.act s.place c = some (a, place)) (r : List Char) :
    sh.run s (c :: r) = sh.run (s.after place a) r := by
  rw [run, step, h]
  rfl

/-- Between single quotes everything is added, a quote by leaving the quotes for it. -/
theorem run_inQuotes (words : List (List Char)) (word cs r : List Char) :
    sh.run ⟨.single, words, some word⟩ (inQuotes cs ++ r) =
      sh.run ⟨.single, words, some (word ++ cs)⟩ r := by
  induction cs generalizing word with
  | nil => rw [inQuotes, List.flatMap_nil, List.nil_append, List.append_nil]
  | cons c cs ih =>
    rw [inQuotes, List.flatMap_cons, List.append_assoc, ← inQuotes, List.append_cons word c]
    by_cases hc : c = '\''
    · have hkept (r : List Char) :
          sh.run ⟨.single, words, some word⟩ (['\'', '\\', '\'', '\''] ++ r) =
            sh.run ⟨.single, words, some (word ++ ['\''] ++ [])⟩ r := rfl
      rw [if_pos hc, hc, hkept, List.append_nil]
      exact ih (word ++ ['\''])
    · have hact : sh.act .single c = some (.put [c], .single) := if_neg hc
      rw [if_neg hc, List.singleton_append, run_cons_of_act hact]
      exact ih (word ++ [c])

/-- A text between quotes, with its own quotes written as such, is added as it was. -/
theorem run_quoted (hs : s.place = .bare) (cs r : List Char) :
    sh.run s ('\'' :: (inQuotes cs ++ '\'' :: r)) = sh.run (s.after .bare (.put cs)) r := by
  have hopen : sh.act s.place '\'' = some (.put [], .single) := by
    rw [hs]
    rfl
  rw [run_cons_of_act hopen]
  exact (run_inQuotes s.words (s.current ++ []) cs _).trans (by rw [List.append_nil]; rfl)

theorem inQuotes_of_not_mem (h : '\'' ∉ cs) : inQuotes cs = cs := by
  induction cs with
  | nil => rfl
  | cons c cs ih =>
    obtain ⟨hc, hcs⟩ := List.ne_and_not_mem_of_not_mem_cons h
    rw [inQuotes, List.flatMap_cons, if_neg hc.symm, ← inQuotes, ih hcs]
    rfl

def isWordChar (c : Char) : Bool := c.isAlpha || c == '-'

theorem act_of_isWordChar (h : isWordChar c = true) :
    sh.act .bare c = some (.put [c], .bare) := by
  have hactive : sh.active c = false := by
    refine sh.inactive c ?_
    simpa [isWordChar, or_assoc] using Or.inl h
  have hne {x : Char} (hx : isWordChar x = false) : c ≠ x := by
    rintro rfl
    rw [h] at hx
    cases hx
  have hgap : ¬(c = ' ' ∨ c = '\t' ∨ c = '\n') := by
    rintro (rfl | rfl | rfl) <;> cases h
  rw [act, if_neg (hne rfl), if_neg (hne rfl), if_neg (hne rfl), hactive, if_neg (by simp),
    if_neg hgap]

theorem run_bare (hs : s.place = .bare) (hcs : cs ≠ []) (h : cs.all isWordChar = true)
    (r : List Char) : sh.run s (cs ++ r) = sh.run (s.after .bare (.put cs)) r := by
  induction cs generalizing s with
  | nil => exact absurd rfl hcs
  | cons c cs ih =>
    rw [List.all_cons, Bool.and_eq_true] at h
    have hact : sh.act s.place c = some (.put [c], .bare) := by
      rw [hs]
      exact act_of_isWordChar h.1
    rw [List.cons_append, run_cons_of_act hact]
    cases cs with
    | nil => rfl
    | cons d cs =>
      rw [ih rfl (List.cons_ne_nil d cs) h.2]
      simp [Reading.after, Reading.current]

theorem run_blank (hs : s.place = .bare) (r : List Char) :
    sh.run s (' ' :: r) = sh.run ⟨.bare, s.all, none⟩ r := by
  have hact : sh.act s.place ' ' = some (.part, .bare) := by
    rw [hs, act, sh.inactive ' ' (by decide)]
    decide
  rw [run_cons_of_act hact]
  rfl

/-! ## What a reading puts out -/

def Act.output : Act → List Char
  | .put cs => cs
  | _ => []

/-- How many words an act ends at the most. -/
def Act.ends : Act → Nat
  | .part => 1
  | _ => 0

theorem Reading.output_after (s : Reading) (place : Place) (a : Act) :
    (s.after place a).output = s.output ++ a.output := by
  cases a with
  | put cs => cases hw : s.word <;> simp [after, output, all, current, Act.output, hw]
  | skip => simp [after, output, all, Act.output]
  | part => simp [after, output, all, Act.output]

theorem Reading.length_words_after (s : Reading) (place : Place) (a : Act) :
    (s.after place a).words.length ≤ s.words.length + a.ends := by
  cases a with
  | part => cases hw : s.word <;> simp [after, all, Act.ends, hw]
  | _ => exact Nat.le_refl _

/-- What has been taken in for the quotes that were put out, beyond these themselves: a backslash
or a double quote vanishes before the first of them. -/
def margin (quotes : Nat) : Place → Nat
  | .bare | .single => min quotes 1
  | .double | .escaped => 1
  | .doubleEscaped => 2

/-- A character is added, ends a word or vanishes; a quote that is added has cost another
character. -/
theorem Rule.weight (h : Rule place c a next) (quotes : Nat) :
    a.output.length + a.ends + margin (quotes + a.output.count '\'') next + [c].count '\'' ≤
      margin quotes place + 1 + a.output.count '\'' := by
  cases h with
  | gap hc =>
    have hquote : c ≠ '\'' := by
      rintro rfl
      revert hc
      decide
    simp only [Act.output, Act.ends, margin, List.length_nil, List.count_nil,
      List.count_singleton, beq_iff_eq, if_neg hquote]
    omega
  | plain hquote | inSingle hquote | keptDouble hquote =>
    simp only [Act.output, Act.ends, margin, List.length_singleton, List.count_singleton,
      beq_iff_eq, if_neg hquote]
    omega
  | kept | inDouble =>
    simp only [Act.output, Act.ends, margin, List.length_singleton]
    omega
  | bothDouble =>
    simp only [Act.output, Act.ends, margin, List.length_cons, List.length_nil,
      List.count_cons, List.count_nil]
    omega
  | openSingle | closeSingle =>
    simp only [Act.output, Act.ends, margin, List.length_nil, List.count_nil,
      List.count_singleton_self]
    omega
  | openDouble | escape | join | closeDouble | escapeDouble | joinDouble =>
    simp only [Act.output, Act.ends, margin, List.length_nil, List.count_nil,
      List.count_singleton, Char.reduceBEq, Bool.false_eq_true, if_false]
    omega

theorem run_weight (h : sh.run s cs = some t) :
    t.output.length + t.words.length + margin (t.output.count '\'') t.place +
        s.output.count '\'' + cs.count '\'' ≤
      s.output.length + s.words.length + margin (s.output.count '\'') s.place + cs.length +
        t.output.count '\'' := by
  induction cs generalizing s with
  | nil =>
    obtain rfl := Option.some.inj h
    exact Nat.le_refl _
  | cons c r ih =>
    rw [run, Option.bind_eq_some_iff] at h
    obtain ⟨u, hstep, hrun⟩ := h
    obtain ⟨a, hrule, hu⟩ := rule_of_step hstep
    have hweight := hrule.weight (s.output.count '\'')
    have houtput : u.output = s.output ++ a.output := by
      rw [hu, s.output_after]
    have hwords : u.words.length ≤ s.words.length + a.ends := by
      rw [hu]
      exact s.length_words_after _ a
    have hrest := ih hrun
    rw [houtput, List.count_append, List.length_append] at hrest
    rw [List.count_cons, List.length_cons]
    rw [List.count_singleton] at hweight
    omega

/-! ## Words that come out -/

/-- A step that leads between single quotes opens them or adds to what stands there. -/
theorem of_step_single (h : sh.step s c = some t) (ht : t.place = .single) :
    s.place = .bare ∧ c = '\'' ∧ t = ⟨.single, s.words, some s.current⟩ ∨
      s.place = .single ∧ c ≠ '\'' ∧ t = ⟨.single, s.words, some (s.current ++ [c])⟩ := by
  obtain ⟨a, hrule, htarget⟩ := rule_of_step h
  rw [ht] at hrule htarget
  rw [htarget]
  generalize s.place = place at hrule
  cases hrule with
  | openSingle => exact .inl ⟨rfl, rfl, by rw [Reading.after, List.append_nil]⟩
  | inSingle hquote => exact .inr ⟨rfl, hquote, rfl⟩

/-- A quote that leads outside of quotes closes them or stands behind a backslash. -/
theorem of_step_quote (h : sh.step s '\'' = some t) (ht : t.place = .bare) :
    s.place = .single ∧ t = ⟨.bare, s.words, s.word⟩ ∨
      s.place = .escaped ∧ t = ⟨.bare, s.words, some (s.current ++ ['\''])⟩ := by
  obtain ⟨a, hrule, htarget⟩ := rule_of_step h
  rw [ht] at hrule htarget
  rw [htarget]
  generalize s.place = place at hrule
  cases hrule with
  | gap hc => exact absurd hc (by decide)
  | plain hquote => exact absurd rfl hquote
  | kept => exact .inr ⟨rfl, rfl⟩
  | closeSingle => exact .inl ⟨rfl, rfl⟩

theorem of_step_escaped (h : sh.step s c = some t) (ht : t.place = .escaped) :
    c = '\\' ∧ s.place = .bare ∧ t = ⟨.escaped, s.words, s.word⟩ := by
  obtain ⟨a, hrule, htarget⟩ := rule_of_step h
  rw [ht] at hrule htarget
  rw [htarget]
  generalize s.place = place at hrule
  cases hrule with
  | escape => exact ⟨rfl, rfl, rfl⟩

/-- A blank that leads outside of quotes ends a word or stands behind a backslash. -/
theorem of_step_blank (h : sh.step s ' ' = some t) (ht : t.place = .bare) :
    s.place = .bare ∧ t = ⟨.bare, s.all, none⟩ ∨
      s.place = .escaped ∧ t = ⟨.bare, s.words, some (s.current ++ [' '])⟩ := by
  obtain ⟨a, hrule, htarget⟩ := rule_of_step h
  rw [ht] at hrule htarget
  rw [htarget]
  generalize s.place = place at hrule
  cases hrule with
  | gap => exact .inl ⟨rfl, rfl⟩
  | plain _ hblank => exact absurd rfl hblank
  | kept => exact .inr ⟨rfl, rfl⟩

theorem inQuotes_concat (cs : List Char) (c : Char) :
    inQuotes (cs ++ [c]) = inQuotes cs ++ if c = '\'' then ['\'', '\\', '\'', '\''] else [c] := by
  rw [inQuotes, List.flatMap_append, List.flatMap_singleton, ← inQuotes]

/-- A quote that gives the text of the quotes closes them: behind a backslash it would have ended
the text, and then another quote had come before it. -/
theorem of_step_close (hrun : sh.run s ('\'' :: inQuotes cs) = some t)
    {u : Reading} (hstep : sh.step t '\'' = some u) (hu : u.place = .bare)
    (hcurrent : u.current = cs) :
    t.place = .single ∧ u = ⟨.bare, t.words, t.word⟩ := by
  obtain hclose | ⟨hescaped, rfl⟩ := of_step_quote hstep hu
  · exact hclose
  · obtain rfl : t.current ++ ['\''] = cs := hcurrent
    rw [inQuotes_concat, if_pos rfl, List.append_cons (inQuotes _), ← List.cons_append,
      List.append_cons _ '\\', List.append_cons _ '\'', run_concat_eq_some_iff] at hrun
    obtain ⟨v, -, hlast⟩ := hrun
    exact absurd (of_step_escaped hlast hescaped).1 (by decide)

/-- Where an opened text has come out so far, it was opened outside of quotes, with nothing in
the word before it. -/
theorem of_run_inQuotes (hrun : sh.run s ('\'' :: inQuotes cs) = some t)
    (ht : t.place = .single) (hcurrent : t.current = cs) :
    s.place = .bare ∧ s.words = t.words ∧ s.current = [] := by
  -- Back from the last character of the text, which has come out last.
  induction cs using List.reverseRecOn generalizing t with
  | nil =>
    have hstep : sh.step s '\'' = some t := (Option.bind_fun_some _).symm.trans hrun
    obtain ⟨hplace, -, rfl⟩ | ⟨-, hquote, -⟩ := of_step_single hstep ht
    · exact ⟨hplace, rfl, hcurrent⟩
    · exact absurd rfl hquote
  | append_singleton cs c ih =>
    rw [inQuotes_concat, ← List.cons_append] at hrun
    split at hrun
    · rename_i hc
      subst hc
      rw [List.append_cons _ '\'', List.append_cons _ '\\', List.append_cons _ '\'',
        run_concat_eq_some_iff] at hrun
      obtain ⟨u₃, h₃, hopen⟩ := hrun
      obtain ⟨u₂, h₂, hkept⟩ := run_concat_eq_some_iff.1 h₃
      obtain ⟨u₁, h₁, hescape⟩ := run_concat_eq_some_iff.1 h₂
      obtain ⟨u₀, h₀, hclose⟩ := run_concat_eq_some_iff.1 h₁
      obtain ⟨hbare, -, rfl⟩ | ⟨-, hquote, -⟩ := of_step_single hopen ht
      · obtain ⟨hsingle, rfl⟩ | ⟨hescaped, rfl⟩ := of_step_quote hkept hbare
        · obtain ⟨-, hquote, -⟩ | ⟨-, -, rfl⟩ := of_step_single hescape hsingle
          · cases hquote
          · have hlast : u₁.current ++ ['\\'] = cs ++ ['\''] := hcurrent
            cases List.singleton_inj.1 (List.append_inj_right' hlast rfl)
        · obtain ⟨-, hbefore, rfl⟩ := of_step_escaped hescape hescaped
          have hfront : u₁.current = cs := List.append_cancel_right hcurrent
          obtain ⟨hin, rfl⟩ := of_step_close h₀ hclose hbefore hfront
          have hopened := ih h₀ hin hfront
          exact hopened
      · exact absurd rfl hquote
    · rename_i hc
      obtain ⟨u, hfront, hlast⟩ := run_concat_eq_some_iff.1 hrun
      obtain ⟨-, hquote, -⟩ | ⟨hsingle, -, rfl⟩ := of_step_single hlast ht
      · exact absurd hquote hc
      · have hopened := ih hfront hsingle (List.append_cancel_right hcurrent)
        exact hopened

theorem word_of_run_quoted (hrun : sh.run s ('\'' :: cs ++ ['\'']) = some t)
    (ht : t.place = .bare) : t.word = some t.current := by
  obtain ⟨u, hopen, hclose⟩ := run_concat_eq_some_iff.1 hrun
  obtain ⟨hsingle, htu⟩ | ⟨-, htu⟩ := of_step_quote hclose ht
  · obtain hnil | ⟨front, c, hfront⟩ := List.eq_nil_or_concat ('\'' :: cs)
    · cases hnil
    · rw [hfront, List.concat_eq_append, run_concat_eq_some_iff] at hopen
      obtain ⟨v, -, hlast⟩ := hopen
      obtain ⟨-, -, hu⟩ | ⟨-, -, hu⟩ := of_step_single hlast hsingle
      all_goals
        rw [htu, hu]
        rfl
  · rw [htu]
    rfl

/-- Where a text between quotes, behind a blank, comes out as the last word, the blank stood
outside of quotes, and the words up to there are the ones before. -/
theorem of_run_quoted {words : List (List Char)}
    (hrun : sh.run s (' ' :: '\'' :: inQuotes cs ++ ['\'']) = some t) (ht : t.place = .bare)
    (hall : t.all = words ++ [cs]) : s.place = .bare ∧ s.all = words := by
  obtain ⟨v, hblank, hquoted⟩ := Option.bind_eq_some_iff.1 hrun
  rw [Reading.all, word_of_run_quoted hquoted ht] at hall
  obtain ⟨hwords, hcurrent⟩ := List.append_inj' hall rfl
  obtain ⟨u, hopen, hclose⟩ := run_concat_eq_some_iff.1 hquoted
  obtain ⟨hsingle, rfl⟩ := of_step_close hopen hclose ht (List.singleton_inj.1 hcurrent)
  obtain ⟨hbare, hv, hempty⟩ := of_run_inQuotes hopen hsingle (List.singleton_inj.1 hcurrent)
  obtain ⟨hplace, rfl⟩ | ⟨-, rfl⟩ := of_step_blank hblank hbare
  · exact ⟨hplace, hv.trans hwords⟩
  · exact absurd hempty (List.append_ne_nil_of_right_ne_nil _ (List.cons_ne_nil _ _))

/-- A text between quotes, with its own quotes written as such, is one more word. -/
theorem reads_quoted_iff {text : List Char} {words : List (List Char)} :
    sh.Reads (text ++ ' ' :: '\'' :: inQuotes cs ++ ['\'']) (words ++ [cs]) ↔
      sh.Reads text words := by
  rw [List.append_assoc]
  constructor
  · rintro ⟨t, hrun, hplace, hall⟩
    rw [run_append, Option.bind_eq_some_iff] at hrun
    obtain ⟨s, hfront, hquoted⟩ := hrun
    exact ⟨s, hfront, of_run_quoted hquoted hplace hall⟩
  · rintro ⟨s, hrun, hplace, hall⟩
    refine ⟨⟨.bare, s.all, some cs⟩, ?_, rfl, by rw [← hall]; rfl⟩
    rw [run_append, hrun, Option.bind_some, List.cons_append, run_blank hplace]
    exact run_quoted rfl cs []

end Shell

end CloudClient
