import CloudClient.Call.Prepared
import CloudClient.Proofs.Text.Shell
import CloudClient.Proofs.Text.Split

/-!
# The curl command in a shell

What a shell reads where the `curl` command of a request is pasted.  The quotes in a body are
written as `'\''`, and the body is one word whatever it is.  The address and the headers are
written as they are, and a quote in them ends the text that it stands in.

* `Shell.reads_items_iff`: a program and its items, bare or between quotes, are read as such
  exactly if no item has a quote.
* `PreparedRequest.toList_curl`: the command, item by item.
* `PreparedRequest.curl_words_iff`: when the command is read as the words it is written for.
-/

namespace CloudClient

namespace Shell

/-! ## Items -/

/-- A word that is written as it is, bare or between single quotes. -/
inductive Item where
  | bare (word : String)
  | quoted (word : String)
deriving Repr

namespace Item

def word : Item → String
  | bare w => w
  | quoted w => w

/-- What is written for it, behind a blank. -/
def written : Item → List Char
  | bare w => ' ' :: w.toList
  | quoted w => ' ' :: '\'' :: (w.toList ++ ['\''])

/-- A word that stands for itself, as it is written. -/
inductive IsPlain : Item → Prop
  | bare {w : String} (hne : w.toList ≠ []) (h : w.toList.all isWordChar = true) :
    IsPlain (.bare w)
  | quoted {w : String} (h : '\'' ∉ w.toList) : IsPlain (.quoted w)

/-- An item costs its word and a blank; its quotes cost themselves. -/
theorem length_written (item : Item) :
    item.written.length + item.word.toList.count '\'' =
      item.word.toList.length + 1 + item.written.count '\'' := by
  cases item with
  | bare w => simp [written, word]
  | quoted w =>
    have hcount : (quoted w).written.count '\'' = w.toList.count '\'' + 2 := by
      simp [written]
    have hlength : (quoted w).written.length = w.toList.length + 3 := by
      simp [written]
    rw [hcount, hlength, word]
    omega

theorem length_flatMap_written (items : List Item) :
    (items.flatMap written).length + (items.flatMap (·.word.toList)).count '\'' =
      (items.flatMap (·.word.toList)).length + items.length +
        (items.flatMap written).count '\'' := by
  induction items with
  | nil => rfl
  | cons item items ih =>
    have hitem := item.length_written
    simp only [List.flatMap_cons, List.length_append, List.count_append, List.length_cons]
    omega

end Item

variable {sh : Shell} {s t : Reading} {items : List Item}

theorem run_written {item : Item} (h : item.IsPlain) (hs : s.place = .bare) (r : List Char) :
    sh.run s (item.written ++ r) = sh.run ⟨.bare, s.all, some item.word.toList⟩ r := by
  cases h with
  | bare hne hchars => exact (run_blank hs _).trans (run_bare rfl hne hchars r)
  | @quoted w hquote =>
    have hquoted : sh.run ⟨.bare, s.all, none⟩ ('\'' :: (inQuotes w.toList ++ '\'' :: r)) =
        sh.run ⟨.bare, s.all, some w.toList⟩ r := run_quoted rfl w.toList r
    rw [inQuotes_of_not_mem hquote] at hquoted
    rw [Item.written, List.cons_append, List.cons_append, List.append_assoc, run_blank hs]
    exact hquoted

theorem run_items (h : ∀ item ∈ items, item.IsPlain) (hs : s.place = .bare) :
    ∃ t, sh.run s (items.flatMap Item.written) = some t ∧ t.place = .bare ∧
      t.all = s.all ++ items.map (·.word.toList) := by
  induction items generalizing s with
  | nil => exact ⟨s, rfl, hs, (List.append_nil _).symm⟩
  | cons item items ih =>
    obtain ⟨hitem, hitems⟩ := List.forall_mem_cons.1 h
    obtain ⟨t, hrun, hplace, hall⟩ := ih (s := ⟨.bare, s.all, some item.word.toList⟩) hitems rfl
    refine ⟨t, ?_, hplace, ?_⟩
    · rw [List.flatMap_cons, run_written hitem hs, hrun]
    · rw [hall, List.map_cons, List.append_cons]
      rfl

/-- If the items come out as words, nothing has gone into escaping a quote. -/
theorem not_mem_of_run_items (hs : s.place = .bare) (hword : s.word ≠ none)
    (hquote : '\'' ∉ s.output) (hrun : sh.run s (items.flatMap Item.written) = some t)
    (ht : t.place = .bare) (hall : t.all = s.all ++ items.map (·.word.toList)) :
    ∀ item ∈ items, '\'' ∉ item.word.toList := by
  have hweight := run_weight hrun
  have hlength := Item.length_flatMap_written items
  have hout : t.output = s.output ++ items.flatMap (·.word.toList) := by
    rw [Reading.output, hall, List.flatten_append, List.flatMap_def]
    rfl
  have hwords : s.words.length + items.length ≤ t.words.length := by
    have hall := congrArg List.length hall
    obtain ⟨w, hw⟩ := Option.ne_none_iff_exists'.1 hword
    have htoList : t.word.toList.length ≤ 1 := by cases t.word <;> simp
    simp only [Reading.all, hw, List.length_append, List.length_map, Option.toList_some,
      List.length_singleton] at hall
    omega
  -- every item has ended a word for its blank, so nothing is left for a margin
  have hnone : (items.flatMap (·.word.toList)).count '\'' = 0 := by
    rw [hout, hs, ht, List.count_append, List.count_eq_zero.2 hquote, List.length_append] at hweight
    simp only [margin] at hweight
    omega
  rw [List.count_eq_zero, List.mem_flatMap, not_exists] at hnone
  exact fun item hitem hmem => hnone item ⟨hitem, hmem⟩

/-- A program and its items are read as such exactly if no item has a quote. -/
theorem reads_items_iff (program : List Char) (hne : program ≠ [])
    (hprogram : program.all isWordChar = true)
    (hitems : ∀ item ∈ items, '\'' ∉ item.word.toList → item.IsPlain) :
    sh.Reads (program ++ items.flatMap Item.written) (program :: items.map (·.word.toList)) ↔
      ∀ item ∈ items, '\'' ∉ item.word.toList := by
  unfold Reads
  rw [run_bare rfl hne hprogram]
  constructor
  · rintro ⟨t, hrun, hplace, hall⟩
    have hquote : '\'' ∉ (Reading.start.after .bare (.put program)).output := by
      rw [Reading.output_after]
      exact fun hmem => absurd (List.all_eq_true.1 hprogram '\'' hmem) (by decide)
    exact not_mem_of_run_items rfl (Option.some_ne_none _) hquote hrun hplace hall
  · intro h
    exact run_items (fun item hitem => hitems item hitem (h item hitem)) rfl

end Shell

namespace PreparedRequest

open Shell (Item)

variable (p : PreparedRequest)

/-! ## The command -/

/-- The words that the command of a request is written for. -/
def commandWords : List String :=
  ["curl", "-X", p.verb.text, p.url] ++ p.headers.flatMap (fun h => ["-H", shownHeader h]) ++
    p.body.toList.flatMap fun b => ["-d", b]

/-- What stands between the program and the body. -/
def commandItems : List Item :=
  [.bare "-X", .bare p.verb.text, .quoted p.url] ++
    p.headers.flatMap (fun h => [.bare "-H", .quoted (shownHeader h)]) ++
    p.body.toList.map fun _ => .bare "-d"

theorem toList_commandWords :
    p.commandWords.map String.toList =
      "curl".toList :: p.commandItems.map (·.word.toList) ++ p.body.toList.map String.toList := by
  cases hb : p.body <;>
    simp [commandWords, commandItems, hb, List.map_flatMap, Item.word]

theorem toList_quotedBody (body : String) :
    (quotedBody body).toList = '\'' :: Shell.inQuotes body.toList ++ ['\''] := by
  rw [quotedBody, String.toList_append, String.toList_append, Text.join, Text.splitString,
    String.toList_intercalate]
  simp [Function.comp_def, Text.intercalate_splitAll_eq_flatMap, Shell.inQuotes]

theorem toList_curl :
    p.curl.toList = "curl".toList ++ p.commandItems.flatMap Item.written ++
      p.body.toList.flatMap fun b => ' ' :: '\'' :: Shell.inQuotes b.toList ++ ['\''] := by
  rw [curl, Text.join, String.toList_intercalate, List.cons_append, List.map_cons,
    Text.intercalate_cons_eq_flatMap]
  cases hb : p.body with
  | none =>
    simp [commandItems, hb, Item.written, List.flatMap_map, List.flatMap_assoc]
  | some b =>
    simp [commandItems, hb, Item.written, List.flatMap_map, List.flatMap_assoc, toList_quotedBody]

/-- Options and verbs need no quotes. -/
theorem isPlain_of_mem_commandItems :
    ∀ item ∈ p.commandItems, '\'' ∉ item.word.toList → item.IsPlain := by
  have hverb : Item.IsPlain (.bare p.verb.text) := by
    cases p.verb <;> exact .bare (by decide) (by decide)
  have hoption : ∀ option ∈ ["-X", "-H", "-d"], Item.IsPlain (.bare option) :=
    fun option h => .bare (by revert option; decide) (by revert option; decide)
  rw [commandItems, List.forall_mem_append, List.forall_mem_append, List.forall_mem_flatMap]
  simp only [List.forall_mem_cons, List.forall_mem_map]
  exact ⟨⟨⟨fun _ => hoption _ (by decide), fun _ => hverb, .quoted, List.forall_mem_nil _⟩,
    fun _ _ => ⟨fun _ => hoption _ (by decide), .quoted, List.forall_mem_nil _⟩⟩,
    fun _ _ _ => hoption _ (by decide)⟩

theorem forall_mem_commandItems :
    (∀ item ∈ p.commandItems, '\'' ∉ item.word.toList) ↔
      ∀ text ∈ p.url :: p.headers.map shownHeader, '\'' ∉ text.toList := by
  have hverb : '\'' ∉ p.verb.text.toList := by cases p.verb <;> decide
  have hbody : ∀ item ∈ p.body.toList.map fun _ => Item.bare "-d", '\'' ∉ item.word.toList :=
    List.forall_mem_map.2 fun _ _ => by decide
  rw [commandItems, List.forall_mem_append, List.forall_mem_append, and_iff_left hbody,
    List.forall_mem_flatMap]
  simp only [List.forall_mem_cons, List.forall_mem_map, Item.word]
  simp [hverb]

/-- A shell reads the command of a request as the words it is written for exactly if no quote
stands in the address or in a header as it is shown. -/
theorem curl_words_iff (sh : Shell) (p : PreparedRequest) :
    sh.words? p.curl = some p.commandWords ↔
      ∀ text ∈ p.url :: p.headers.map shownHeader, '\'' ∉ text.toList := by
  have hitems := sh.reads_items_iff "curl".toList (by decide) (by decide)
    p.isPlain_of_mem_commandItems
  rw [← forall_mem_commandItems, ← hitems, Shell.words?_eq_some_iff, toList_curl,
    toList_commandWords]
  cases p.body with
  | none =>
    rw [Option.toList_none, List.flatMap_nil, List.map_nil, List.append_nil, List.append_nil]
  | some b =>
    rw [Option.toList_some, List.flatMap_singleton, List.map_singleton, ← List.append_assoc]
    exact Shell.reads_quoted_iff

/-- With the quote of a header the quotes do not match, and no words are read. -/
theorem quote_in_header_not_reproduced :
    Shell.posix.words? (curl ⟨.get, "https://x/y", [("X-Note", "it's")], none⟩) ≠
      some (commandWords ⟨.get, "https://x/y", [("X-Note", "it's")], none⟩) := by
  decide +kernel

end PreparedRequest

end CloudClient
