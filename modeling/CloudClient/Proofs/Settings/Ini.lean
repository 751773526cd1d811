import CloudClient.Proofs.Settings.Section
import CloudClient.Settings

/-!
# A setting in a file

Any text that fits on a line can be given to a setting by a file, and is read back as it is.

* `Ini.values_entryFile`: what a file with one setting says.
-/

namespace CloudClient.Settings

open Text

def settingNames : List String := variableNames.map (·.2)

theorem mem_settingNames {name key : String} (h : ofVariable? name = some key) :
    key ∈ settingNames := by
  obtain ⟨entry, hentry, rfl⟩ := Option.map_eq_some_iff.1 h
  exact List.mem_map_of_mem (List.mem_of_find?_eq_some hentry)

def entryFile (key t : String) : String :=
  "[" ++ sectionName ++ "]\n" ++ key ++ " = " ++ t ++ "\n"

namespace Ini

theorem isTitle_sectionName : IsTitle sectionName := ⟨by decide, by decide⟩

/-- The names of settings can be written on lines. -/
theorem isKey_of_mem {key : String} (hkey : key ∈ settingNames) : IsKey key := by
  simp only [settingNames, variableNames, List.map_cons, List.map_nil, List.mem_cons,
    List.not_mem_nil, or_false] at hkey
  rcases hkey with rfl | rfl | rfl | rfl | rfl <;>
    exact isKey_of_chars (by decide) (by decide) (by decide) (by decide) (by decide)

theorem values_entryFile {key t : String} (hkey : key ∈ settingNames) (ht : OneLine t) :
    values (entryFile key t) sectionName = [(key, t)] := by
  have hfile : entryFile key t = endLine "" ++ sectionText sectionName [(key, t)] ++ "" := by
    simp [entryFile, sectionText, entriesText, endLine, String.append_assoc]
  rw [hfile]
  refine values_sectionText isTitle_sectionName (List.pairwise_singleton _ _) ?_ ?_ (.inl rfl)
  · simpa using ⟨isKey_of_mem hkey, ht⟩
  · intro line hline
    cases hline

end Ini

end CloudClient.Settings
