import CloudClient.Proofs.Text.Split
import CloudClient.Settings.Ini
import Mathlib.Data.List.Induction

/-!
# Sections — what the lines of a file say

A section of a file is all the lines below headers of its name.  Each line of it gives a value to
a key or says nothing, and of several values for one key the last counts.

* `read_eq_header_iff`, `read_eq_assignment_iff`: what stands on a line.
* `find?_valuesOf_iff`: the value of a key is given by the last line that assigns to it.
* `values_sectionText`: a section that is written among others is read back.
* `values_by_lines`: the three together.
-/

namespace CloudClient.Settings

open Text

/-- A text that can be given on a line: it has no line end and no blanks around it. -/
structure OneLine (t : String) : Prop where
  nonempty : t ≠ ""
  trimmed : trim t.toList = t.toList
  single : '\n' ∉ t.toList

namespace Ini

/-! ## What stands on a line -/

/-- The line is a header: a title in brackets. -/
def Titled (line : List Char) (title : String) : Prop :=
  ∃ inner, trim line = '[' :: (inner ++ [']']) ∧ title = .ofList (trim inner)

def IsHeader (line : List Char) : Prop := ∃ title, Titled line title

/-- The line gives a value to a key: it is no comment, and its first separator stands between
the key and a value that is not blank. -/
def Assigns (line : List Char) (key value : String) : Prop :=
  (∀ c ∈ (trim line).head?, c ≠ '#' ∧ c ≠ ';') ∧
    ∃ left separator right, trim line = left ++ separator :: right ∧
      Line.isSeparator separator = true ∧ (∀ c ∈ left, Line.isSeparator c = false) ∧
      key = asciiLower (.ofList (trim left)) ∧ value = .ofList (trim right) ∧ trim right ≠ []

theorem bracketed?_eq_some_iff {cs inner : List Char} :
    Line.bracketed? cs = some inner ↔ cs = '[' :: (inner ++ [']']) := by
  unfold Line.bracketed?
  split
  · rename_i r
    rw [dropTail?_eq_some_iff, List.cons.injEq, and_iff_right rfl]
  · rename_i hno
    refine iff_of_false nofun ?_
    rintro rfl
    exact hno _ rfl

theorem ofAssignment_eq_iff {cs : List Char} {key value : String} :
    Line.ofAssignment cs = .assignment key value ↔
      ∃ left separator right, cs = left ++ separator :: right ∧
        Line.isSeparator separator = true ∧ (∀ c ∈ left, Line.isSeparator c = false) ∧
        key = asciiLower (.ofList (trim left)) ∧ value = .ofList (trim right) ∧
        trim right ≠ [] := by
  constructor
  · intro h
    unfold Line.ofAssignment at h
    split at h
    · cases h
    · rename_i left right hsplit
      obtain ⟨separator, hseparator, rfl, hleft⟩ := append_of_splitOnce? hsplit
      split at h
      · cases h
      · rename_i hvalue
        obtain ⟨rfl, rfl⟩ := Line.assignment.inj h
        refine ⟨left, separator, right, rfl, hseparator, hleft, ?_, rfl, ?_⟩
        · rw [asciiLower, String.toList_ofList]
        · simpa using hvalue
  · rintro ⟨left, separator, right, rfl, hseparator, hleft, rfl, rfl, hvalue⟩
    rw [Line.ofAssignment, splitOnce?_append hleft hseparator]
    dsimp only
    rw [if_neg (by simpa using hvalue), asciiLower, String.toList_ofList]

theorem read_eq_header_iff {line : List Char} {title : String} :
    Line.read line = .header title ↔ Titled line title := by
  rw [Line.read, Titled]
  generalize trim line = cs
  constructor
  · intro h
    unfold Line.ofTrimmed at h
    split at h
    · cases h
    · cases h
    · cases h
    · split at h
      · rename_i inner hinner
        obtain rfl := Line.header.inj h
        exact ⟨inner, bracketed?_eq_some_iff.1 hinner, rfl⟩
      · rename_i hnone
        unfold Line.ofAssignment at h
        split at h
        · cases h
        · split at h <;> cases h
  · rintro ⟨inner, rfl, rfl⟩
    have hinner : Line.bracketed? ('[' :: (inner ++ [']'])) = some inner :=
      bracketed?_eq_some_iff.2 rfl
    unfold Line.ofTrimmed
    rw [hinner]
    rfl

theorem isHeader_iff {line : List Char} :
    IsHeader line ↔ ∃ inner, Line.bracketed? (trim line) = some inner := by
  constructor
  · rintro ⟨title, inner, hinner, -⟩
    exact ⟨inner, bracketed?_eq_some_iff.2 hinner⟩
  · rintro ⟨inner, hinner⟩
    exact ⟨_, inner, bracketed?_eq_some_iff.1 hinner, rfl⟩

theorem read_eq_assignment_iff {line : List Char} {key value : String} :
    Line.read line = .assignment key value ↔ ¬ IsHeader line ∧ Assigns line key value := by
  rw [Line.read, Assigns, ← ofAssignment_eq_iff, isHeader_iff]
  generalize trim line = cs
  unfold Line.ofTrimmed
  split
  · simp [Line.ofAssignment, splitOnce?]
  · simp
  · simp
  · rename_i hhash hsemi
    have hstart : ∀ c ∈ cs.head?, c ≠ '#' ∧ c ≠ ';' := by
      intro c hc
      obtain ⟨r, rfl⟩ := List.head?_eq_some_iff.1 hc
      refine ⟨?_, ?_⟩
      · rintro rfl
        exact hhash r rfl
      · rintro rfl
        exact hsemi r rfl
    cases Line.bracketed? cs with
    | none => exact ⟨fun h => ⟨by simp, hstart, h⟩, fun h => h.2.2⟩
    | some inner => simp

/-! ## Lines of a section -/

/-- The lines end inside a section of a name: the last header among them has that name, up to
the case of letters. -/
def Within (name : String) (lines : List (List Char)) : Prop :=
  ∃ front header back title, lines = front ++ header :: back ∧ Titled header title ∧
    equalIgnoringCase title name = true ∧ ∀ line ∈ back, ¬ IsHeader line

/-- A line gives a value to a key of a section, where some lines stand before it. -/
def AssignedBy (name : String) (before : List (List Char)) (line : List Char)
    (key value : String) : Prop :=
  Within name before ∧ ¬ IsHeader line ∧ Assigns line key value

/-- A key of a section has the value that the last of its assignments gives. -/
def LastAssigned (name : String) (lines : List (List Char)) (key value : String) : Prop :=
  ∃ before line after, lines = before ++ line :: after ∧ AssignedBy name before line key value ∧
    ∀ middle later rest other, after = middle ++ later :: rest →
      ¬ AssignedBy name (before ++ line :: middle) later key other

theorem Titled.eq {line : List Char} {a b : String} (ha : Titled line a) (hb : Titled line b) :
    a = b :=
  Line.header.inj ((read_eq_header_iff.2 ha).symm.trans (read_eq_header_iff.2 hb))

theorem isInside_append (name : String) (inside : Bool) (first second : List Line) :
    isInside name inside (first ++ second) = isInside name (isInside name inside first) second := by
  induction first generalizing inside with
  | nil => rfl
  | cons line r ih => cases line <;> simp [isInside, ih]

/-- Where a list with one more element at its end is taken apart: at that element, or before. -/
theorem concat_eq_iff {α : Type} {xs front back : List α} {last x : α} :
    xs ++ [last] = front ++ x :: back ↔
      (xs = front ∧ last = x ∧ back = []) ∨
        ∃ rest, xs = front ++ x :: rest ∧ back = rest ++ [last] := by
  constructor
  · intro h
    obtain rfl | ⟨rest, y, rfl⟩ := List.eq_nil_or_concat back
    · obtain ⟨rfl, hlast⟩ := List.append_inj' h rfl
      exact .inl ⟨rfl, (List.cons.inj hlast).1, rfl⟩
    · rw [List.concat_eq_append, ← List.cons_append, ← List.append_assoc] at h
      obtain ⟨rfl, hlast⟩ := List.append_inj' h rfl
      obtain ⟨rfl, -⟩ := List.cons.inj hlast
      exact .inr ⟨rest, rfl, List.concat_eq_append⟩
  · rintro (⟨rfl, rfl, rfl⟩ | ⟨rest, rfl, rfl⟩)
    · rfl
    · simp

theorem within_concat_of_titled {name title : String} {lines : List (List Char)}
    {line : List Char} (h : Titled line title) :
    Within name (lines ++ [line]) ↔ equalIgnoringCase title name = true := by
  constructor
  · rintro ⟨front, header, back, other, hlines, hother, hname, hback⟩
    obtain ⟨-, rfl, -⟩ | ⟨rest, -, rfl⟩ := concat_eq_iff.1 hlines
    · rwa [h.eq hother]
    · exact absurd ⟨title, h⟩ (hback line (by simp))
  · intro hname
    exact ⟨lines, line, [], title, rfl, h, hname, by simp⟩

theorem within_concat_of_not_isHeader {name : String} {lines : List (List Char)}
    {line : List Char} (h : ¬ IsHeader line) :
    Within name (lines ++ [line]) ↔ Within name lines := by
  constructor
  · rintro ⟨front, header, back, title, hlines, htitle, hname, hback⟩
    obtain ⟨-, rfl, -⟩ | ⟨rest, rfl, rfl⟩ := concat_eq_iff.1 hlines
    · exact absurd ⟨title, htitle⟩ h
    · exact ⟨front, header, rest, title, rfl, htitle, hname,
        fun l hl => hback l (List.mem_append_left _ hl)⟩
  · rintro ⟨front, header, back, title, rfl, htitle, hname, hback⟩
    refine ⟨front, header, back ++ [line], title, by simp, htitle, hname, ?_⟩
    exact List.forall_mem_append.2 ⟨hback, by simpa using h⟩

theorem isInside_read_iff {name : String} (lines : List (List Char)) :
    isInside name false (lines.map Line.read) = true ↔ Within name lines := by
  induction lines using List.reverseRecOn with
  | nil =>
    refine iff_of_false nofun ?_
    rintro ⟨front, header, back, title, hlines, -⟩
    simp at hlines
  | append_singleton lines line ih =>
    rw [List.map_append, isInside_append]
    by_cases h : IsHeader line
    · obtain ⟨title, htitle⟩ := h
      rw [within_concat_of_titled htitle, List.map_singleton, read_eq_header_iff.2 htitle]
      rfl
    · rw [within_concat_of_not_isHeader h, ← ih, List.map_singleton]
      cases hread : Line.read line with
      | header title => exact absurd ⟨title, read_eq_header_iff.1 hread⟩ h
      | assignment key value => rfl
      | empty => rfl

/-! ## The values of a section -/

def valuesOf (name : String) (lines : List (List Char)) : Fields String :=
  Fields.ofList (assignments name false (lines.map Line.read))

theorem values_eq (text name : String) : values text name = valuesOf name (lines text.toList) := rfl

section Concat

variable {name key value : String} {lines : List (List Char)} {line : List Char}

theorem assignments_concat :
    assignments name false ((lines ++ [line]).map Line.read) =
      assignments name false (lines.map Line.read) ++
        assignments name (isInside name false (lines.map Line.read)) [Line.read line] := by
  rw [List.map_append, assignments_append, List.map_singleton]

theorem valuesOf_concat_of_assigned (h : AssignedBy name lines line key value) :
    valuesOf name (lines ++ [line]) = Fields.insert key value (valuesOf name lines) := by
  obtain ⟨hwithin, hline⟩ := h
  rw [valuesOf, assignments_concat, (isInside_read_iff lines).2 hwithin,
    read_eq_assignment_iff.2 hline]
  exact Fields.ofList_concat _ key value

theorem assignments_of_not (h : ∀ key value, ¬ AssignedBy name lines line key value) :
    assignments name (isInside name false (lines.map Line.read)) [Line.read line] = [] := by
  cases hread : Line.read line with
  | header title => rfl
  | empty => rfl
  | assignment key value =>
    cases hinside : isInside name false (lines.map Line.read) with
    | false => rfl
    | true =>
      exact absurd ⟨(isInside_read_iff lines).1 hinside, read_eq_assignment_iff.1 hread⟩
        (h key value)

theorem valuesOf_concat_of_not (h : ∀ key value, ¬ AssignedBy name lines line key value) :
    valuesOf name (lines ++ [line]) = valuesOf name lines := by
  rw [valuesOf, assignments_concat, assignments_of_not h, List.append_nil, valuesOf]

/-- A line that is no header and assigns nothing to the section may as well be missing. -/
theorem valuesOf_append_cons (hline : ¬ IsHeader line)
    (h : ∀ key value, ¬ AssignedBy name lines line key value) (after : List (List Char)) :
    valuesOf name (lines ++ line :: after) = valuesOf name (lines ++ after) := by
  have hstays (inside : Bool) : isInside name inside [Line.read line] = inside := by
    cases hread : Line.read line with
    | header title => exact absurd ⟨title, read_eq_header_iff.1 hread⟩ hline
    | assignment key value => rfl
    | empty => rfl
  have hnothing := assignments_of_not h
  rw [valuesOf, valuesOf, List.map_append, List.map_append, assignments_append,
    assignments_append, List.map_cons, ← List.singleton_append, assignments_append, hnothing,
    hstays, List.nil_append]

end Concat

theorem AssignedBy.eq {name key value other : String} {before : List (List Char)}
    {line : List Char} (h : AssignedBy name before line key value)
    (ho : AssignedBy name before line key other) : value = other :=
  (Line.assignment.inj
    ((read_eq_assignment_iff.2 h.2).symm.trans (read_eq_assignment_iff.2 ho.2))).2

section Last

variable {name key value : String} {lines : List (List Char)} {line : List Char}

theorem lastAssigned_concat_of_assigned {given : String}
    (h : AssignedBy name lines line key given) :
    LastAssigned name (lines ++ [line]) key value ↔ given = value := by
  constructor
  · rintro ⟨before, l, after, hlines, hassigned, hlast⟩
    obtain ⟨rfl, rfl, -⟩ | ⟨rest, rfl, rfl⟩ := concat_eq_iff.1 hlines
    · exact h.eq hassigned
    · exact absurd h (hlast rest line [] given rfl)
  · rintro rfl
    refine ⟨lines, line, [], rfl, h, fun middle later rest other hnil => ?_⟩
    simp at hnil

theorem lastAssigned_concat_of_not (h : ∀ given, ¬ AssignedBy name lines line key given) :
    LastAssigned name (lines ++ [line]) key value ↔ LastAssigned name lines key value := by
  constructor
  · rintro ⟨before, l, after, hlines, hassigned, hlast⟩
    obtain ⟨rfl, rfl, -⟩ | ⟨rest, rfl, rfl⟩ := concat_eq_iff.1 hlines
    · exact absurd hassigned (h value)
    · refine ⟨before, l, rest, rfl, hassigned, ?_⟩
      rintro middle later back other rfl
      exact hlast middle later (back ++ [line]) other (by simp)
  · rintro ⟨before, l, after, rfl, hassigned, hlast⟩
    refine ⟨before, l, after ++ [line], by simp, hassigned, fun middle later back other hafter => ?_⟩
    obtain ⟨rfl, rfl, -⟩ | ⟨rest, rfl, rfl⟩ := concat_eq_iff.1 hafter
    · exact h other
    · exact hlast middle later rest other rfl

end Last

theorem find?_valuesOf_iff {name key value : String} (lines : List (List Char)) :
    Fields.find? key (valuesOf name lines) = some value ↔ LastAssigned name lines key value := by
  induction lines using List.reverseRecOn with
  | nil =>
    refine iff_of_false nofun ?_
    rintro ⟨before, line, after, hlines, -⟩
    simp at hlines
  | append_singleton lines line ih =>
    by_cases h : ∃ given, AssignedBy name lines line key given
    · obtain ⟨given, hgiven⟩ := h
      rw [lastAssigned_concat_of_assigned hgiven, valuesOf_concat_of_assigned hgiven,
        Fields.find?_insert, if_pos rfl, Option.some.injEq]
    · have hnone : ∀ given, ¬ AssignedBy name lines line key given := not_exists.1 h
      rw [lastAssigned_concat_of_not hnone, ← ih]
      by_cases hother : ∃ k v, AssignedBy name lines line k v
      · -- the line assigns to another key
        obtain ⟨k, v, hkv⟩ := hother
        have hne : k ≠ key := by
          rintro rfl
          exact hnone v hkv
        rw [valuesOf_concat_of_assigned hkv, Fields.find?_insert, if_neg hne]
      · rw [valuesOf_concat_of_not fun k v hkv => hother ⟨k, v, hkv⟩]

/-! ## Writing a section -/

/-- A key that can be written on a line: it has no line end and no blanks around it, it is in
lower case, and nothing in it can be taken for something else. -/
structure IsKey (key : String) : Prop where
  trimmed : trim key.toList = key.toList
  single : '\n' ∉ key.toList
  lower : asciiLower key = key
  plain : ∀ c ∈ key.toList, Line.isSeparator c = false
  start : ∀ c ∈ key.toList.head?, c ≠ '#' ∧ c ≠ ';' ∧ c ≠ '['

/-- A key whose characters are looked at one by one. -/
theorem isKey_of_chars {key : String} (trimmed : trim key.toList = key.toList)
    (single : '\n' ∉ key.toList) (lower : asciiLower key = key)
    (plain : key.toList.any Line.isSeparator = false)
    (start : (key.toList.head?.any fun c => c == '#' || c == ';' || c == '[') = false) :
    IsKey key := by
  refine ⟨trimmed, single, lower, fun c hc => ?_, fun c hc => ?_⟩
  · simpa using List.any_eq_false.1 plain c hc
  · rw [show key.toList.head? = some c from hc] at start
    simpa [and_assoc] using start

/-- A name that can be written in a header. -/
structure IsTitle (name : String) : Prop where
  trimmed : trim name.toList = name.toList
  single : '\n' ∉ name.toList

def entriesText : Fields String → String
  | [] => ""
  | (key, value) :: rest => key ++ " = " ++ value ++ "\n" ++ entriesText rest

/-- A section: its header, and a line for each key. -/
def sectionText (name : String) (fs : Fields String) : String :=
  "[" ++ name ++ "]\n" ++ entriesText fs

def endLine (text : String) : String :=
  if text.toList.getLast?.all (· == '\n') then text else text ++ "\n"

/-- Every header of a text has another name. -/
def Foreign (name text : String) : Prop :=
  ∀ line ∈ lines text.toList, ∀ title, Titled line title → equalIgnoringCase title name = false

def isOther (name : String) : Line → Bool
  | .header title => !equalIgnoringCase title name
  | _ => true

theorem foreign_of_lines {name text : String}
    (h : ((lines text.toList).map Line.read).all (isOther name) = true) : Foreign name text := by
  intro line hline title htitle
  have hread := List.all_eq_true.1 h _ (List.mem_map_of_mem hline)
  rw [read_eq_header_iff.2 htitle] at hread
  simpa [isOther] using hread

def StartsWithHeader (text : String) : Prop :=
  ∃ header rest, lines text.toList = header :: rest ∧ IsHeader header

theorem read_eq_of_trim_eq {a b : List Char} (h : trim a = trim b) : Line.read a = Line.read b := by
  rw [Line.read, h, Line.read]

theorem titled_header {name : String} (h : IsTitle name) :
    Titled ('[' :: (name.toList ++ [']'])) name := by
  refine ⟨name.toList, ?_, ?_⟩
  · rw [← List.cons_append]
    exact trim_closed (by decide) (by decide)
  · rw [h.trimmed, String.ofList_toList]

section Entry

variable {key value : String} (hkey : IsKey key) (hvalue : OneLine value)

include hvalue in
theorem getLast?_append_value (front : List Char) :
    ∀ c ∈ (front ++ value.toList).getLast?, isBlank c = false := by
  have hne : value.toList ≠ [] := fun h => hvalue.nonempty (String.toList_eq_nil_iff.1 h)
  have hlast := List.getLast?_eq_some_getLast hne
  rw [List.getLast?_append, hlast, Option.some_or, ← hlast]
  exact (trim_eq_self_iff.1 hvalue.trimmed).2

include hkey hvalue in
/-- The line of a key, without the blanks around it. -/
theorem trim_entry : ∃ left, trim (key.toList ++ ' ' :: '=' :: ' ' :: value.toList) =
      left ++ '=' :: ' ' :: value.toList ∧ trim left = key.toList ∧
      (∀ c ∈ left, Line.isSeparator c = false) ∧
      ∀ c ∈ (left ++ ['=']).head?, c ≠ '#' ∧ c ≠ ';' ∧ c ≠ '[' := by
  have hend := getLast?_append_value hvalue
  cases hcs : key.toList with
  | nil =>
    -- the line starts with its separator
    refine ⟨[], ?_, rfl, by simp, by simp⟩
    rw [List.nil_append, List.nil_append, trim, trimStart_cons_of_isBlank (by decide), ← trim]
    refine trim_eq_self_iff.2 ⟨by simp [isBlank], ?_⟩
    exact hend ['=', ' ']
  | cons c r =>
    have htrimmed := hkey.trimmed
    have hplain := hkey.plain
    have hstart := hkey.start
    rw [hcs] at htrimmed hplain hstart
    have hblank : isBlank c = false := (trim_eq_self_iff.1 htrimmed).1 c rfl
    refine ⟨c :: (r ++ [' ']), ?_, ?_, ?_, by simpa using hstart⟩
    · have hline : c :: r ++ ' ' :: '=' :: ' ' :: value.toList =
          c :: (r ++ [' ']) ++ '=' :: ' ' :: value.toList := by simp
      rw [hline]
      refine trim_eq_self_iff.2 ⟨by simpa using hblank, ?_⟩
      have hfront : c :: (r ++ [' ']) ++ '=' :: ' ' :: value.toList =
          (c :: (r ++ [' ', '=', ' '])) ++ value.toList := by simp
      rw [hfront]
      exact hend _
    · rw [← List.cons_append, trim_concat_of_isBlank (by decide), htrimmed]
    · have hspace : Line.isSeparator ' ' = false := rfl
      simpa [or_imp, forall_and, hspace] using hplain

include hkey hvalue in
theorem read_entry : Line.read (key.toList ++ ' ' :: '=' :: ' ' :: value.toList) =
    .assignment key value := by
  obtain ⟨left, htrim, hleft, hplain, hstart⟩ := trim_entry hkey hvalue
  have hhead : ∀ c ∈ (trim (key.toList ++ ' ' :: '=' :: ' ' :: value.toList)).head?,
      c ≠ '#' ∧ c ≠ ';' ∧ c ≠ '[' := by
    rw [htrim]
    cases left with
    | nil => simp
    | cons c r => simpa using hstart
  refine read_eq_assignment_iff.2 ⟨?_, fun c hc => ⟨(hhead c hc).1, (hhead c hc).2.1⟩, ?_⟩
  · rintro ⟨title, inner, hinner, -⟩
    rw [hinner] at hhead
    exact (hhead '[' rfl).2.2 rfl
  · have hright : trim (' ' :: value.toList) = value.toList := by
      rw [trim, trimStart_cons_of_isBlank (by decide), ← trim, hvalue.trimmed]
    refine ⟨left, '=', ' ' :: value.toList, htrim, rfl, hplain, ?_, ?_, ?_⟩
    · rw [hleft, String.ofList_toList, hkey.lower]
    · rw [hright, String.ofList_toList]
    · rw [hright]
      exact fun h => hvalue.nonempty (String.toList_eq_nil_iff.1 h)

end Entry

/-- What the lines of a section say, before whatever stands behind it. -/
theorem map_read_entriesText {fs : Fields String} (h : ∀ e ∈ fs, IsKey e.1 ∧ OneLine e.2)
    (after : List Char) :
    (lines ((entriesText fs).toList ++ after)).map Line.read =
      fs.map (fun e => .assignment e.1 e.2) ++ (lines after).map Line.read := by
  induction fs with
  | nil => rfl
  | cons e rest ih =>
    obtain ⟨key, value⟩ := e
    obtain ⟨hkey, hvalue⟩ := h (key, value) List.mem_cons_self
    have hline : '\n' ∉ key.toList ++ ' ' :: '=' :: ' ' :: value.toList := by
      simp [hkey.single, hvalue.single]
    have htext : (entriesText ((key, value) :: rest)).toList ++ after =
        (key.toList ++ ' ' :: '=' :: ' ' :: value.toList) ++
          '\n' :: ((entriesText rest).toList ++ after) := by
      simp [entriesText]
    rw [htext, lines_cons hline, List.map_cons, read_eq_of_trim_eq (trim_dropReturn _),
      read_entry hkey hvalue, ih fun e he => h e (List.mem_cons_of_mem _ he)]
    rfl

theorem map_read_sectionText {name : String} {fs : Fields String} (hname : IsTitle name)
    (h : ∀ e ∈ fs, IsKey e.1 ∧ OneLine e.2) (after : List Char) :
    (lines ((sectionText name fs).toList ++ after)).map Line.read =
      .header name :: (fs.map (fun e => .assignment e.1 e.2) ++ (lines after).map Line.read) := by
  have hline : '\n' ∉ '[' :: (name.toList ++ [']']) := by simp [hname.single]
  have htext : (sectionText name fs).toList ++ after =
      '[' :: (name.toList ++ [']']) ++ '\n' :: ((entriesText fs).toList ++ after) := by
    simp [sectionText]
  rw [htext, lines_cons hline, List.map_cons, read_eq_of_trim_eq (trim_dropReturn _),
    read_eq_header_iff.2 (titled_header hname), map_read_entriesText h]

/-- Inside a section its entries are read one by one. -/
theorem assignments_entries (name : String) (fs : Fields String) (after : List Line) :
    assignments name true (fs.map (fun e => .assignment e.1 e.2) ++ after) =
      fs ++ assignments name true after := by
  induction fs with
  | nil => rfl
  | cons e rest ih => simp [assignments, ih]

theorem header_mem_map_read {name text : String} (h : Foreign name text) :
    ∀ other, .header other ∈ (lines text.toList).map Line.read →
      equalIgnoringCase other name = false := by
  intro other hother
  obtain ⟨line, hline, hread⟩ := List.mem_map.1 hother
  exact h line hline other (read_eq_header_iff.1 hread)

/-- A text that starts with a header of another name ends the section before it. -/
theorem assignments_foreign {name text : String} (h : Foreign name text)
    (hstart : StartsWithHeader text) (inside : Bool) :
    assignments name inside ((lines text.toList).map Line.read) = [] := by
  obtain ⟨header, rest, hlines, title, htitle⟩ := hstart
  have hforeign := header_mem_map_read h
  rw [hlines, List.map_cons, read_eq_header_iff.2 htitle] at hforeign ⊢
  have hname := hforeign title List.mem_cons_self
  have hrest := assignments_of_headers fun other ho => hforeign other (List.mem_cons_of_mem _ ho)
  cases inside <;> rw [assignments, hname, hrest]

theorem foreign_endLine {name text : String} (h : Foreign name text) :
    Foreign name (endLine text) := by
  intro line hline title htitle
  unfold endLine at hline
  split at hline
  · exact h line hline title htitle
  · rw [String.toList_append] at hline
    obtain hblank | ⟨l, hl, htrim⟩ := mem_lines_concat hline
    · obtain ⟨inner, hinner, -⟩ := htitle
      rw [hblank] at hinner
      cases hinner
    · rw [Titled, htrim] at htitle
      exact h l hl title htitle

theorem lines_endLine_append (text : String) (after : List Char) :
    lines ((endLine text).toList ++ after) = lines (endLine text).toList ++ lines after := by
  have hend : (endLine text).toList = [] ∨ ∃ front, (endLine text).toList = front ++ ['\n'] := by
    unfold endLine
    split
    · rename_i h
      obtain hnil | ⟨front, c, hcs⟩ := List.eq_nil_or_concat text.toList
      · exact .inl hnil
      · rw [List.concat_eq_append] at hcs
        rw [hcs, List.getLast?_concat, Option.all_some, beq_iff_eq] at h
        exact .inr ⟨front, by rw [hcs, h]⟩
    · exact .inr ⟨text.toList, String.toList_append⟩
  obtain hnil | ⟨front, hfront⟩ := hend
  · rw [hnil]
    rfl
  · rw [hfront, List.append_assoc, List.singleton_append, lines_append]

/-- A section is read back wherever it stands among sections of other names. -/
theorem values_sectionText {name : String} {fs : Fields String} (hname : IsTitle name)
    (hfs : fs.Sorted) (h : ∀ e ∈ fs, IsKey e.1 ∧ OneLine e.2) {before : String}
    (hbefore : Foreign name before) {after : String}
    (hafter : after = "" ∨ Foreign name after ∧ StartsWithHeader after) :
    values (endLine before ++ sectionText name fs ++ after) name = fs := by
  have hsame : equalIgnoringCase name name = true := beq_self_eq_true _
  have hrest : assignments name true ((lines after.toList).map Line.read) = [] := by
    obtain rfl | ⟨hforeign, hstart⟩ := hafter
    · rfl
    · exact assignments_foreign hforeign hstart true
  have hfront := assignments_of_headers (header_mem_map_read (foreign_endLine hbefore))
  have hlines : (lines (endLine before ++ sectionText name fs ++ after).toList).map Line.read =
      (lines (endLine before).toList).map Line.read ++
        .header name :: (fs.map (fun e => .assignment e.1 e.2) ++
          (lines after.toList).map Line.read) := by
    rw [String.toList_append, String.toList_append, List.append_assoc, lines_endLine_append,
      List.map_append, map_read_sectionText hname h]
  rw [values, hlines, assignments_append, hfront, List.nil_append, assignments, hsame,
    assignments_entries, hrest, List.append_nil, Fields.ofList_of_sorted hfs]

/-- The values of a section are those that its lines give, of several for one key the last; other
lines may as well be missing; and a section that is written before, behind or between others is
read back. -/
theorem values_by_lines (name : String) :
    (∀ text key value, Fields.find? key (values text name) = some value ↔
      LastAssigned name (lines text.toList) key value) ∧
    (∀ text shorter before line after, lines text.toList = before ++ line :: after →
      lines shorter.toList = before ++ after → ¬ IsHeader line →
      (∀ key value, ¬ AssignedBy name before line key value) →
      values text name = values shorter name) ∧
    ∀ fs before after, IsTitle name → fs.Sorted → (∀ e ∈ fs, IsKey e.1 ∧ OneLine e.2) →
      Foreign name before → (after = "" ∨ Foreign name after ∧ StartsWithHeader after) →
      values (endLine before ++ sectionText name fs ++ after) name = fs := by
  refine ⟨fun text key value => ?_, ?_, ?_⟩
  · exact find?_valuesOf_iff (lines text.toList)
  · intro text shorter before line after hlines hshorter hline hnone
    rw [values_eq, values_eq, hlines, hshorter, valuesOf_append_cons hline hnone]
  · intro fs before after hname hsorted hfs hbefore hafter
    exact values_sectionText hname hsorted hfs hbefore hafter

/-- Two settings between sections of other names, and a file with an assignment of nothing. -/
theorem values_by_lines_settings :
    let fs : Fields String := [("timeout", "60"), ("username", "a = b")]
    let before := "proxy = x\n[other]\nusername = nobody"
    let after := "[last]\ntimeout: 5\n"
    IsTitle "softlayer" ∧ fs.Sorted ∧ (∀ e ∈ fs, IsKey e.1 ∧ OneLine e.2) ∧
      Foreign "softlayer" before ∧ Foreign "softlayer" after ∧ StartsWithHeader after ∧
      values (endLine before ++ sectionText "softlayer" fs ++ after) "softlayer" = fs ∧
      values "[SoftLayer]\nproxy = y\nproxy =\n" "softlayer" =
        values "[SoftLayer]\nproxy = y\n" "softlayer" := by
  intro fs before after
  have hname : IsTitle "softlayer" := ⟨by decide, by decide⟩
  have hsorted : fs.Sorted := List.pairwise_pair.2 (show "timeout" < "username" by decide +kernel)
  have hfs : ∀ e ∈ fs, IsKey e.1 ∧ OneLine e.2 := by
    intro e he
    simp only [fs, List.mem_cons, List.not_mem_nil, or_false] at he
    rcases he with rfl | rfl
    · exact ⟨isKey_of_chars (by decide) (by decide) (by decide) (by decide) (by decide),
        ⟨by decide, by decide, by decide⟩⟩
    · exact ⟨isKey_of_chars (by decide) (by decide) (by decide) (by decide) (by decide),
        ⟨by decide, by decide, by decide⟩⟩
  have hbefore : Foreign "softlayer" before := foreign_of_lines (by decide)
  have hafter : Foreign "softlayer" after := foreign_of_lines (by decide)
  have hstart : StartsWithHeader after :=
    ⟨"[last]".toList, ["timeout: 5".toList], by decide, "last", read_eq_header_iff.1 (by decide)⟩
  obtain ⟨-, hshorter, hsection⟩ := values_by_lines "softlayer"
  refine ⟨hname, hsorted, hfs, hbefore, hafter, hstart, ?_, ?_⟩
  · exact hsection fs before after hname hsorted hfs hbefore (.inr ⟨hafter, hstart⟩)
  · -- the line with nothing behind its separator is read as empty
    have hempty : Line.read "proxy =".toList = .empty := by decide
    refine hshorter _ _ ["[SoftLayer]".toList, "proxy = y".toList] "proxy =".toList []
      (by decide) (by decide) ?_ ?_
    · rintro ⟨title, htitle⟩
      rw [read_eq_header_iff.2 htitle] at hempty
      cases hempty
    · rintro key value ⟨-, hassigns⟩
      rw [read_eq_assignment_iff.2 hassigns] at hempty
      cases hempty

end Ini

end CloudClient.Settings
