import CloudClient.Fields
import CloudClient.Text.Search

/-!
# Sections of a settings file

A file is read line by line.  A line is a header, an assignment or nothing: blank
lines, comments, assignments of nothing and lines without a separator say nothing.
The values of a section are the assignments that stand below a header with its
name, the later ones over the earlier.

* `assignments_append`: what a file says is what its parts say, one after the other.
* `assignments_of_headers`: text below other headers says nothing about a section.
-/

namespace CloudClient.Settings.Ini

inductive Line where
  /-- The lines below belong to a section. -/
  | header (name : String)
  | assignment (key value : String)
  | empty
deriving DecidableEq, Repr

namespace Line

def isSeparator (c : Char) : Bool := c == '=' || c == ':'

def ofAssignment (cs : List Char) : Line :=
  match Text.splitOnce? isSeparator cs with
  | none => .empty
  | some (key, value) =>
    if (Text.trim value).isEmpty then .empty
    else
      .assignment (.ofList ((Text.trim key).map Char.toLower)) (.ofList (Text.trim value))

def bracketed? : List Char → Option (List Char)
  | '[' :: r => Text.dropTail? [']'] r
  | _ => none

/-- Reads a line without the blanks around it. -/
def ofTrimmed (cs : List Char) : Line :=
  match cs with
  | [] | '#' :: _ | ';' :: _ => .empty
  | _ =>
    match bracketed? cs with
    | some name => .header (.ofList (Text.trim name))
    | none => ofAssignment cs

def read (cs : List Char) : Line := ofTrimmed (Text.trim cs)

end Line

/-- The assignments of a section, in order; `inside` tells whether the lines start
inside it. -/
def assignments (name : String) : Bool → List Line → List (String × String)
  | _, [] => []
  | _, .header other :: r => assignments name (Text.equalIgnoringCase other name) r
  | true, .assignment key value :: r => (key, value) :: assignments name true r
  | false, .assignment _ _ :: r => assignments name false r
  | inside, .empty :: r => assignments name inside r

/-- Whether the line after some lines is inside a section. -/
def isInside (name : String) : Bool → List Line → Bool
  | inside, [] => inside
  | _, .header other :: r => isInside name (Text.equalIgnoringCase other name) r
  | inside, _ :: r => isInside name inside r

def values (text name : String) : Fields String :=
  Fields.ofList (assignments name false ((Text.lines text.toList).map Line.read))

/-! ## Laws -/

theorem assignments_append (name : String) (inside : Bool) (first second : List Line) :
    assignments name inside (first ++ second) =
      assignments name inside first ++ assignments name (isInside name inside first) second := by
  induction first generalizing inside with
  | nil => rfl
  | cons line r ih =>
    cases line <;> cases inside <;> simp [assignments, isInside, ih]

theorem assignments_of_headers {name : String} {lines : List Line}
    (h : ∀ other, .header other ∈ lines → Text.equalIgnoringCase other name = false) :
    assignments name false lines = [] := by
  induction lines with
  | nil => rfl
  | cons line r ih =>
    have hr := ih fun other ho => h other (List.mem_cons_of_mem _ ho)
    cases line with
    | header other => simp [assignments, h other List.mem_cons_self, hr]
    | assignment key value => simpa [assignments] using hr
    | empty => simpa [assignments] using hr

end CloudClient.Settings.Ini
