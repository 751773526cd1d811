import CloudClient.Text.Search

/-!
# Places in a document

A cursor is what is left of a text together with the place where that starts: the
line, the column and the number of characters before it.  Indentation, the length of
keys and the marks between documents are all questions about places.

* `Cursor.rest_break_lt`: a line break takes characters.
-/

namespace CloudClient.Settings.Yaml

/-! ## Characters -/

def isAllowed (c : Char) : Bool :=
  let n := c.toNat
  n == 0x09 || n == 0x0A || n == 0x0D || (0x20 ≤ n && n ≤ 0x7E) || n == 0x85 ||
    (0xA0 ≤ n && n != 0xFFFE && n != 0xFFFF)

def isSpace (c : Char) : Bool := c == ' ' || c == '\t'

def isBreak (c : Char) : Bool :=
  c == '\n' || c == '\r' || c == '\u0085' || c == '\u2028' || c == '\u2029'

def isNameChar (c : Char) : Bool := c.isAlphanum || c == '_' || c == '-'

/-- Whether a word ends before a text: it is over, or a blank or a line break follows. -/
def endsWord : List Char → Bool
  | [] => true
  | c :: _ => isSpace c || isBreak c

/-! ## Cursors -/

/-- A place in a text and what follows it. -/
structure Cursor where
  rest : List Char
  index : Nat
  line : Nat
  /-- Characters of the line before this place. -/
  column : Nat

namespace Cursor

def ofText (cs : List Char) : Cursor := ⟨cs, 0, 0, 0⟩

/-- The place some characters later, on the same line. -/
def skip (n : Nat) (c : Cursor) : Cursor :=
  { c with rest := c.rest.drop n, index := c.index + n, column := c.column + n }

/-- The characters from here on that satisfy `p`, none of which breaks the line, and
the place after them. -/
def span (p : Char → Bool) (c : Cursor) : List Char × Cursor :=
  let taken := c.rest.takeWhile p
  (taken, c.skip taken.length)

def skipWhile (p : Char → Bool) (c : Cursor) : Cursor := (c.span p).2

/-- The place before a later part of the same line. -/
def moveTo (rest : List Char) (c : Cursor) : Cursor := c.skip (c.rest.length - rest.length)

/-- The line break at this place, as it is read, and the place after it.  All breaks
are read as `\n` but the two that separate lines and paragraphs by name. -/
def break? (c : Cursor) : Option (Char × Cursor) :=
  let after (n : Nat) : Cursor := ⟨c.rest.drop n, c.index + n, c.line + 1, 0⟩
  match c.rest with
  | '\r' :: '\n' :: _ => some ('\n', after 2)
  | x :: _ =>
    if x == '\u2028' || x == '\u2029' then some (x, after 1)
    else if isBreak x then some ('\n', after 1)
    else none
  | [] => none

def isAt (x : Char) (c : Cursor) : Bool := c.rest.head? == some x

/-- Whether three of one mark, which start or end a document, stand here. -/
def isBoundaryOf (mark : Char) (c : Cursor) : Bool :=
  c.column == 0 && c.rest.take 3 == [mark, mark, mark] && endsWord (c.rest.drop 3)

def isBoundary (c : Cursor) : Bool := c.isBoundaryOf '-' || c.isBoundaryOf '.'

/-- The start of the next line, if nothing but blanks and a comment is left of this one. -/
def nextLine? (c : Cursor) : Option Cursor :=
  let c := c.skipWhile isSpace
  let c := if c.isAt '#' then c.skipWhile (!isBreak ·) else c
  match c.break? with
  | some (_, d) => some d
  | none => if c.rest.isEmpty then some c else none

theorem rest_break_lt {c d : Cursor} {b : Char} (h : c.break? = some (b, d)) :
    d.rest.length < c.rest.length := by
  simp only [break?] at h
  split at h
  · rename_i heq
    obtain ⟨-, rfl⟩ := Prod.mk.inj (Option.some.inj h)
    simp only [heq, List.length_drop, List.length_cons]
    omega
  · rename_i heq
    split at h
    · obtain ⟨-, rfl⟩ := Prod.mk.inj (Option.some.inj h)
      simp [heq]
    · split at h
      · obtain ⟨-, rfl⟩ := Prod.mk.inj (Option.some.inj h)
        simp [heq]
      · cases h
  · cases h

end Cursor

end CloudClient.Settings.Yaml
