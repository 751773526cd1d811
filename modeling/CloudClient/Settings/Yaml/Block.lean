import CloudClient.Settings.Yaml.Cursor

/-!
# Scalars in blocks

A block scalar is the indented lines below its mark.  A literal one keeps its line
breaks; a folded one joins lines, but neither empty ones nor those that start with a
blank.  The line breaks at its end are stripped, clipped to one or kept.
-/

namespace CloudClient.Settings.Yaml.Block

/-- What becomes of the line breaks at the end of a scalar. -/
inductive Chomping where
  | strip
  | clip
  | keep
deriving DecidableEq, Repr

def Chomping.ofMark? : Char → Option Chomping
  | '-' => some .strip
  | '+' => some .keep
  | _ => none

/-- What stands behind the mark of a block scalar. -/
structure Header where
  chomping : Chomping
  /-- How far the scalar is indented; zero if its lines show it. -/
  indent : Nat
  length : Nat

def digit? (c : Char) : Option Nat :=
  if c.isDigit && c != '0' then some (c.toNat - '0'.toNat) else none

/-- Reads a header; the number of columns and the mark may come in either order. -/
def Header.read? : List Char → Option Header
  | [] => some ⟨.clip, 0, 0⟩
  | c :: r =>
    match Chomping.ofMark? c with
    | some chomping =>
      match r with
      | [] => some ⟨chomping, 0, 1⟩
      | d :: _ =>
        if d.isDigit then (digit? d).map fun n => ⟨chomping, n, 2⟩
        else some ⟨chomping, 0, 1⟩
    | none =>
      if c.isDigit then
        (digit? c).map fun n =>
          match r.head?.bind Chomping.ofMark? with
          | some chomping => ⟨chomping, n, 2⟩
          | none => ⟨.clip, n, 1⟩
      else some ⟨.clip, 0, 0⟩

/-- Reads the empty lines before a line of the scalar: their line breaks, the furthest
column reached, and the start of the text.  No tab may stand in the indentation;
`indent` is zero while it is not known. -/
def emptyLines? (indent widest : Nat) (c : Cursor) : Option (List Char × Nat × Cursor) :=
  let spaces := (c.rest.takeWhile (· == ' ')).length
  let d := c.skip (if indent = 0 then spaces else min spaces (indent - c.column))
  let widest := max widest d.column
  if (indent = 0 || d.column < indent) && d.isAt '\t' then none
  else
    match d.break? with
    | none => some ([], widest, d)
    | some (b, e) =>
      if _ : e.rest.length < c.rest.length then
        (emptyLines? indent widest e).map fun (breaks, rest) => (b :: breaks, rest)
      else none
termination_by c.rest.length

/-- What stands before a line of a scalar. -/
structure Before where
  /-- The line break of the line before. -/
  first : Option Char
  /-- Those of the empty lines between. -/
  more : List Char
  /-- Whether the line before starts with a blank. -/
  afterBlank : Bool

/-- How two lines are joined; `blank` tells whether the second starts with a blank. -/
def Before.joint (folded blank : Bool) (b : Before) : List Char :=
  if folded && b.first == some '\n' && !b.afterBlank && !blank then
    if b.more.isEmpty then [' '] else b.more
  else b.first.toList ++ b.more

/-- The line breaks that are left at the end. -/
def Before.tail (chomping : Chomping) (b : Before) : List Char :=
  match chomping with
  | .strip => []
  | .clip => b.first.toList
  | .keep => b.first.toList ++ b.more

def lines? (folded : Bool) (chomping : Chomping) (indent : Nat) (before : Before) (c : Cursor) :
    Option (List Char × Cursor) :=
  if c.column != indent || c.rest.isEmpty then some (before.tail chomping, c)
  else
    let blank := c.rest.head?.any isSpace
    let (line, d) := c.span (!isBreak ·)
    let (first, e) :=
      match d.break? with
      | some (b, e) => (some b, e)
      | none => (none, d)
    match emptyLines? indent 0 e with
    | none => none
    | some (more, _, f) =>
      if _ : f.rest.length < c.rest.length then
        (lines? folded chomping indent ⟨first, more, blank⟩ f).map fun (text, g) =>
          (before.joint folded blank ++ line ++ text, g)
      else none
termination_by c.rest.length

/-- Reads a block scalar from after its mark; `least` is the column right of the
collection that it stands in. -/
def read? (folded : Bool) (least : Nat) (c : Cursor) : Option (List Char × Cursor) := do
  let header ← Header.read? c.rest
  let c ← (c.skip header.length).nextLine?
  let given := if header.indent = 0 then 0 else header.indent + (least - 1)
  let (more, widest, d) ← emptyLines? given 0 c
  let indent := if given = 0 then max widest (max least 1) else given
  lines? folded header.chomping indent ⟨none, more, false⟩ d

end CloudClient.Settings.Yaml.Block
