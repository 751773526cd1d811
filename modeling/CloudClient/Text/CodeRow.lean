import CloudClient.Text.Integer
import CloudClient.Text.Search

/-!
# Tables of code points

A table is written as words between blanks, one for each row.  A word names a code point in
hexadecimal, or the first and the last of a run: `41-5A`, and `100-12E+2` for every
second code point.  After a colon stand the code points that belong to the row: `E0:61.300`.
-/

namespace CloudClient.Text

/-- A row of a table: code points in steps of one length, and what belongs to them. -/
structure CodeRow where
  first : Nat
  last : Nat
  step : Nat
  codes : List Nat
deriving DecidableEq, Repr

namespace CodeRow

def holds (row : CodeRow) (code : Nat) : Bool :=
  row.first ≤ code && code ≤ row.last && (code - row.first) % row.step == 0

def ofWord? (word : List Char) : Option CodeRow := do
  let (run, codes) := (splitOnce? (· == ':') word).getD (word, [])
  let (ends, step) := (splitOnce? (· == '+') run).getD (run, ['1'])
  let (first, last) := (splitOnce? (· == '-') ends).getD (ends, ends)
  let codes ←
    if codes.isEmpty then some [] else (splitAll (· == '.') codes).mapM (inBase? 16)
  return ⟨← inBase? 16 first, ← inBase? 16 last, ← inBase? 16 step, codes⟩

def table (lines : List String) : List CodeRow :=
  lines.flatMap fun line => (splitAll (· == ' ') line.toList).filterMap ofWord?

def find? (rows : List CodeRow) (c : Char) : Option CodeRow :=
  rows.find? (·.holds c.toNat)

def lists (rows : List CodeRow) (c : Char) : Bool :=
  rows.any (·.holds c.toNat)

end CodeRow

end CloudClient.Text
