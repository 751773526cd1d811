import CloudClient.Settings.Yaml.Cursor

/-!
# What stands between two words

Between two words of a scalar stand blanks or line breaks.  Blanks are kept as they
are; blanks next to a line break are left out, and line breaks are folded: a single
one is a space, and of several the first is left out.
-/

namespace CloudClient.Settings.Yaml

/-- What stands between two words. -/
inductive Gap where
  | blanks (written : List Char)
  /-- Line breaks: the one that ends the line, unless it was escaped, and those of the
  empty lines that follow. -/
  | breaks (first : Option Char) (more : List Char)
deriving DecidableEq, Repr

namespace Gap

def text : Gap → List Char
  | .blanks written => written
  | .breaks none more => more
  | .breaks (some b) more =>
    if b != '\n' then b :: more
    else if more.isEmpty then [' ']
    else more

def isBroken : Gap → Bool
  | .blanks _ => false
  | .breaks _ _ => true

def addBlank (x : Char) : Gap → Gap
  | .blanks written => .blanks (written ++ [x])
  | gap => gap

def addBreak (b : Char) : Gap → Gap
  | .blanks _ => .breaks (some b) []
  | .breaks first more => .breaks first (more ++ [b])

/-- Reads on to the next word.  A tab may not stand before the column `least` of a
line. -/
def read? (least : Nat) (gap : Gap) (c : Cursor) : Option (Gap × Cursor) :=
  match _h : c.break? with
  | some (b, d) => read? least (gap.addBreak b) d
  | none =>
    match _hc : c.rest with
    | [] => some (gap, c)
    | x :: _ =>
      if !isSpace x then some (gap, c)
      else if gap.isBroken && x == '\t' && c.column < least then none
      else read? least (gap.addBlank x) (c.skip 1)
termination_by c.rest.length
decreasing_by
  · exact Cursor.rest_break_lt _h
  · simp [Cursor.skip, _hc]

end Gap

end CloudClient.Settings.Yaml
