/-!
# Blank characters and trimming

Blank characters are those with the Unicode property `White_Space`.  Text is
trimmed on the list of its characters; `trimmed` and `isBlankText` are the same
operations on `String`.

* `trimStart_idem`: dropping leading blanks twice changes nothing more.
-/

namespace CloudClient.Text

/-- The Unicode property `White_Space`. -/
def isBlank (c : Char) : Bool :=
  let n := c.toNat
  (9 ≤ n && n ≤ 13) || n == 0x20 || n == 0x85 || n == 0xA0 || n == 0x1680 ||
    (0x2000 ≤ n && n ≤ 0x200A) || n == 0x2028 || n == 0x2029 || n == 0x202F ||
    n == 0x205F || n == 0x3000

/-! ## Trimming character lists -/

def trimStart (cs : List Char) : List Char :=
  cs.dropWhile isBlank

def trimEnd (cs : List Char) : List Char :=
  (cs.reverse.dropWhile isBlank).reverse

def trim (cs : List Char) : List Char :=
  trimEnd (trimStart cs)

def stripChar (x : Char) (cs : List Char) : List Char :=
  ((cs.dropWhile (· == x)).reverse.dropWhile (· == x)).reverse

/-! ## The same on strings -/

def trimmed (s : String) : String :=
  .ofList (trim s.toList)

def isBlankText (s : String) : Bool :=
  s.toList.all isBlank

def trimEndChar (x : Char) (s : String) : String :=
  .ofList (s.toList.reverse.dropWhile (· == x)).reverse

def trimStartChar (x : Char) (s : String) : String :=
  .ofList (s.toList.dropWhile (· == x))

/-! ## Laws -/

theorem trimStart_idem (cs : List Char) : trimStart (trimStart cs) = trimStart cs := by
  induction cs with
  | nil => rfl
  | cons c cs ih =>
    by_cases h : isBlank c = true
    · simpa [trimStart, List.dropWhile_cons, h] using ih
    · simp [trimStart, h]

end CloudClient.Text
