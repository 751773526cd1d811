import CloudClient.Text.Integer

/-!
# Letters beyond ASCII in ASCII letters

The ASCII characters of a text stand first, then a hyphen, then digits of base 36 that say which
characters beyond ASCII stand between them and where.  The characters are told in the
order of their code points; each number counts the places passed since the last one, so close code
points take few digits.  How many digits a number takes depends on the numbers
before it.
-/

namespace CloudClient.Text.Punycode

/-! ## Numbers -/

def digit (n : Nat) : Char :=
  if n < 26 then .ofNat ('a'.toNat + n) else .ofNat ('0'.toNat + n - 26)

/-- The value of a digit of either case. -/
def value? (c : Char) : Option Nat :=
  if c.isDigit then some (c.toNat - '0'.toNat + 26)
  else if c.isAlpha then some (c.toLower.toNat - 'a'.toNat)
  else none

/-- The least value of a digit, at a place of a number, after which the number goes on. -/
def threshold (bias place : Nat) : Nat := min 26 (max 1 (36 * place - bias))

/-- Divides by 35 until at most 455 is left; the number of divisions too. -/
def reduced (delta : Nat) : Nat × Nat :=
  if 455 < delta then
    let (left, count) := reduced (delta / 35)
    (left, count + 1)
  else (delta, 0)
termination_by delta
decreasing_by omega

/-- The bias after a number: `count` characters have been told, and `first` says that
it was the first number. -/
def nextBias (delta count : Nat) (first : Bool) : Nat :=
  let half := if first then delta / 700 else delta / 2
  let (left, divisions) := reduced (half + half / count)
  36 * divisions + 36 * left / (left + 38)

/-! ## Writing -/

def digitsOf (bias place n : Nat) : List Char :=
  let least := threshold bias place
  if n < least then [digit n]
  else digit (least + (n - least) % (36 - least))
    :: digitsOf bias (place + 1) ((n - least) / (36 - least))
termination_by n
decreasing_by
  have hle : (n - threshold bias place) / (36 - threshold bias place)
      ≤ n - threshold bias place := Nat.div_le_self _ _
  have hpos : 0 < threshold bias place := by simp only [threshold]; omega
  omega

/-- A text being written: what is written, the places passed, the bias, and how many
characters have been told. -/
structure Writing where
  written : List Char
  passed : Nat
  bias : Nat
  told : Nat
deriving DecidableEq, Repr

/-- Passes one character of the text while those with the code point `point` are told. -/
def Writing.pass (basic : Nat) (point : Nat) (s : Writing) (c : Char) : Writing :=
  if c.toNat < point then { s with passed := s.passed + 1 }
  else if c.toNat = point then
    { written := s.written ++ digitsOf s.bias 1 s.passed
      passed := 0
      bias := nextBias s.passed (s.told + 1) (s.told == basic)
      told := s.told + 1 }
  else s

/-- Tells the characters with the code points `points`, in rising order; those below
`low` have been told. -/
def tell (text : List Char) (basic : Nat) : Nat → List Nat → Writing → Writing
  | _, [], s => s
  | low, point :: rest, s =>
    let s := { s with passed := s.passed + (point - low) * (s.told + 1) }
    let s := text.foldl (Writing.pass basic point) s
    tell text basic (point + 1) rest { s with passed := s.passed + 1 }

def encode (text : List Char) : List Char :=
  let basic := text.filter (·.toNat < 0x80)
  let points := ((text.map Char.toNat).filter (0x80 ≤ ·)).mergeSort.eraseDups
  let head := if basic.isEmpty then [] else basic ++ ['-']
  (tell text basic.length 0x80 points ⟨head, 0, 72, basic.length⟩).written

/-! ## Reading -/

/-- A text being read: the characters so far, the code point and the place of the
last one told, the bias, and of the number being read its value, the weight of its next
digit and the place of that digit. -/
structure Reading where
  text : List Char
  point : Nat
  start : Nat
  bias : Nat
  number : Nat
  weight : Nat
  place : Nat
deriving DecidableEq, Repr

/-- Puts a character where the number that was read says. -/
def Reading.insert? (s : Reading) (number : Nat) : Option Reading :=
  let count := s.text.length + 1
  let total := s.start + number
  let point := s.point + total / count
  if point.isValidChar then
    some { text := s.text.insertIdx (total % count) (.ofNat point)
           point := point
           start := total % count + 1
           bias := nextBias number count (s.start == 0)
           number := 0
           weight := 1
           place := 1 }
  else none

/-- Reads one digit; numbers stay below 32 bits. -/
def Reading.add? (s : Reading) (c : Char) : Option Reading := do
  let d ← value? c
  let number := s.number + d * s.weight
  let least := threshold s.bias s.place
  if d < least then s.insert? number
  else if maxU32 < s.weight * (36 - least) then none
  else
    return { s with
      number := number
      weight := s.weight * (36 - least)
      place := s.place + 1 }

/-- The ASCII characters and the digits after them: the last hyphen parts them, unless it
stands first. -/
def parts (cs : List Char) : List Char × List Char :=
  let digits := (cs.reverse.takeWhile (· ≠ '-')).reverse
  let head := cs.take (cs.length - digits.length - 1)
  if head.isEmpty then ([], cs) else (head, digits)

def decode? (cs : List Char) : Option (List Char) := do
  let (basic, digits) := parts cs
  let s ← digits.foldlM Reading.add? ⟨basic, 0x80, 0, 72, 0, 1, 1⟩
  if s.place = 1 then some s.text else none

end CloudClient.Text.Punycode
