import CloudClient.Text.Normal.Table

/-!
# The composed normal form of text

One letter with its marks can be written as one character or as several.  The normal
form takes letters apart, sorts the marks on each by their classes, and puts
together again what has a character of its own.
-/

namespace CloudClient.Text

/-- The class that a mark is sorted by; zero for all other characters. -/
def markClass (c : Char) : Nat :=
  ((CodeRow.find? markClasses c).bind (·.codes.head?)).getD 0

/-! ## Parts of letters -/

/-- The first code points of syllables, leading consonants, vowels, and the one before
the first final consonant of Hangul. -/
def hangulSyllable : Nat := 0xAC00
def hangulLead : Nat := 0x1100
def hangulVowel : Nat := 0x1161
def hangulFinal : Nat := 0x11A7

/-- The two parts of a syllable of Hangul: a final consonant is taken off first. -/
def syllableParts? (c : Char) : Option (Char × Char) :=
  if hangulSyllable ≤ c.toNat && c.toNat ≤ 0xD7A3 then
    let place := c.toNat - hangulSyllable
    if place % 28 == 0 then
      some (.ofNat (hangulLead + place / 588), .ofNat (hangulVowel + place / 28 % 21))
    else some (.ofNat (c.toNat - place % 28), .ofNat (hangulFinal + place % 28))
  else none

def syllable? (a b : Char) : Option Char :=
  if hangulLead ≤ a.toNat && a.toNat < hangulLead + 19
      && hangulVowel ≤ b.toNat && b.toNat < hangulVowel + 21 then
    some (.ofNat (hangulSyllable
      + ((a.toNat - hangulLead) * 21 + (b.toNat - hangulVowel)) * 28))
  else if hangulSyllable ≤ a.toNat && a.toNat ≤ 0xD7A3 && (a.toNat - hangulSyllable) % 28 == 0
      && hangulFinal < b.toNat && b.toNat < hangulFinal + 28 then
    some (.ofNat (a.toNat + (b.toNat - hangulFinal)))
  else none

def parts? (c : Char) : Option (Char × Char) :=
  (syllableParts? c).or <| (CodeRow.find? letterParts c).bind fun row =>
    match row.codes with
    | [a, b] => some (.ofNat a, .ofNat b)
    | _ => none

def composed? (a b : Char) : Option Char :=
  (syllable? a b).or <|
    (letterParts.find? (·.codes == [a.toNat, b.toNat])).map fun row => .ofNat row.first

/-- The parts of a letter, taken apart at most `depth` times. -/
def allParts : Nat → Char → List Char
  | 0, c => [c]
  | depth + 1, c =>
    match parts? c with
    | none => [c]
    | some (a, b) => allParts depth a ++ [b]

/-! ## Sorting and composing -/

/-- Puts a character before the text, which is read backward: a mark moves past marks of a
greater class. -/
def settle (c : Char) : List Char → List Char
  | [] => [c]
  | x :: r =>
    if markClass c ≠ 0 ∧ markClass c < markClass x then x :: settle c r else c :: x :: r

/-- The text taken apart, with its marks sorted; read backward.  No letter has more than
four parts. -/
def apart (cs : List Char) : List Char :=
  (cs.flatMap (allParts 3)).foldl (fun before c => settle c before) []

/-- A text being composed, read backward: the finished text, the letter that takes
marks, and the marks that stay beside it. -/
structure Composing where
  before : List Char
  letter : Option Char
  marks : List Char
deriving DecidableEq, Repr

/-- The text so far, read backward. -/
def Composing.text (s : Composing) : List Char := s.marks ++ s.letter.toList ++ s.before

/-- Adds a character: it joins the letter unless a mark between them is in the way. -/
def Composing.add (s : Composing) (c : Char) : Composing :=
  let free := s.marks.head?.all fun mark => markClass mark < markClass c
  match if free then s.letter.bind (composed? · c) else none with
  | some joined => { s with letter := some joined }
  | none =>
    if markClass c = 0 then ⟨s.text, some c, []⟩
    else if s.letter.isNone then { s with before := c :: s.before }
    else { s with marks := c :: s.marks }

def normal (cs : List Char) : List Char :=
  ((apart cs).reverse.foldl Composing.add ⟨[], none, []⟩).text.reverse

end CloudClient.Text
