import CloudClient.Text.Normal
import CloudClient.Text.Punycode
import CloudClient.Url.Domain.Direction
import CloudClient.Url.Domain.Joining
import CloudClient.Url.Domain.Letter

/-!
# Domains in ASCII letters

A domain is a text of labels between dots.  It is spelled with the letters of domains and
brought to its normal form; a label that then holds letters beyond ASCII is written in
ASCII letters after `xn--`.  A label that starts so is taken at its word, if the
text it stands for is spelled and normal already.
-/

namespace CloudClient.Url

def isAscii (cs : List Char) : Bool := cs.all (·.toNat < 0x80)

/-- A label: its letters and how it is written in ASCII letters. -/
structure Label where
  letters : List Char
  ascii : List Char
deriving DecidableEq, Repr

/-- What a label starts with whose letters are not ASCII. -/
def encodedMark : List Char := ['x', 'n', '-', '-']

/-- Whether letters beyond ASCII can stand together in a label: no mark starts it, and its
joiners are in place. -/
def lettersFit (letters : List Char) : Bool :=
  !letters.head?.any Text.isMark && joinersFit [] letters

/-- The label that the text after `xn--` stands for. -/
def Label.ofEncoded? (tail : List Char) : Option Label := do
  if 2000 < tail.length then none
  else
    let letters ← Text.Punycode.decode? tail
    if isAscii letters || !letters.all isLetter || Text.normal letters != letters
        || encodedMark.isPrefixOf letters || !lettersFit letters then none
    else some ⟨letters, encodedMark ++ tail⟩

def Label.ofSpelling? (cs : List Char) : Option Label :=
  match Text.dropHead? encodedMark cs with
  | some tail => if isAscii cs then Label.ofEncoded? tail else none
  | none =>
    if isAscii cs then some ⟨cs, cs⟩
    else if 1000 < cs.length || !lettersFit cs then none
    else some ⟨cs, encodedMark ++ Text.Punycode.encode cs⟩

/-- The labels of a domain.  An ASCII spelling is normal as it is. -/
def labels? (cs : List Char) : Option (List Label) := do
  let spelling := (← cs.mapM spelled?).flatten
  let spelling := if isAscii spelling then spelling else Text.normal spelling
  (Text.splitAll (· == '.') spelling).mapM Label.ofSpelling?

def asciiDomain? (cs : List Char) : Option (List Char) := do
  let labels ← labels? cs
  if directionsAgree (labels.map (·.letters)) then
    some (['.'].intercalate (labels.map (·.ascii)))
  else none

end CloudClient.Url
