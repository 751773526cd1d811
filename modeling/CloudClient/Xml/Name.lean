/-!
# Characters and names of XML

Which characters a document may hold, and which of them names are made of.  A
name may have a part before a colon, which stands for a namespace.
-/

namespace CloudClient.Xml

def isSpace (c : Char) : Bool :=
  c == ' ' || c == '\t' || c == '\n' || c == '\r'

def isChar (c : Char) : Bool :=
  if c.toNat < 0x20 then isSpace c else c.toNat != 0xFFFE && c.toNat != 0xFFFF

def inRanges (ranges : List (Nat × Nat)) (c : Char) : Bool :=
  ranges.any fun (first, last) => first ≤ c.toNat && c.toNat ≤ last

def startRanges : List (Nat × Nat) :=
  [(0x3A, 0x3A), (0x41, 0x5A), (0x5F, 0x5F), (0x61, 0x7A), (0xC0, 0xD6), (0xD8, 0xF6),
    (0xF8, 0x2FF), (0x370, 0x37D), (0x37F, 0x1FFF), (0x200C, 0x200D), (0x2070, 0x218F),
    (0x2C00, 0x2FEF), (0x3001, 0xD7FF), (0xF900, 0xFDCF), (0xFDF0, 0xFFFD),
    (0x10000, 0xEFFFF)]

def innerRanges : List (Nat × Nat) :=
  [(0x2D, 0x2E), (0x30, 0x39), (0xB7, 0xB7), (0x300, 0x36F), (0x203F, 0x2040)]

def isNameStart (c : Char) : Bool := inRanges startRanges c

def isNameChar (c : Char) : Bool := isNameStart c || inRanges innerRanges c

/-- A name with the part before its colon, which is empty if there is none. -/
structure QName where
  space : String
  name : String
deriving DecidableEq, Repr

/-- Whether a text is empty or starts as a name does. -/
def startsAsName : List Char → Bool
  | [] => true
  | c :: _ => isNameStart c

/-- The name that a run of name characters writes; only one colon is allowed. -/
def qname? (cs : List Char) : Option QName :=
  let space := cs.takeWhile (· != ':')
  match cs.dropWhile (· != ':') with
  | [] => if !space.isEmpty && startsAsName space then some ⟨"", .ofList space⟩ else none
  | _ :: name =>
    if name.contains ':' || name.isEmpty || !startsAsName name || !startsAsName space then none
    else some ⟨.ofList space, .ofList name⟩

def takeQName? (cs : List Char) : Option (QName × List Char) :=
  (qname? (cs.takeWhile isNameChar)).map (·, cs.dropWhile isNameChar)

end CloudClient.Xml
