import CloudClient.Text.Search
import CloudClient.Url.Percent

/-!
# Form encoding

Names and values of a query or a form body: pairs are joined by `&`, names and
values by `=`; a blank is written `+`, and every byte but letters, digits and
`*-._` in percent encoding.

* `decode` reads what `encode` writes.
-/

namespace CloudClient.Url.Form

/-- The bytes that stand for themselves. -/
def isPlain (b : UInt8) : Bool :=
  (0x30 ≤ b && b ≤ 0x39) || (0x41 ≤ b && b ≤ 0x5A) || (0x61 ≤ b && b ≤ 0x7A) ||
    b == 0x2A || b == 0x2D || b == 0x2E || b == 0x5F

def encodeByte (b : UInt8) : List Char :=
  if isPlain b then [Char.ofNat b.toNat] else if b == 0x20 then ['+'] else percentByte b

def encodePart (s : String) : List Char :=
  (Utf8.encode s.toList).flatMap encodeByte

def encodePair (pair : String × String) : List Char :=
  encodePart pair.1 ++ '=' :: encodePart pair.2

def encode (pairs : List (String × String)) : String :=
  Text.join "&" (pairs.map fun p => .ofList (encodePair p))

def decodePart (cs : List Char) : String :=
  .ofList (Utf8.decode (percentDecode (cs.map fun c => if c == '+' then ' ' else c)))

/-- Reads a name and its value; a missing value is empty. -/
def decodePair (cs : List Char) : String × String :=
  match Text.splitOnce? (· == '=') cs with
  | some (name, value) => (decodePart name, decodePart value)
  | none => (decodePart cs, "")

/-- Reads names and values; empty pieces are skipped. -/
def decode (s : String) : List (String × String) :=
  ((Text.splitAll (· == '&') s.toList).filter fun piece => !piece.isEmpty).map decodePair

end CloudClient.Url.Form
