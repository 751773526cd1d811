import CloudClient.Text.Integer
import CloudClient.Text.Utf8

/-!
# Percent encoding

A byte is written as `%` and two hexadecimal digits.  Which characters of a URL
are written so depends on the part of the URL they stand in; characters beyond
ASCII always are.
-/

namespace CloudClient.Url

/-- A hexadecimal digit in upper case. -/
def hexDigit (n : Nat) : Char :=
  if n < 10 then Char.ofNat ('0'.toNat + n) else Char.ofNat ('A'.toNat + n - 10)

def percentByte (b : UInt8) : List Char :=
  ['%', hexDigit (b.toNat / 16), hexDigit (b.toNat % 16)]

/-- A text with the characters of a set, and all beyond ASCII, in percent encoding. -/
def percentEncode (set : Char → Bool) (cs : List Char) : List Char :=
  cs.flatMap fun c =>
    if c.toNat ≥ 128 || set c then (String.utf8EncodeChar c).flatMap percentByte else [c]

/-- The bytes of a text with its percent encodings undone; a `%` without two digits
stands for itself. -/
def percentDecode : List Char → List UInt8
  | '%' :: h :: l :: r =>
    match Text.hexDigit? h, Text.hexDigit? l with
    | some a, some b => UInt8.ofNat (a * 16 + b) :: percentDecode r
    | _, _ => UInt8.ofNat '%'.toNat :: percentDecode (h :: l :: r)
  | c :: r => String.utf8EncodeChar c ++ percentDecode r
  | [] => []

/-! ## Sets -/

def controlSet (c : Char) : Bool := c.toNat < 0x20 || c.toNat == 0x7F

def fragmentSet (c : Char) : Bool :=
  controlSet c || [' ', '"', '<', '>', '\x60'].contains c

def pathSet (c : Char) : Bool :=
  fragmentSet c || ['#', '?', '^', '\x7b', '\x7d'].contains c

def userSet (c : Char) : Bool :=
  pathSet c || ['/', ':', ';', '=', '@', '[', '\\', ']', '|'].contains c

/-- The set of queries; where the scheme has a fixed meaning it holds the single
quote too. -/
def querySet (special : Bool) (c : Char) : Bool :=
  controlSet c || [' ', '"', '#', '<', '>'].contains c || (special && c == '\'')

end CloudClient.Url
