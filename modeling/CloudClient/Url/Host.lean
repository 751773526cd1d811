import CloudClient.Text.Integer
import CloudClient.Text.Search
import CloudClient.Url.Domain
import CloudClient.Url.Percent

/-!
# Hosts of URLs

A host is a domain, a network address in dotted or colon form, or a text that
only its scheme understands.  Hosts are kept in their written form: domains in
ASCII letters, addresses normalised.
-/

namespace CloudClient.Url

/-! ## Dotted addresses -/

/-- Digits of a base, read as a number; the empty text is zero. -/
def digitsOf? (base : Nat) (cs : List Char) : Option Nat :=
  if cs.isEmpty then some 0 else Text.inBase? base cs

/-- A part of a dotted address: hexadecimal after `0x`, octal after `0`. -/
def addressPart? : List Char → Option Nat
  | [] => none
  | '0' :: 'x' :: r | '0' :: 'X' :: r => digitsOf? 16 r
  | '0' :: c :: r => digitsOf? 8 (c :: r)
  | cs => digitsOf? 10 cs

/-- The parts of a host between dots, a final empty one left out. -/
def dotParts (cs : List Char) : List (List Char) :=
  let parts := Text.splitAll (· == '.') cs
  match parts.reverse with
  | [] :: (p :: rest) => (p :: rest).reverse
  | _ => parts

/-- Whether a host is meant as a dotted address: its last part is a number. -/
def endsInNumber (cs : List Char) : Bool :=
  match (dotParts cs).reverse with
  | [] => false
  | last :: _ =>
    (!last.isEmpty && last.all Char.isDigit) || (addressPart? last).isSome

/-- The number of a dotted address: every part but the last is a byte, the last
fills what remains of four bytes. -/
def dottedValue? (cs : List Char) : Option Nat := do
  let parts := dotParts cs
  if 4 < parts.length then none
  else
    let numbers ← parts.mapM addressPart?
    match numbers.reverse with
    | [] => none
    | last :: heads =>
      if heads.any (255 < ·) || Nat.pow 256 (4 - heads.length) ≤ last then none
      else
        let high := heads.reverse.foldl (fun acc n => acc * 256 + n) 0
        some (high * Nat.pow 256 (4 - heads.length) + last)

def dottedText (n : Nat) : String :=
  Text.join "." ([n / 16777216, n / 65536 % 256, n / 256 % 256, n % 256].map Text.ofNat)

/-! ## Colon addresses -/

/-- Four decimal bytes at the end of a colon address, as two pieces. -/
def embeddedPieces? (cs : List Char) : Option (List Nat) := do
  let parts := Text.splitAll (· == '.') cs
  if parts.length ≠ 4 then none
  else
    let bytes ← parts.mapM fun p =>
      match p with
      | ['0'] => some 0
      | '0' :: _ => none
      | _ => (Text.natural? p).filter (· ≤ 255)
    match bytes with
    | [a, b, c, d] => some [a * 256 + b, c * 256 + d]
    | _ => none

/-- The pieces of one side of a colon address; the last may be four bytes. -/
def sidePieces? : List (List Char) → Option (List Nat)
  | [] => some []
  | [last] =>
    if last.contains '.' then embeddedPieces? last
    else if last.isEmpty || 4 < last.length then none
    else (digitsOf? 16 last).map ([·])
  | p :: rest =>
    if p.isEmpty || 4 < p.length then none
    else do
      let n ← digitsOf? 16 p
      let more ← sidePieces? rest
      return n :: more

/-- The two sides of the first `::`. -/
def splitGap? : List Char → Option (List Char × List Char)
  | ':' :: ':' :: r => some ([], r)
  | c :: r => (splitGap? r).map fun (a, b) => (c :: a, b)
  | [] => none

/-- The pieces of a text between colons; none for the empty text. -/
def colonPieces? (cs : List Char) : Option (List Nat) :=
  if cs.isEmpty then some [] else sidePieces? (Text.splitAll (· == ':') cs)

def colonAddress? (cs : List Char) : Option (List Nat) :=
  match splitGap? cs with
  | none => (colonPieces? cs).filter (·.length == 8)
  | some (left, right) =>
    if left.contains '.' then none
    else
      match colonPieces? left, colonPieces? right with
      | some a, some b =>
        if a.length + b.length < 8 then
          some (a ++ List.replicate (8 - a.length - b.length) 0 ++ b)
        else none
      | _, _ => none

def hexText (n : Nat) : String := .ofList (Nat.toDigits 16 n)

def zeroRun (pieces : List Nat) : Nat := (pieces.takeWhile (· == 0)).length

/-- Start and length of the first longest run of zeros. -/
def longestZeroRun (start : Nat) : List Nat → Nat × Nat
  | [] => (start, 0)
  | p :: rest =>
    let here := zeroRun (p :: rest)
    let (place, later) := longestZeroRun (start + 1) rest
    if later ≤ here then (start, here) else (place, later)

/-- A colon address in its normal form: its first longest run of at least two zeros
is left out. -/
def colonText (pieces : List Nat) : String :=
  let (start, count) := longestZeroRun 0 pieces
  let side (ns : List Nat) : String := Text.join ":" (ns.map hexText)
  if count < 2 then side pieces
  else side (pieces.take start) ++ "::" ++ side (pieces.drop (start + count))

/-! ## Any host -/

def forbiddenInHost (c : Char) : Bool :=
  ['\x00', '\t', '\n', '\r', ' ', '#', '/', ':', '<', '>', '?', '@', '[', '\\', ']', '^',
    '|'].contains c

def forbiddenInDomain (c : Char) : Bool :=
  forbiddenInHost c || controlSet c || c == '%'

/-- The content of square brackets around the whole text. -/
def bracketed? (cs : List Char) : Option (List Char) := do
  let inner ← Text.dropHead? ['['] cs
  Text.dropTail? [']'] inner

/-- Why an address cannot be read. -/
inductive Fault where
  /-- It does not start with a scheme. -/
  | relative
  | emptyHost
  | invalidPort
  | invalidDottedAddress
  | invalidColonAddress
  | invalidDomain
  | invalidHostCharacter
deriving DecidableEq, Repr

def Fault.message : Fault → String
  | .relative => "relative URL without a base"
  | .emptyHost => "empty host"
  | .invalidPort => "invalid port number"
  | .invalidDottedAddress => "invalid IPv4 address"
  | .invalidColonAddress => "invalid IPv6 address"
  | .invalidDomain => "invalid international domain name"
  | .invalidHostCharacter => "invalid domain character"

def bracketHost (cs : List Char) : Except Fault String :=
  match (bracketed? cs).bind colonAddress? with
  | some pieces => .ok ("[" ++ colonText pieces ++ "]")
  | none => .error .invalidColonAddress

def domainHost (cs : List Char) : Except Fault String :=
  if cs.head? == some '[' then bracketHost cs
  else
    match (asciiDomain? (Utf8.decode (percentDecode cs))).filter (!·.any forbiddenInDomain) with
    | none => .error .invalidDomain
    | some domain =>
      if domain.isEmpty then .error .emptyHost
      else if endsInNumber domain then
        match dottedValue? domain with
        | some n => .ok (dottedText n)
        | none => .error .invalidDottedAddress
      else .ok (.ofList domain)

/-- The written form of a host that only its scheme understands. -/
def opaqueHost (cs : List Char) : Except Fault String :=
  if cs.head? == some '[' then bracketHost cs
  else if cs.any forbiddenInHost then .error .invalidHostCharacter
  else .ok (.ofList (percentEncode controlSet cs))

end CloudClient.Url
