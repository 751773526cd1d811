/-!
# UTF-8

Text as bytes and back.  Reading never fails: every longest run of bytes that
could start a character but does not complete one is read as U+FFFD.
-/

namespace CloudClient.Utf8

def encode (cs : List Char) : List UInt8 :=
  cs.flatMap String.utf8EncodeChar

/-- What stands for bytes that are no character. -/
def replacement : Char := '\uFFFD'

def isContinuation (b : UInt8) : Bool := 0x80 ≤ b && b ≤ 0xBF

/-- The number of bytes that follow a first byte, and the values allowed for the
first of them; none if no character starts so. -/
def follow? (b : UInt8) : Option (Nat × UInt8 × UInt8) :=
  if 0xC2 ≤ b && b ≤ 0xDF then some (1, 0x80, 0xBF)
  else if b == 0xE0 then some (2, 0xA0, 0xBF)
  else if b == 0xED then some (2, 0x80, 0x9F)
  else if 0xE1 ≤ b && b ≤ 0xEF then some (2, 0x80, 0xBF)
  else if b == 0xF0 then some (3, 0x90, 0xBF)
  else if 0xF1 ≤ b && b ≤ 0xF3 then some (3, 0x80, 0xBF)
  else if b == 0xF4 then some (3, 0x80, 0x8F)
  else none

/-- How many of the bytes after a first byte belong to its character; `low` and
`high` bound the first of them. -/
def taken (low high : UInt8) : Nat → List UInt8 → Nat
  | 0, _ | _, [] => 0
  | n + 1, b :: r => if low ≤ b && b ≤ high then 1 + taken 0x80 0xBF n r else 0

/-- The character that starts with a byte, and how many of the bytes after it are
used up. -/
def charAt (b : UInt8) (r : List UInt8) : Char × Nat :=
  if b < 0x80 then (Char.ofNat b.toNat, 0)
  else
    match follow? b with
    | none => (replacement, 0)
    | some (n, low, high) =>
      let k := taken low high n r
      if k = n then
        let lead := b.toNat % Nat.pow 2 (6 - n)
        (.ofNat ((r.take n).foldl (fun acc b => acc * 64 + b.toNat % 64) lead), n)
      else (replacement, k)

def decode : List UInt8 → List Char
  | [] => []
  | b :: r => (charAt b r).1 :: decode (r.drop (charAt b r).2)
termination_by bs => bs.length
decreasing_by simp only [List.length_drop, List.length_cons]; omega

end CloudClient.Utf8
