import CloudClient.Binary64
import CloudClient.Text.Integer

/-!
# Reading a decimal number as a double

The grammar is a sign, digits with an optional point, and an optional exponent;
`inf`, `infinity` and `nan` are read in any case.  The result is the nearest
double, a tie to the even one.
-/

namespace CloudClient.Decimal

/-- The double nearest to `digits * 10 ^ exponent`.  Numbers far outside the range
of doubles are decided by their magnitude alone. -/
def scale (negative : Bool) (digits : Nat) (exponent : Int) : Binary64 :=
  let size := exponent + (Nat.toDigits 10 digits).length
  if digits = 0 then .ofMagnitude negative 0
  else if 400 < size then .infinity negative
  else if size < -400 then .ofMagnitude negative 0
  else if 0 ≤ exponent then .ofRatio negative (digits * Nat.pow 10 exponent.toNat) 1
  else .ofRatio negative digits (Nat.pow 10 (-exponent).toNat)

def takeSign : List Char → Bool × List Char
  | '-' :: r => (true, r)
  | '+' :: r => (false, r)
  | cs => (false, cs)

/-- The exponent after the mantissa; a missing one is zero. -/
def exponent? : List Char → Option Int
  | [] => some 0
  | c :: r => if c == 'e' || c == 'E' then Text.integer? r else none

def unsignedDouble? (negative : Bool) (cs : List Char) : Option Binary64 :=
  let isDigit := fun c => (Text.digit? c).isSome
  let whole := cs.takeWhile isDigit
  let rest := cs.dropWhile isDigit
  let (fraction, rest) :=
    match rest with
    | '.' :: r => (r.takeWhile isDigit, r.dropWhile isDigit)
    | r => ([], r)
  let written := whole ++ fraction
  if written.isEmpty then none
  else
    match Text.digitsFrom? 0 written, exponent? rest with
    | some n, some e => some (scale negative n (e - fraction.length))
    | _, _ => none

def double? (s : String) : Option Binary64 :=
  let (negative, body) := takeSign s.toList
  let word := String.ofList (body.map Char.toLower)
  if word == "inf" || word == "infinity" then some (.infinity negative)
  else if word == "nan" then some (.nan negative)
  else unsignedDouble? negative body

end CloudClient.Decimal
