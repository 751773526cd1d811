import CloudClient.Decimal.Shortest

/-!
# Written forms of a double

A layout says which numbers are written with an exponent, whether a whole number
keeps `.0`, and how the exponent looks.  The digits are always the shortest ones.

* `plain` never uses an exponent: `1`, `0.0000001`, `-0`.
* `json` keeps `.0` and turns to exponents from `1e+16` up and below `1e-5`.
-/

namespace CloudClient.Decimal

/-- How a finite double is written. -/
structure Layout where
  /-- The values of `point` that are written without an exponent. -/
  positional : Int → Bool
  /-- Whether a whole number ends in `.0`. -/
  keepsPoint : Bool

def positionalText (keepsPoint : Bool) (d : Digits) : List Char :=
  if d.point ≤ 0 then
    '0' :: '.' :: (List.replicate (-d.point).toNat '0' ++ d.digits)
  else
    let whole := d.point.toNat
    if d.digits.length ≤ whole then
      let zeros := List.replicate (whole - d.digits.length) '0'
      d.digits ++ zeros ++ (if keepsPoint then ['.', '0'] else [])
    else d.digits.take whole ++ '.' :: d.digits.drop whole

def exponentText (d : Digits) : List Char :=
  let e := d.point - 1
  let sign := if e < 0 then '-' else '+'
  let tail := 'e' :: sign :: Nat.toDigits 10 e.natAbs
  match d.digits with
  | [] => tail
  | [c] => c :: tail
  | c :: r => c :: '.' :: (r ++ tail)

/-- The text of a double; infinities and NaN are words. -/
def Layout.text (l : Layout) (x : Binary64) : String :=
  if x.isNaN then "NaN"
  else
    let sign := if x.isNegative then ['-'] else []
    if !x.isFinite then .ofList (sign ++ "inf".toList)
    else
      let d := shortest x
      let body := if l.positional d.point then positionalText l.keepsPoint d else exponentText d
      .ofList (sign ++ body)

/-- Digits without an exponent, whole numbers without a point. -/
def plain : Layout := ⟨fun _ => true, false⟩

/-- Numbers in JSON text: a point is kept, and an exponent is used from `10 ^ 16`
up and below `10 ^ -5`. -/
def json : Layout := ⟨fun k => decide (-5 < k ∧ k ≤ 16), true⟩

end CloudClient.Decimal
