/-!
# Binary64 — IEEE double precision numbers

A double is its 64 bits.  A finite double is `significand * 2 ^ power`; every
operation here works on these exact integers, so that it can be evaluated and
reasoned about without floating-point arithmetic.

* `ofRatio` rounds a quotient of natural numbers to the nearest double, a tie to
  the even neighbour.
* `compare?` compares the exact values; a NaN compares with nothing.
-/

namespace CloudClient

/-- A double precision number, given by its bits. -/
structure Binary64 where
  /-- One sign bit, eleven exponent bits, fifty-two fraction bits. -/
  bits : UInt64
deriving DecidableEq, Repr

namespace Binary64

/-! ## Reading the bits -/

def isNegative (x : Binary64) : Bool := x.bits.toNat ≥ Nat.pow 2 63

def exponentField (x : Binary64) : Nat := x.bits.toNat / Nat.pow 2 52 % 2048

def fractionField (x : Binary64) : Nat := x.bits.toNat % Nat.pow 2 52

def isFinite (x : Binary64) : Bool := x.exponentField != 2047

def isNaN (x : Binary64) : Bool := x.exponentField == 2047 && x.fractionField != 0

/-- The integer `m` of a finite double `m * 2 ^ q`, without sign. -/
def significand (x : Binary64) : Nat :=
  if x.exponentField = 0 then x.fractionField else Nat.pow 2 52 + x.fractionField

/-- The exponent `q` of a finite double `m * 2 ^ q`. -/
def power (x : Binary64) : Int :=
  (if x.exponentField = 0 then 1 else (x.exponentField : Int)) - 1075

def isZero (x : Binary64) : Bool := x.exponentField == 0 && x.fractionField == 0

/-! ## Rounding -/

/-- `num / den` rounded to the nearest integer, a tie to the even one. -/
def roundHalfEven (num den : Nat) : Nat :=
  let q := num / den
  let r := num % den
  if 2 * r < den then q
  else if den < 2 * r then q + 1
  else if q % 2 = 0 then q else q + 1

def infinityBits : Nat := 2047 * Nat.pow 2 52

def magnitudeBits (num den : Nat) : Nat :=
  if num = 0 then 0
  else
    let guess : Int := (Nat.log2 num : Int) - Nat.log2 den
    let reached :=
      if 0 ≤ guess then decide (den * Nat.pow 2 guess.toNat ≤ num)
      else decide (den ≤ num * Nat.pow 2 (-guess).toNat)
    let log := if reached then guess else guess - 1
    let q := max (log - 52) (-1074)
    let m :=
      if 0 ≤ q then roundHalfEven num (den * Nat.pow 2 q.toNat)
      else roundHalfEven (num * Nat.pow 2 (-q).toNat) den
    min infinityBits ((q + 1074).toNat * Nat.pow 2 52 + m)

def ofMagnitude (negative : Bool) (magnitude : Nat) : Binary64 :=
  ⟨UInt64.ofNat (if negative then Nat.pow 2 63 + magnitude else magnitude)⟩

/-- The double nearest to `num / den`; `den` is positive. -/
def ofRatio (negative : Bool) (num den : Nat) : Binary64 :=
  ofMagnitude negative (magnitudeBits num den)

def ofInt (i : Int) : Binary64 :=
  ofRatio (i < 0) i.natAbs 1

def zero : Binary64 := ⟨0⟩

def infinity (negative : Bool) : Binary64 := ofMagnitude negative infinityBits

def largest (negative : Bool) : Binary64 := ofMagnitude negative (infinityBits - 1)

def nan (negative : Bool) : Binary64 := ofMagnitude negative (infinityBits + Nat.pow 2 51)

def neg (x : Binary64) : Binary64 := ⟨x.bits ^^^ 0x8000000000000000⟩

/-! ## Exact values -/

def ratio (x : Binary64) : Nat × Nat :=
  if 0 ≤ x.power then (x.significand * Nat.pow 2 x.power.toNat, 1)
  else (x.significand, Nat.pow 2 (-x.power).toNat)

/-- The value of a finite double scaled by `2 ^ 1074`, which is an integer. -/
def scaled (x : Binary64) : Int :=
  let m : Int := x.significand * Nat.pow 2 (x.power + 1074).toNat
  if x.isNegative then -m else m

/-- The order of two numbers; none if one is NaN. -/
def compare? (x y : Binary64) : Option Ordering :=
  if x.isNaN || y.isNaN then none
  else
    let rank (z : Binary64) : Int :=
      if z.isFinite then z.scaled
      else if z.isNegative then -(Nat.pow 2 2200) else Nat.pow 2 2200
    some (compare (rank x) (rank y))

/-- Less or equal; false if one is NaN. -/
def le (x y : Binary64) : Bool :=
  match compare? x y with
  | some .lt | some .eq => true
  | _ => false

/-- Equal as numbers: the two zeros are equal, a NaN equals nothing. -/
def numEq (x y : Binary64) : Bool :=
  compare? x y == some .eq

/-- Whether two numbers differ by less than `2 ^ -52`; false unless both are finite. -/
def isClose (x y : Binary64) : Bool :=
  x.isFinite && y.isFinite && decide ((x.scaled - y.scaled).natAbs < Nat.pow 2 1022)

/-! ## Arithmetic -/

def add (x y : Binary64) : Binary64 :=
  let sum := x.scaled + y.scaled
  ofRatio (sum < 0) sum.natAbs (Nat.pow 2 1074)

/-- The product, correctly rounded; zero times infinity is not a number. -/
def mul (x y : Binary64) : Binary64 :=
  let negative := x.isNegative != y.isNegative
  if x.isNaN || y.isNaN then nan false
  else if x.isFinite && y.isFinite then
    let (a, b) := x.ratio
    let (c, d) := y.ratio
    ofRatio negative (a * c) (b * d)
  else if x.isZero || y.isZero then nan false
  else infinity negative

/-- The quotient, correctly rounded, of a finite double by a finite double other
than zero. -/
def div (x y : Binary64) : Binary64 :=
  let (a, b) := x.ratio
  let (c, d) := y.ratio
  ofRatio (x.isNegative != y.isNegative) (a * d) (b * c)

/-- `acc * x ^ n` by repeated squaring, every product rounded. -/
def powFrom (acc x : Binary64) (n : Nat) : Binary64 :=
  if h : n = 0 then acc
  else
    let acc := if n % 2 = 1 then acc.mul x else acc
    if n / 2 = 0 then acc else powFrom acc (x.mul x) (n / 2)
termination_by n

def pow (x : Binary64) (n : Nat) : Binary64 := powFrom (ofInt 1) x n

def min (x y : Binary64) : Binary64 := if x.le y then x else y

def max (x y : Binary64) : Binary64 := if x.le y then y else x

end Binary64

end CloudClient
