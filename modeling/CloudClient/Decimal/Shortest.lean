import CloudClient.Binary64

/-!
# Shortest decimal digits of a double

`shortest` gives the fewest significant digits whose decimal number rounds to
the double, and of those the nearest one.  All arithmetic is exact: the double
is `m * 2 ^ q`, and the numbers that round to it form an interval around it whose
ends belong to it exactly when `m` is even.
-/

namespace CloudClient.Decimal

/-- Decimal digits and the position of the point: `0.d₁d₂… * 10 ^ point`. -/
structure Digits where
  /-- Significant digits, most significant first. -/
  digits : List Char
  /-- The power of ten in front of the first digit. -/
  point : Int
deriving DecidableEq, Repr

/-- The interval of numbers that round to a double, over one denominator. -/
structure Interval where
  low : Nat
  value : Nat
  high : Nat
  den : Nat
  /-- Whether the ends belong to the interval. -/
  closed : Bool

def interval (x : Binary64) : Interval :=
  let m := x.significand
  let below := if x.fractionField = 0 ∧ 1 < x.exponentField then 1 else 2
  let unit := x.power - 2
  let scale := if 0 ≤ unit then Nat.pow 2 unit.toNat else 1
  let den := if 0 ≤ unit then 1 else Nat.pow 2 (-unit).toNat
  { low := (4 * m - below) * scale
    value := 4 * m * scale
    high := (4 * m + 2) * scale
    den := den
    closed := m % 2 == 0 }

/-- Whether `c * 10 ^ g` lies in the interval. -/
def Interval.holds (iv : Interval) (c : Nat) (g : Int) : Bool :=
  let n := if 0 ≤ g then c * Nat.pow 10 g.toNat * iv.den else c * iv.den
  let s := if 0 ≤ g then 1 else Nat.pow 10 (-g).toNat
  if iv.closed then decide (iv.low * s ≤ n ∧ n ≤ iv.high * s)
  else decide (iv.low * s < n ∧ n < iv.high * s)

/-- The point of the grid `10 ^ g` in the interval that is nearest to the value,
an exact tie to the even one; none if the interval holds no point of the grid. -/
def Interval.onGrid? (iv : Interval) (g : Int) : Option Nat :=
  let num := if 0 ≤ g then iv.value else iv.value * Nat.pow 10 (-g).toNat
  let den := if 0 ≤ g then iv.den * Nat.pow 10 g.toNat else iv.den
  let c := num / den
  let rest := 2 * (num % den)
  match iv.holds c g && c != 0, iv.holds (c + 1) g with
  | true, true =>
    if rest < den then some c
    else if den < rest then some (c + 1)
    else if c % 2 = 0 then some c else some (c + 1)
  | true, false => some c
  | false, true => some (c + 1)
  | false, false => none

/-- The number of digits in front of the point of `num / den`, which is positive:
the least `k` with `num / den < 10 ^ k`. -/
def magnitude (num den : Nat) : Int :=
  let rec up (fuel : Nat) (k : Int) : Int :=
    match fuel with
    | 0 => k
    | fuel + 1 =>
      let small :=
        if 0 ≤ k then decide (num < den * Nat.pow 10 k.toNat)
        else decide (num * Nat.pow 10 (-k).toNat < den)
      if small then k else up fuel (k + 1)
  let log : Int := (Nat.log2 num : Int) - Nat.log2 den
  up 8 (log * 30103 / 100000 - 2)

/-- Tries grids of `n`, `n + 1`, … digits. -/
def search (iv : Interval) (point : Int) : Nat → Nat → Nat × Int
  | 0, n => (iv.value / iv.den, n)
  | fuel + 1, n =>
    match iv.onGrid? (point - n) with
    | some c => (c, point - n)
    | none => search iv point fuel (n + 1)

/-- The shortest digits of a finite double, its sign apart; `0` for zero. -/
def shortest (x : Binary64) : Digits :=
  if x.isZero then ⟨['0'], 1⟩
  else
    let iv := interval x
    let (c, g) := search iv (magnitude iv.value iv.den) 18 1
    let ds := Nat.toDigits 10 c
    let kept := (ds.reverse.dropWhile (· == '0')).reverse
    ⟨kept, g + ds.length⟩

end CloudClient.Decimal
