import CloudClient.Failure
import CloudClient.Text.Blank
import CloudClient.Text.Integer

/-!
# Calendar dates of filters

A date is read as year, month and day with hyphens between.  Blanks may stand in
front of each number.  A year without sign has up to four digits, one with a sign
any number of them.
-/

namespace CloudClient

/-- A day of the proleptic Gregorian calendar. -/
structure Date where
  /-- The year; year 0 precedes year 1. -/
  year : Int
  month : Nat
  day : Nat
deriving DecidableEq, Repr

namespace Date

def isLeap (year : Int) : Bool :=
  (year % 4 == 0 && year % 100 != 0) || year % 400 == 0

/-- The number of days in a month; zero if there is no such month. -/
def daysIn (year : Int) (month : Nat) : Nat :=
  match month with
  | 2 => if isLeap year then 29 else 28
  | 4 | 6 | 9 | 11 => 30
  | 1 | 3 | 5 | 7 | 8 | 10 | 12 => 31
  | _ => 0

/-- Whether the month and the day exist and the year can be represented. -/
def isValid (d : Date) : Bool :=
  decide (-262143 ≤ d.year ∧ d.year ≤ 262142) && 1 ≤ d.day && d.day ≤ daysIn d.year d.month

/-- Takes up to `width` digits, at least one, off the text. -/
def takeNumber? (width : Option Nat) (cs : List Char) : Option (Nat × List Char) :=
  let all := cs.takeWhile fun c => (Text.digit? c).isSome
  let ds :=
    match width with
    | some w => all.take w
    | none => all
  (Text.natural? ds).map fun n => (n, cs.drop ds.length)

def takeYear? (cs : List Char) : Option (Int × List Char) :=
  match Text.trimStart cs with
  | '-' :: r => (takeNumber? none r).map fun (n, rest) => (-(n : Int), rest)
  | '+' :: r => (takeNumber? none r).map fun (n, rest) => ((n : Int), rest)
  | r => (takeNumber? (some 4) r).map fun (n, rest) => ((n : Int), rest)

/-- Takes a hyphen and a number of up to two digits off the text. -/
def takePart? : List Char → Option (Nat × List Char)
  | '-' :: r => takeNumber? (some 2) (Text.trimStart r)
  | _ => none

def parse? (s : String) : Option Date := do
  let (year, rest) ← takeYear? (Text.trim s.toList)
  let (month, rest) ← takePart? rest
  let (day, rest) ← takePart? rest
  let date : Date := ⟨year, month, day⟩
  if rest.isEmpty && date.isValid then some date else none

/-- The day's first moment in the form that filters carry. -/
def wireText (d : Date) : String :=
  Text.ofNat d.month ++ "/" ++ Text.ofNat d.day ++ "/" ++ Text.ofInt d.year ++ " 0:0:0"

end Date

end CloudClient
