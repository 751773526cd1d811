import CloudClient.Text.Mark

/-!
# Writing directions in domains

Scripts run to the right or to the left; digits and signs follow their neighbours.
A domain that holds a letter or number of a script that runs to the left is fit to be shown
only if each of its labels keeps to one direction, from its first letter to its last.
-/

namespace CloudClient.Url

open Text (CodeRow)

/-- The classes of characters by the direction they are written in. -/
inductive Direction where
  | rightward
  /-- A letter of a script that runs to the left, the Arabic scripts apart. -/
  | leftward
  | arabic
  | arabicDigit
  | digit
  | sign
  /-- What stands before or after a number. -/
  | unit
  | separator
  | mark
  | joiner
  | neutral
deriving DecidableEq, Repr

/-- Letters of scripts that run to the left, marks on them left out. -/
def leftwardLetters : List CodeRow := CodeRow.table
  ["5BE-5F4 7C0-7F5 7FA-85E 10800-1091B 10920-10B35 10B40-10CFF 10D4A-10D8F 10E80-10EB1",
    "10F00-10F27 10F70-10FF6 1E800-1E95F"]

def arabicLetters : List CodeRow := CodeRow.table
  ["608 60B 60D 61B-64A 66D-6D5 6E5-6E6 6EE-6EF 6FA-7B1 860-8C9 FBB2-FBD2 FD90-FDCE FE73",
    "10D00-10D23 10EC2-10ED8 10F30-10F59 1EC71-1ED3D"]

/-- What stands before or after a number, such as signs of money. -/
def unitSigns : List CodeRow := CodeRow.table
  ["A2-A5 B0-B1 58F 609-60A 66A 9F2-9F3 9FB AF1 BF9 E3F 17DB 2030-2032 20A0-20C0 212E 2213",
    "A838-A839 11FDD-11FE0 1E2FF"]

def neutralSigns : List CodeRow := CodeRow.table
  ["A1 A6-AE B6-D7 F7 2B9-2BA 2C2-2CF 2D2-2ED 2EF-2FF 375 3F6 58A-58E 606-607 60E-60F 6DE 6E9",
    "7F6-7F9 BF3-BF8 BFA C78-C7E F3A-F3D 1390-1399 1400 169B-169C 17F0-180A 1940-1945 19DE-19FF",
    "2010-2027 2035-2043 2045-205E 2104-2129 213A-214D 218A-2211 2214-2335 237B-2394 2396-2426",
    "2440-26AB 26AD-27FF 2900-2B95 2B97-2BFF 2CE5-2CEA 2CF9-2CFF 2E00-3004 3008-3020 3030 3037",
    "303D-303F 30A0 30FB 31C0-31E3 4DC0-4DFF A490-A4C6 A60D-A60F A673-A67F A700-A721 A788",
    "A828-A82B A874-A877 AB6A-AB6B FD3E-FD4F FDCF-FE46 10101 10140-1018C 10190-101A0 1091F",
    "10B39-10B3F 11052-11065 11660-1166C 11FD5-11FDC 11FE1-11FF1 16FE2 1D1E9-1D245 1D300-1D356",
    "1EEF0-1F12F 1F16D-1F16F 1F1AD 1F260-1F6D7 1F6DD-1F773 1F780-1F7D8 1F7E0-1F8B1 1F900-1FA53",
    "1FA60-1FA74 1FA78-1FA86 1FA90-1FAAC 1FAB0-1FABA 1FAC0-1FAC5 1FAD0-1FAD9 1FAE0-1FAE7",
    "1FAF0-1FAF6 1FB00-1FBCA"]

def asciiDirection (c : Char) : Direction :=
  if c.isAlpha then .rightward
  else if c.isDigit then .digit
  else if ['+', '-'].contains c then .sign
  else if ['#', '$', '%'].contains c then .unit
  else if [',', '.', '/', ':'].contains c then .separator
  else .neutral

/-- The tables of the classes beyond ASCII, marks apart. -/
def directionTables : List (Direction × List CodeRow) :=
  [(.leftward, leftwardLetters), (.arabic, arabicLetters),
    (.arabicDigit, CodeRow.table ["660-669 66B-66C 10D30-10D39 10E60-10E7E"]),
    (.digit, CodeRow.table ["6F0-6F9 102E1-102FB 10D40-10D49"]),
    (.sign, CodeRow.table ["2212"]), (.unit, unitSigns),
    (.separator, CodeRow.table ["60C 2044"]),
    (.joiner, CodeRow.table ["200C-200D"]), (.neutral, neutralSigns)]

/-- The direction of a character of a domain.  Two marks of Kannada count as letters. -/
def directionOf (c : Char) : Direction :=
  if c.toNat < 0x80 then asciiDirection c
  else if Text.isNonspacing c && !(['\u0CBF', '\u0CC6'].contains c) then .mark
  else
    ((directionTables.find? fun (_, table) => CodeRow.lists table c).map (·.1)).getD .rightward

/-- Whether a label starts a run to the left. -/
def Direction.startsLeft : Direction → Bool
  | .leftward | .arabic => true
  | _ => false

/-- Whether a class occurs only beside scripts that run to the left. -/
def Direction.isLeft : Direction → Bool
  | .leftward | .arabic | .arabicDigit => true
  | _ => false

def withoutFinalMarks (ds : List Direction) : List Direction :=
  (ds.reverse.dropWhile (· == .mark)).reverse

/-- Whether a label that starts with a script to the left keeps to it: it ends with a
letter or number, and its numbers are of one kind. -/
def keepsLeft (ds : List Direction) : Bool :=
  !ds.contains .rightward
    && (withoutFinalMarks ds).getLast?.any [.leftward, .arabic, .digit, .arabicDigit].contains
    && !(ds.contains .digit && ds.contains .arabicDigit)

/-- Whether a label that starts with a script to the right keeps to it. -/
def keepsRight (ds : List Direction) : Bool :=
  !ds.any Direction.isLeft
    && (withoutFinalMarks ds).getLast?.any [.rightward, .digit].contains

/-- Whether a label keeps to the direction of its first letter. -/
def keepsDirection (label : List Char) : Bool :=
  match label.map directionOf with
  | [] => true
  | d :: rest =>
    if d.startsLeft then keepsLeft (d :: rest)
    else d == .rightward && keepsRight (d :: rest)

/-- Whether the labels of a domain fit to be shown together. -/
def directionsAgree (labels : List (List Char)) : Bool :=
  !(labels.any fun label => label.any fun c => (directionOf c).isLeft)
    || labels.all keepsDirection

end CloudClient.Url
