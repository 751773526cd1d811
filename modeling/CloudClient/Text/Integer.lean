/-!
# Integers in text

A decimal integer is an optional sign followed by ASCII digits; leading zeros are
allowed, blanks and separators are not.  Readers for fixed-width integers refuse
what does not fit.  Other bases up to sixteen have no sign.
-/

namespace CloudClient.Text

def digit? (c : Char) : Option Nat :=
  if '0' ≤ c ∧ c ≤ '9' then some (c.toNat - '0'.toNat) else none

/-- The number written by a list of digits, most significant first, after `acc`. -/
def digitsFrom? (acc : Nat) : List Char → Option Nat
  | [] => some acc
  | c :: r => (digit? c).bind fun d => digitsFrom? (acc * 10 + d) r

/-- A non-empty list of digits. -/
def natural? : List Char → Option Nat
  | [] => none
  | cs => digitsFrom? 0 cs

/-- An optional sign and digits. -/
def integer? : List Char → Option Int
  | '-' :: r => (natural? r).map fun n => -(n : Int)
  | '+' :: r => (natural? r).map fun n => (n : Int)
  | cs => (natural? cs).map fun n => (n : Int)

def fitsI64 (i : Int) : Bool :=
  decide (-9223372036854775808 ≤ i ∧ i ≤ 9223372036854775807)

def fitsI32 (i : Int) : Bool :=
  decide (-2147483648 ≤ i ∧ i ≤ 2147483647)

def maxU32 : Nat := 4294967295

def maxU64 : Nat := 18446744073709551615

def i64? (s : String) : Option Int :=
  (integer? s.toList).filter fitsI64

/-- A number without sign up to `max`; a leading `+` is allowed, a `-` is not. -/
def unsigned? (max : Nat) (s : String) : Option Nat :=
  let body :=
    match s.toList with
    | '+' :: r => r
    | cs => cs
  (natural? body).filter (· ≤ max)

def hexDigit? (c : Char) : Option Nat :=
  if '0' ≤ c && c ≤ '9' then some (c.toNat - '0'.toNat)
  else if 'a' ≤ c && c ≤ 'f' then some (c.toNat - 'a'.toNat + 10)
  else if 'A' ≤ c && c ≤ 'F' then some (c.toNat - 'A'.toNat + 10)
  else none

/-- A non-empty list of digits of a base up to sixteen. -/
def inBase? (base : Nat) (cs : List Char) : Option Nat :=
  if cs.isEmpty then none
  else cs.foldlM (fun n c => ((hexDigit? c).filter (· < base)).map fun d => n * base + d) 0

def u32? (s : String) : Option Nat := unsigned? maxU32 s

def u64? (s : String) : Option Nat := unsigned? maxU64 s

def ofInt (i : Int) : String :=
  match i with
  | .ofNat n => .ofList (Nat.toDigits 10 n)
  | .negSucc n => .ofList ('-' :: Nat.toDigits 10 (n + 1))

def ofNat (n : Nat) : String :=
  .ofList (Nat.toDigits 10 n)

end CloudClient.Text
