import CloudClient.Decimal.Reader
import CloudClient.Json

/-!
# Reading JSON text

A document is one value, with blanks around it.  Arrays and objects nest at most
`maxDepth` deep.  Of two members with one name the later wins.

A number without point and exponent that fits 64 bits is an integer; `-0` and
every other number is a double.  Such a double is read in two steps: the leading
digits that fit 64 bits are rounded, and the result is multiplied or divided by a
power of ten, so that a long number may miss the nearest double by one place.
-/

namespace CloudClient.Json

inductive Reason where
  | endOfInput
  | unexpected
  | badNumber
  | outOfRange
  | badEscape
  | controlCharacter
  | tooDeep
  | trailing
deriving DecidableEq, Repr

def Reason.text : Reason → String
  | .endOfInput => "unexpected end of the text"
  | .unexpected => "unexpected character"
  | .badNumber => "invalid number"
  | .outOfRange => "number out of range"
  | .badEscape => "invalid escape"
  | .controlCharacter => "control character in a string"
  | .tooDeep => "nested too deep"
  | .trailing => "trailing characters"

/-- A reason and the text that was left when it arose. -/
structure Stop where
  reason : Reason
  rest : List Char

/-- Reading gives a result and the rest of the text. -/
abbrev Read (α : Type) := Except Stop (α × List Char)

def isSpace (c : Char) : Bool := c == ' ' || c == '\n' || c == '\t' || c == '\r'

def skip (cs : List Char) : List Char := cs.dropWhile isSpace

/-- Stops with the reason for a text that does not go on as it should. -/
def unexpected {α : Type} (cs : List Char) : Read α :=
  .error ⟨if cs.isEmpty then .endOfInput else .unexpected, cs⟩

/-! ## Numbers -/

/-- A power of ten, rounded to a double. -/
def tenPower (n : Nat) : Binary64 := .ofRatio false (Nat.pow 10 n) 1

/-- The double for `significand * 10 ^ exponent`, by one rounded multiplication or
division; exponents below `-308` divide by `10 ^ 308` first, as often as needed. -/
def scaled? (significand : Nat) (exponent : Int) : Option Binary64 :=
  let rec go (fuel : Nat) (f : Binary64) (exponent : Int) : Option Binary64 :=
    if exponent.natAbs ≤ 308 then
      if 0 ≤ exponent then
        let r := f.mul (tenPower exponent.natAbs)
        if r.isFinite then some r else none
      else some (f.div (tenPower exponent.natAbs))
    else if f.isZero then some f
    else if 0 ≤ exponent then none
    else
      match fuel with
      | 0 => some .zero
      | fuel + 1 => go fuel (f.div (tenPower 308)) (exponent + 308)
  go 4 (.ofInt significand) exponent

/-- The digits read so far: those that fit 64 bits, and the power of ten left
over. -/
structure Mantissa where
  significand : Nat
  /-- The power of ten that it is to be scaled by. -/
  exponent : Int
  /-- Whether a digit has been left out because the number was full. -/
  full : Bool

def Mantissa.wholeDigit (m : Mantissa) (d : Nat) : Mantissa :=
  let n := m.significand * 10 + d
  if m.full || n > Text.maxU64 then { m with exponent := m.exponent + 1, full := true }
  else { m with significand := n }

def Mantissa.fractionDigit (m : Mantissa) (d : Nat) : Mantissa :=
  let n := m.significand * 10 + d
  if m.full || n > Text.maxU64 then { m with full := true }
  else { m with significand := n, exponent := m.exponent - 1 }

def digits (step : Mantissa → Nat → Mantissa) (m : Mantissa) : List Char → Mantissa × List Char
  | [] => (m, [])
  | c :: r =>
    match Text.digit? c with
    | some d => digits step (step m d) r
    | none => (m, c :: r)

def startsWithDigit : List Char → Bool
  | c :: _ => (Text.digit? c).isSome
  | [] => false

def finish (negative : Bool) (m : Mantissa) (exponent : Int) (rest : List Char) : Read Number :=
  match scaled? m.significand exponent with
  | some x => .ok (.double (if negative then x.neg else x), rest)
  | none => .error ⟨.outOfRange, rest⟩

/-- The exponent after `e`, and the double. -/
def exponentPart (negative : Bool) (m : Mantissa) (cs : List Char) : Read Number :=
  let (down, body) :=
    match cs with
    | '+' :: r => (false, r)
    | '-' :: r => (true, r)
    | r => (false, r)
  let ds := body.takeWhile fun c => (Text.digit? c).isSome
  let rest := body.dropWhile fun c => (Text.digit? c).isSome
  match Text.natural? ds with
  | none => .error ⟨if rest.isEmpty then .endOfInput else .badNumber, rest⟩
  | some e =>
    if e > 2147483647 then
      if m.significand != 0 && !down then .error ⟨.outOfRange, rest⟩
      else .ok (.double (.ofMagnitude negative 0), rest)
    else finish negative m (if down then m.exponent - e else m.exponent + e) rest

/-- A point or an exponent after the whole part, or neither. -/
def numberTail (negative : Bool) (m : Mantissa) : List Char → Read Number
  | '.' :: r =>
    if startsWithDigit r then
      let (m, rest) := digits .fractionDigit { m with full := false } r
      match rest with
      | c :: rest' =>
        if c == 'e' || c == 'E' then exponentPart negative m rest'
        else finish negative m m.exponent rest
      | [] => finish negative m m.exponent rest
    else .error ⟨if r.isEmpty then .endOfInput else .badNumber, r⟩
  | cs =>
    match cs with
    | 'e' :: r | 'E' :: r => exponentPart negative m r
    | _ =>
      let i : Int := if negative then -(m.significand : Int) else m.significand
      if m.full || (negative && (m.significand = 0 || i < -9223372036854775808)) then
        finish negative m m.exponent cs
      else .ok (.int i, cs)

def unsignedNumber (negative : Bool) (cs : List Char) : Read Number :=
  match cs with
  | '0' :: r =>
    if startsWithDigit r then .error ⟨.badNumber, r⟩ else numberTail negative ⟨0, 0, false⟩ r
  | _ =>
    if startsWithDigit cs then
      let (m, rest) := digits .wholeDigit ⟨0, 0, false⟩ cs
      numberTail negative m rest
    else .error ⟨if cs.isEmpty then .endOfInput else .badNumber, cs⟩

def number : List Char → Read Number
  | '-' :: r => unsignedNumber true r
  | cs => unsignedNumber false cs

/-! ## Strings -/

def hexDigit? (c : Char) : Option Nat :=
  if '0' ≤ c ∧ c ≤ '9' then some (c.toNat - 48)
  else if 'a' ≤ c ∧ c ≤ 'f' then some (c.toNat - 87)
  else if 'A' ≤ c ∧ c ≤ 'F' then some (c.toNat - 55)
  else none

def hex4? (a b c d : Char) : Option Nat := do
  let a ← hexDigit? a
  let b ← hexDigit? b
  let c ← hexDigit? c
  let d ← hexDigit? d
  return ((a * 16 + b) * 16 + c) * 16 + d

def simpleEscape? : Char → Option Char
  | '"' => some '"'
  | '\\' => some '\\'
  | '/' => some '/'
  | 'b' => some '\x08'
  | 'f' => some '\x0c'
  | 'n' => some '\n'
  | 'r' => some '\r'
  | 't' => some '\t'
  | _ => none

def consChar (c : Char) : Read (List Char) → Read (List Char)
  | .ok (s, rest) => .ok (c :: s, rest)
  | .error e => .error e

/-- The characters of a string up to the closing quotation mark. -/
def stringBody : List Char → Read (List Char)
  | [] => .error ⟨.endOfInput, []⟩
  | '"' :: r => .ok ([], r)
  | '\\' :: 'u' :: a :: b :: c :: d :: '\\' :: 'u' :: e :: f :: g :: h :: r =>
    match hex4? a b c d with
    | none => .error ⟨.badEscape, a :: b :: c :: d :: '\\' :: 'u' :: e :: f :: g :: h :: r⟩
    | some hi =>
      if 0xD800 ≤ hi ∧ hi < 0xDC00 then
        match hex4? e f g h with
        | some lo =>
          if 0xDC00 ≤ lo ∧ lo < 0xE000 then
            consChar (.ofNat (0x10000 + (hi - 0xD800) * 0x400 + (lo - 0xDC00))) (stringBody r)
          else .error ⟨.badEscape, r⟩
        | none => .error ⟨.badEscape, e :: f :: g :: h :: r⟩
      else if 0xDC00 ≤ hi ∧ hi < 0xE000 then .error ⟨.badEscape, r⟩
      else consChar (.ofNat hi) (stringBody ('\\' :: 'u' :: e :: f :: g :: h :: r))
  | '\\' :: 'u' :: a :: b :: c :: d :: r =>
    match hex4? a b c d with
    | none => .error ⟨.badEscape, a :: b :: c :: d :: r⟩
    | some n =>
      if 0xD800 ≤ n ∧ n < 0xE000 then .error ⟨.badEscape, r⟩
      else consChar (.ofNat n) (stringBody r)
  | '\\' :: c :: r =>
    match simpleEscape? c with
    | some x => consChar x (stringBody r)
    | none => .error ⟨.badEscape, c :: r⟩
  | c :: r =>
    if c == '\\' then .error ⟨.endOfInput, r⟩
    else if c.toNat < 0x20 then .error ⟨.controlCharacter, c :: r⟩
    else consChar c (stringBody r)

/-- A string after its opening quotation mark. -/
def string (cs : List Char) : Read String :=
  match stringBody cs with
  | .ok (s, rest) => .ok (.ofList s, rest)
  | .error e => .error e

/-! ## Values -/

def maxDepth : Nat := 127

/-- Takes a literal word off the text. -/
def word (w : List Char) (v : Json) (cs : List Char) : Read Json :=
  if w.isPrefixOf cs then .ok (v, cs.drop w.length) else unexpected (cs.drop 1)

section Values

variable (numeral : List Char → Read Number)

mutual

/-- A value that starts at the first character, its numbers read by `numeral`; `depth` more
levels are allowed. -/
def value (fuel depth : Nat) (cs : List Char) : Read Json :=
  match fuel with
  | 0 => .error ⟨.tooDeep, cs⟩
  | fuel + 1 =>
    match cs with
    | 'n' :: _ => word "null".toList .null cs
    | 't' :: _ => word "true".toList (.bool true) cs
    | 'f' :: _ => word "false".toList (.bool false) cs
    | '"' :: r => (string r).map fun (s, rest) => (.str s, rest)
    | '[' :: r =>
      if depth = 0 then .error ⟨.tooDeep, r⟩
      else
        match skip r with
        | ']' :: rest => .ok (.arr [], rest)
        | r => (items fuel (depth - 1) [] r).map fun (vs, rest) => (.arr vs, rest)
    | '{' :: r =>
      if depth = 0 then .error ⟨.tooDeep, r⟩
      else
        match skip r with
        | '}' :: rest => .ok (.obj [], rest)
        | r => (members fuel (depth - 1) [] r).map fun (ms, rest) => (.obj ms, rest)
    | c :: _ =>
      if c == '-' || (Text.digit? c).isSome then (numeral cs).map fun (n, rest) => (.num n, rest)
      else unexpected cs
    | [] => unexpected cs

/-- The elements up to the closing bracket, after those already read. -/
def items (fuel depth : Nat) (done : List Json) (cs : List Char) : Read (List Json) :=
  match fuel with
  | 0 => .error ⟨.tooDeep, cs⟩
  | fuel + 1 =>
    match value fuel depth cs with
    | .error e => .error e
    | .ok (v, rest) =>
      match skip rest with
      | ',' :: r => items fuel depth (v :: done) (skip r)
      | ']' :: r => .ok ((v :: done).reverse, r)
      | r => unexpected r

/-- The members up to the closing brace, added to those already read. -/
def members (fuel depth : Nat) (done : Fields Json) (cs : List Char) : Read (Fields Json) :=
  match fuel with
  | 0 => .error ⟨.tooDeep, cs⟩
  | fuel + 1 =>
    match cs with
    | '"' :: r =>
      match string r with
      | .error e => .error e
      | .ok (k, rest) =>
        match skip rest with
        | ':' :: r =>
          match value fuel depth (skip r) with
          | .error e => .error e
          | .ok (v, rest) =>
            match skip rest with
            | ',' :: r => members fuel depth (Fields.insert k v done) (skip r)
            | '}' :: r => .ok (Fields.insert k v done, r)
            | r => unexpected r
        | r => unexpected r
    | _ => unexpected cs

end

end Values

/-! ## Documents -/

/-- Why and where a text is not a JSON document. -/
structure ReadError where
  reason : Reason
  /-- The line, counted from one. -/
  line : Nat
  /-- The column, counted from one. -/
  column : Nat
deriving DecidableEq, Repr

def ReadError.message (e : ReadError) : String :=
  e.reason.text ++ " at line " ++ Text.ofNat e.line ++ " column " ++ Text.ofNat e.column

/-- The place in a text where only `rest` is left. -/
def ReadError.at (text : List Char) (stop : Stop) : ReadError :=
  let before := text.take (text.length - stop.rest.length)
  { reason := stop.reason
    line := 1 + before.count '\n'
    column := 1 + (before.reverse.takeWhile (· != '\n')).length }

/-- The value of a document; each step of reading uses up a character or turns to
the element or member in front of it, so twice the length is fuel enough. -/
def readChars (cs : List Char) : Except Stop Json :=
  match value number (2 * cs.length + 2) maxDepth (skip cs) with
  | .error e => .error e
  | .ok (v, rest) =>
    match skip rest with
    | [] => .ok v
    | r => .error ⟨.trailing, r⟩

def read (text : String) : Except ReadError Json :=
  match readChars text.toList with
  | .ok v => .ok v
  | .error e => .error (.at text.toList e)

def read? (text : String) : Option Json := (read text).toOption

end CloudClient.Json
