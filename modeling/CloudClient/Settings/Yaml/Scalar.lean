import CloudClient.Decimal.Reader
import CloudClient.Settings.Variable
import CloudClient.Settings.Yaml.Tag
import CloudClient.Text.Integer

/-!
# What scalars mean

A plain scalar means null, a truth value, a number or its own text; in quotes or in a
block it is text.  A tag may ask for one of these kinds.

* `Scalar.value?` is the meaning of a scalar with a tag.
-/

namespace CloudClient.Settings.Yaml.Scalar

/-! ## Words -/

def isNull (s : String) : Bool := s == "~" || s == "null" || s == "Null" || s == "NULL"

def flag? (s : String) : Option Bool :=
  match s with
  | "true" | "True" | "TRUE" => some true
  | "false" | "False" | "FALSE" => some false
  | _ => none

/-! ## Numbers -/

/-- The text behind a leading plus, if no other sign follows it. -/
def withoutPlus? : List Char → Option (List Char)
  | '+' :: '+' :: _ | '+' :: '-' :: _ => none
  | '+' :: r => some r
  | cs => some cs

/-- Whether a scalar is digits that start with a needless zero: those are text. -/
def isPaddedDigits (cs : List Char) : Bool :=
  let body :=
    match cs with
    | '-' :: r | '+' :: r => r
    | _ => cs
  match body with
  | '0' :: r => !r.isEmpty && r.all Char.isDigit
  | _ => false

def magnitude? : List Char → Option Nat
  | '0' :: 'x' :: r => Text.inBase? 16 r
  | '0' :: 'o' :: r => Text.inBase? 8 r
  | '0' :: 'b' :: r => Text.inBase? 2 r
  | cs => if isPaddedDigits cs then none else Text.inBase? 10 cs

/-- The largest integer, which has 128 bits. -/
def maxInteger : Int := 340282366920938463463374607431768211455

/-- The smallest integer, which has 128 bits with its sign. -/
def minInteger : Int := -170141183460469231731687303715884105728

def integer? (cs : List Char) : Option Int :=
  let read :=
    match cs with
    | '-' :: r => (magnitude? r).map fun n => -(n : Int)
    | _ => ((withoutPlus? cs).bind magnitude?).map Int.ofNat
  read.filter fun i => minInteger ≤ i && i ≤ maxInteger

def double? (s : String) : Option Binary64 :=
  match s with
  | ".inf" | ".Inf" | ".INF" | "+.inf" | "+.Inf" | "+.INF" => some (.infinity false)
  | "-.inf" | "-.Inf" | "-.INF" => some (.infinity true)
  | ".nan" | ".NaN" | ".NAN" => some (.nan false)
  | _ =>
    (withoutPlus? s.toList).bind fun body =>
      (Decimal.double? (.ofList body)).filter Binary64.isFinite

/-! ## Scalars -/

def ofPlain (s : String) : Value :=
  if s.isEmpty || isNull s then .null
  else
    match flag? s with
    | some b => .flag b
    | none =>
      match integer? s.toList with
      | some i => .integer i
      | none =>
        match if isPaddedDigits s.toList then none else double? s with
        | some x => .double x
        | none => .text s

/-- Whether a tag is of a kind that only the writer of the document knows.  Nodes of
such a kind have no value. -/
def isLocal (tag : Tag.Name) : Bool :=
  match tag with
  | b :: rest => b == '!'.toUInt8 && Utf8.encode (Utf8.decode rest) == rest
  | [] => false

/-- What a scalar means; none if it does not mean what its tag asks for. -/
def value? (tag : Option Tag.Name) (plain : Bool) (s : String) : Option Value :=
  match tag with
  | none => some (if plain then ofPlain s else .text s)
  | some tag =>
    if isLocal tag then none
    else if tag == Tag.name "tag:yaml.org,2002:bool" then (flag? s).map .flag
    else if tag == Tag.name "tag:yaml.org,2002:int" then (integer? s.toList).map .integer
    else if tag == Tag.name "tag:yaml.org,2002:float" then (double? s).map .double
    else if tag == Tag.name "tag:yaml.org,2002:null" then
      if isNull s then some .null else none
    else if plain && tag.head? == some '!'.toUInt8 then some (ofPlain s)
    else some (.text s)

end CloudClient.Settings.Yaml.Scalar
