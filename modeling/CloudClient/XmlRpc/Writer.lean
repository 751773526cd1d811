import CloudClient.Decimal.Layout
import CloudClient.Json
import CloudClient.Text.Integer
import CloudClient.Xml.Escape

/-!
# Writing XML-RPC calls

A call is a document that names a method and lists its parameters.  Integers of
32 bits are written as `int`, wider ones as `i8`, all other numbers as `double`.

* `call` writes the whole document, `params` its list of parameters.
-/

namespace CloudClient.XmlRpc.Writer

def wrap (name : String) (content : List Char) : List Char :=
  '<' :: name.toList ++ '>' :: content ++ '<' :: '/' :: name.toList ++ ['>']

def leaf (name text : String) : List Char :=
  wrap name (Xml.escape text.toList)

def number : Number → List Char
  | .int i =>
    if Text.fitsI32 i then leaf "int" (Text.ofInt i)
    else if Text.fitsI64 i then leaf "i8" (Text.ofInt i)
    else leaf "double" (Decimal.plain.text (.ofInt i))
  | .double x => leaf "double" (Decimal.plain.text x)

mutual

def value : Json → List Char
  | .null => wrap "value" "<nil/>".toList
  | .bool b => wrap "value" (leaf "boolean" (if b then "1" else "0"))
  | .num n => wrap "value" (number n)
  | .str s => wrap "value" (leaf "string" s)
  | .arr items => wrap "value" (wrap "array" (wrap "data" (values items)))
  | .obj entries => wrap "value" (wrap "struct" (members entries))

def values : List Json → List Char
  | [] => []
  | v :: r => value v ++ values r

def members : List (String × Json) → List Char
  | [] => []
  | (k, v) :: r => wrap "member" (leaf "name" k ++ value v) ++ members r

end

def params (args : List Json) : List Char :=
  wrap "params" (args.flatMap fun v => wrap "param" (value v))

def declaration : List Char := "<?xml version=\"1.0\" encoding=\"utf-8\"?>".toList

def call (method : String) (args : List Json) : String :=
  .ofList (declaration ++ wrap "methodCall" (leaf "methodName" method ++ params args))

end CloudClient.XmlRpc.Writer
