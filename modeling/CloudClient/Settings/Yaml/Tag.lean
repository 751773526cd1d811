import CloudClient.Settings.Yaml.Cursor
import CloudClient.Text.Integer
import CloudClient.Text.Utf8

/-!
# Tags

A tag names the kind of a node.  It is written in full between `!<` and `>`, or as a
handle and a suffix; what a handle stands for is said by directives before the
document.  Tags are kept as bytes, since any byte of one may be written in percent
encoding.

* `Tag.resolve?` gives the name that a written tag stands for.
-/

namespace CloudClient.Settings.Yaml

structure Tag where
  /-- The handle; empty if the suffix is the whole name. -/
  handle : List Char
  suffix : List UInt8
deriving DecidableEq, Repr

namespace Tag

/-! ## Names -/

/-- The names of tags that are written in full. -/
abbrev Name := List UInt8

def name (s : String) : Name := Utf8.encode s.toList

/-- The tag of a node that leaves its kind open. -/
def openName : Name := name "!"

structure Meaning where
  handle : List Char
  start : Name
deriving DecidableEq, Repr

/-- The handles that need no directive. -/
def standardMeanings : List Meaning :=
  [⟨['!'], name "!"⟩, ⟨['!', '!'], name "tag:yaml.org,2002:"⟩]

/-- The name that a tag stands for; none if its handle has no meaning. -/
def resolve? (meanings : List Meaning) (t : Tag) : Option Name :=
  if t.handle.isEmpty then some t.suffix
  else
    ((meanings ++ standardMeanings).find? fun m => m.handle == t.handle).map fun m =>
      m.start ++ t.suffix

/-! ## Reading -/

def octet? : List Char → Option (UInt8 × List Char)
  | '%' :: h :: l :: r => do
    let a ← Text.hexDigit? h
    let b ← Text.hexDigit? l
    return (UInt8.ofNat (a * 16 + b), r)
  | _ => none

/-- Some bytes in percent encoding that continue a character. -/
def moreOctets? : Nat → List Char → Option (List UInt8 × List Char)
  | 0, cs => some ([], cs)
  | n + 1, cs => do
    let (b, r) ← octet? cs
    if Utf8.isContinuation b then
      (moreOctets? n r).map fun (bs, rest) => (b :: bs, rest)
    else none

def continuations? (b : UInt8) : Option Nat :=
  if b < 0x80 then some 0
  else if b < 0xC0 then none
  else if b < 0xE0 then some 1
  else if b < 0xF0 then some 2
  else if b < 0xF8 then some 3
  else none

/-- The bytes of a character in percent encoding. -/
def encoded? (cs : List Char) : Option (List UInt8 × List Char) := do
  let (b, r) ← octet? cs
  let n ← continuations? b
  (moreOctets? n r).map fun (bs, rest) => (b :: bs, rest)

/-- Whether a character may stand in a tag as it is; `enclosed` tells whether it is
the end of the tag that is marked. -/
def isUriChar (enclosed : Bool) (c : Char) : Bool :=
  isNameChar c || ";/?:@&=+$.!~*'()".toList.contains c || (enclosed && ",[]".toList.contains c)

def uri? (enclosed : Bool) (cs : List Char) : Option (List UInt8 × List Char) :=
  match cs with
  | [] => some ([], [])
  | c :: r =>
    if c == '%' then
      match encoded? (c :: r) with
      | none => none
      | some (bs, rest) =>
        if _ : rest.length < r.length + 1 then
          (uri? enclosed rest).map fun (more, rest) => (bs ++ more, rest)
        else none
    else if isUriChar enclosed c then
      (uri? enclosed r).map fun (more, rest) => (Utf8.encode [c] ++ more, rest)
    else some ([], c :: r)
termination_by cs.length

/-- The bytes before the first that is zero, which ends a tag. -/
def cut (bs : List UInt8) : List UInt8 := bs.takeWhile (· != 0)

/-- Reads the bytes of a tag, of which there has to be one. -/
def someUri? (enclosed : Bool) (cs : List Char) : Option (List UInt8 × List Char) := do
  let (bs, rest) ← uri? enclosed cs
  if bs.isEmpty then none else some (cut bs, rest)

/-- A `!`, the name after it and a `!` that may end it, and what follows. -/
def handle? : List Char → Option (List Char × List Char)
  | '!' :: r =>
    let name := r.takeWhile isNameChar
    match r.drop name.length with
    | '!' :: rest => some ('!' :: name ++ ['!'], rest)
    | rest => some ('!' :: name, rest)
  | _ => none

/-- Whether a handle ends in a mark of its own. -/
def isMarked (handle : List Char) : Bool :=
  decide (2 ≤ handle.length) && handle.getLast? == some '!'

/-- Reads a tag without looking at what ends it. -/
def body? : List Char → Option (Tag × List Char)
  | '!' :: '<' :: r => do
    let (name, rest) ← someUri? true r
    match rest with
    | '>' :: rest => some (⟨[], name⟩, rest)
    | _ => none
  | cs => do
    let (handle, rest) ← handle? cs
    if isMarked handle then
      let (suffix, rest) ← someUri? false rest
      return (⟨handle, suffix⟩, rest)
    else
      let (more, rest) ← uri? false rest
      let suffix := cut (Utf8.encode (handle.drop 1) ++ more)
      return (if suffix.isEmpty then ⟨[], openName⟩ else ⟨['!'], suffix⟩, rest)

/-- Reads a tag; between brackets, a comma may end it. -/
def read? (inFlow : Bool) (c : Cursor) : Option (Tag × Cursor) := do
  let (tag, rest) ← body? c.rest
  if endsWord rest || (inFlow && rest.head? == some ',') then some (tag, c.moveTo rest)
  else none

/-! ## Directives -/

/-- Reads what a directive says of a handle, from after its name. -/
def meaning? (cs : List Char) : Option (Meaning × List Char) := do
  let (handle, rest) ← handle? (cs.dropWhile isSpace)
  if !isMarked handle && handle != ['!'] then none
  else if !rest.head?.any isSpace then none
  else
    let (start, rest) ← someUri? true (rest.dropWhile isSpace)
    if endsWord rest then some (⟨handle, start⟩, rest) else none

end Tag

end CloudClient.Settings.Yaml
