import CloudClient.Xml.Escape
import CloudClient.Xml.Token

/-!
# Node — the tree of a document

A document is one element; its children are elements, text and parts without
data.  Neighbouring pieces of text are one node.  Names are kept without the
parts before their colons, and attributes are checked but not kept.

* `Node.parse?` reads a document.
* `Node.leadingText` is the text that an element begins with.
-/

namespace CloudClient.Xml

inductive Node where
  | element (name : String) (children : List Node)
  | text (content : List Char)
  /-- A comment or a processing instruction. -/
  | other
deriving Repr, Inhabited

namespace Node

/-! ## Looking into a tree -/

def children : Node → List Node
  | .element _ cs => cs
  | _ => []

def name? : Node → Option String
  | .element name _ => some name
  | _ => none

def isElement (n : Node) : Bool := n.name?.isSome

def isNamed (name : String) (n : Node) : Bool := n.name? == some name

def child? (name : String) (n : Node) : Option Node :=
  n.children.find? (isNamed name)

/-- The text that an element begins with; empty if it begins with anything else. -/
def leadingText (n : Node) : String :=
  match n.children with
  | .text content :: _ => .ofList content
  | _ => ""

/-! ## Namespaces -/

def xmlSpace : String := "http://www.w3.org/XML/1998/namespace"

def declarationSpace : String := "http://www.w3.org/2000/xmlns/"

structure ReadAttribute where
  name : QName
  value : String

def readAttribute? (a : Attribute) : Option ReadAttribute :=
  (unescape? a.written).map fun cs => ⟨a.name, .ofList cs⟩

/-- Adds the declarations among attributes to the bindings of an element and
collects the other attributes; none if a declaration is not allowed. -/
def declare? (own : List (String × String)) :
    List ReadAttribute → Option (List (String × String) × List QName)
  | [] => some (own, [])
  | a :: rest =>
    if a.name.space == "xmlns" then
      let isXml := a.value == xmlSpace
      if a.value == declarationSpace || isXml != (a.name.name == "xml") ||
          own.any (·.1 == a.name.name) then none
      else declare? (if isXml then own else (a.name.name, a.value) :: own) rest
    else if a.name.name == "xmlns" then
      if a.value == xmlSpace || a.value == declarationSpace then none else declare? own rest
    else (declare? own rest).map fun (own, names) => (own, a.name :: names)

/-- The namespace that a name's first part stands for. -/
def space? (scope : List (String × String)) (name : QName) : Option String :=
  (scope.find? (·.1 == name.space)).map (·.2)

/-- An attribute name with its namespace; none if its first part stands for nothing. -/
def expanded? (scope : List (String × String)) (name : QName) :
    Option (Option String × String) :=
  if name.space.isEmpty then some (none, name.name)
  else if name.space == "xml" then some (some xmlSpace, name.name)
  else (space? scope name).map fun s => (some s, name.name)

/-- The bindings inside an element; none if a name stands for nothing or an attribute
is there twice. -/
def scope? (outer : List (String × String)) (name : QName) (attributes : List Attribute) :
    Option (List (String × String)) := do
  let read ← attributes.mapM readAttribute?
  let (own, names) ← declare? [] read
  let scope := own ++ outer
  let expanded ← names.mapM (expanded? scope)
  if !decide expanded.Nodup || name.space == "xmlns" then none
  else if !name.space.isEmpty && (space? scope name).isNone then none
  else some scope

/-! ## Building -/

/-- An element whose end tag has not come yet. -/
structure Frame where
  name : QName
  /-- The namespaces inside it. -/
  scope : List (String × String)
  /-- Its children so far, last first. -/
  done : List Node

/-- Adds a child; text joins text before it. -/
def pushChild (n : Node) (done : List Node) : List Node :=
  match n, done with
  | .text b, .text a :: rest => .text (a ++ b) :: rest
  | _, _ => n :: done

/-- A document while it is read: the open elements, innermost first, and the root
once it is closed. -/
structure Builder where
  frames : List Frame
  root : Option Node

namespace Builder

def start : Builder := ⟨[], none⟩

/-- Adds a node inside the innermost element. -/
def add? (b : Builder) (n : Node) : Option Builder :=
  match b.frames with
  | f :: rest => some { b with frames := { f with done := pushChild n f.done } :: rest }
  | [] =>
    match n with
    | .element .. => if b.root.isSome then none else some { b with root := some n }
    | .other => some b
    | .text _ => none

def step? (b : Builder) : Token → Option Builder
  | .start name attributes closed => do
    let outer :=
      match b.frames with
      | f :: _ => f.scope
      | [] => []
    let scope ← scope? outer name attributes
    if b.frames.isEmpty && b.root.isSome then none
    else if closed then b.add? (.element name.name [])
    else some { b with frames := ⟨name, scope, []⟩ :: b.frames }
  | .finish name =>
    match b.frames with
    | f :: rest =>
      if f.name = name then
        { b with frames := rest }.add? (.element f.name.name f.done.reverse)
      else none
    | [] => none
  | .text written =>
    if b.frames.isEmpty then if written.all isSpace then some b else none
    else do
      let content ← unescape? written
      b.add? (.text content)
  | .verbatim written => b.add? (.text (normalLines written))
  | .comment | .instruction => b.add? .other

def run? (b : Builder) : List Token → Option Builder
  | [] => some b
  | token :: rest => (b.step? token).bind fun b => run? b rest

def finish? (b : Builder) : Option Node :=
  if b.frames.isEmpty then b.root else none

end Builder

/-! ## Documents -/

/-- Skips blanks after an item of the declaration; its end may follow directly. -/
def spaced? (cs : List Char) : Option (List Char) :=
  match cs with
  | c :: _ =>
    if isSpace c then some (Token.skipSpaces cs)
    else if "?>".toList.isPrefixOf cs then some cs
    else none
  | [] => some []

def skipItem? (name : String) (cs : List Char) : Option (List Char) :=
  if name.toList.isPrefixOf cs then (Token.attribute? cs).map (·.2) else some cs

def skipDeclaration? (cs : List Char) : Option (List Char) :=
  match Text.dropHead? "<?xml ".toList cs with
  | none => some cs
  | some r => do
    let r := Token.skipSpaces r
    if !"version".toList.isPrefixOf r then none
    else
      let r ← (skipItem? "version" r).bind spaced?
      let r ← if "encoding".toList.isPrefixOf r then (skipItem? "encoding" r).bind spaced?
        else some r
      let r ← skipItem? "standalone" r
      Text.dropHead? "?>".toList (Token.skipSpaces r)

/-- Reads a document; a byte order mark in front of it is skipped. -/
def parse? (cs : List Char) : Option Node := do
  let cs := (Text.dropHead? ['\uFEFF'] cs).getD cs
  let body ← skipDeclaration? cs
  let tokens ← Token.scan? body
  let built ← Builder.start.run? tokens
  built.finish?

end Node

end CloudClient.Xml
