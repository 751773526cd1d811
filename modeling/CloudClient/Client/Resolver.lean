import CloudClient.Failure

/-!
# Resolver — from identifiers to object ids

An identifier that is a positive integer is the id itself.  Any other is handed to
resolvers, one after the other; the first that knows some ids, or fails, decides.

* `Resolver.ids` gives all ids of an identifier.
* `Resolver.id` gives the only one, or tells why there is none.
-/

namespace CloudClient

/-- Something that looks identifiers up, in some monad. -/
structure Resolver (m : Type → Type) where
  name : String
  /-- The ids that belong to an identifier; not to know any is no failure. -/
  lookup : String → m (Except Failure (List Int))

namespace Resolver

/-- The id that an identifier is by itself. -/
def literalId? (identifier : String) : Option Int :=
  (Text.i64? (Text.trimmed identifier)).filter (0 < ·)

/-- The answer of the first resolver that knows some ids or fails. -/
def firstAnswer {m : Type → Type} [Monad m] (identifier : String) :
    List (Resolver m) → m (Except Failure (List Int))
  | [] => return .ok []
  | r :: rest => do
    match ← r.lookup identifier with
    | .error e => return .error e
    | .ok [] => firstAnswer identifier rest
    | .ok ids => return .ok ids

def ids {m : Type → Type} [Monad m] (chain : List (Resolver m)) (identifier : String) :
    m (Except Failure (List Int)) :=
  match literalId? identifier with
  | some id => return .ok [id]
  | none => firstAnswer identifier chain

def operation : String := "resolve_id"

/-- The one id of a list; the object type is named in failures. -/
def only (objectType identifier : String) : List Int → Except Failure Int
  | [id] => .ok id
  | [] =>
    .error (.unresolved operation identifier []
      ("Unable to find " ++ objectType ++ " '" ++ identifier ++ "'"))
  | many =>
    .error (.unresolved operation identifier many
      ("Multiple " ++ objectType ++ " found for '" ++ identifier ++ "': " ++
        Text.join ", " (many.map Text.ofInt)))

def id {m : Type → Type} [Monad m] (objectType : String) (chain : List (Resolver m))
    (identifier : String) : m (Except Failure Int) := do
  return (← ids chain identifier).bind (only objectType identifier)

end Resolver

end CloudClient
