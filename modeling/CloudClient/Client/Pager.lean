import CloudClient.Call.Naming
import CloudClient.Client.Plan
import CloudClient.Query.Shorthand
import CloudClient.Text.Integer

/-!
# Pager — long lists, page by page

A listing is fetched in pages of one size and handed on item by item.  A page is
fetched only when all items before it are used up.  The listing ends after a page
that is shorter than its size, or once as many items have been fetched as the
reply says there are.

* `Pager.poll` gives the next item, with at most one fetch.
* `Pager.items` gives up to a number of items, failures among them.
* `Call.page` is the call for one page: its filter puts the listing into a definite
  order.
-/

namespace CloudClient

structure Pager where
  limit : Nat
  offset : Nat
  fetched : Nat
  /-- Items fetched and not handed on yet. -/
  buffer : List Json
  done : Bool

namespace Pager

def standardLimit : Nat := 100

/-- A listing from an offset; a page has to hold at least one item. -/
def start (limit offset : Nat) : Except Failure Pager :=
  if limit = 0 then .error (.argument "page size should be greater than zero")
  else .ok ⟨limit, offset, 0, [], false⟩

/-- A sum that stops at the largest number of its width. -/
def saturatingAdd (most a b : Nat) : Nat := min (a + b) most

/-- Whether a page that brings the count to `fetched` is the last one. -/
def isLast (limit count fetched : Nat) (total : Option Nat) : Bool :=
  count < limit ||
    match total with
    | some t => t ≤ fetched
    | none => false

/-- The listing after the reply to a fetch: a list is buffered, null ends the listing,
and any other value is its one last item. -/
def absorb (p : Pager) (r : Response) : Pager :=
  match r.value with
  | .arr items =>
    let count := min items.length Text.maxU32
    let fetched := saturatingAdd Text.maxU64 p.fetched items.length
    { p with
      offset := saturatingAdd Text.maxU32 p.offset count
      fetched := fetched
      buffer := p.buffer ++ items
      done := p.done || isLast p.limit count fetched r.total }
  | .null => { p with done := true }
  | v => { p with buffer := p.buffer ++ [v], done := true }

def shift (p : Pager) : Option (Except Failure Json) × Pager :=
  match p.buffer with
  | [] => (none, p)
  | v :: rest => (some (.ok v), { p with buffer := rest })

/-- The next item, or none at the end.  Only if the buffer is empty and the listing
goes on, a page is fetched; a failed fetch is the last item. -/
def poll {m : Type → Type} [Monad m] (fetch : Nat → Nat → m CallResult) (p : Pager) :
    m (Option (Except Failure Json) × Pager) :=
  if !p.buffer.isEmpty || p.done then pure p.shift
  else do
    match ← fetch p.offset p.limit with
    | .ok r => return (p.absorb r).shift
    | .error e => return (some (.error e), { p with done := true })

def items {m : Type → Type} [Monad m] (fetch : Nat → Nat → m CallResult) :
    Nat → Pager → m (List (Except Failure Json))
  | 0, _ => pure []
  | count + 1, p => do
    match ← p.poll fetch with
    | (none, _) => return []
    | (some item, p) => return item :: (← items fetch count p)

/-- More items than any listing gives. -/
def unbounded : Nat := Text.maxU64

/-- All items, unless fetching one of them fails. -/
def values {m : Type → Type} [Monad m] (fetch : Nat → Nat → m CallResult) (p : Pager) :
    m (Except Failure (List Json)) := do
  return (← items fetch unbounded p).mapM id

end Pager

namespace Call

def page (c : Call) (offset limit : Nat) : Call :=
  { c with
    options :=
      { c.options with
        filter := some (Filter.ordered c.options.filter (Naming.listingScope c.method))
        limit := some limit
        offset := offset } }

def pager (c : Call) : Except Failure Pager :=
  Pager.start (c.options.limit.getD Pager.standardLimit) c.options.offset

end Call

def Procedure.listing (c : Call) : Procedure (List Json) := do
  let p ← liftExcept c.pager
  ExceptT.mk (p.values fun offset limit => Plan.call (c.page offset limit))
where
  liftExcept {α : Type} (r : Except Failure α) : Procedure α := ExceptT.mk (pure r)

end CloudClient
