import CloudClient.Call.Request
import CloudClient.Failure

/-!
# Plan — calls that depend on earlier replies

A plan is a tree: it is done with a result, or it asks for a call and goes on from
whatever the reply is.  A plan says nothing about how calls are made, so that what
it asks for can be seen whatever the service answers.

* `Plan.run` carries a plan out in any monad that can make calls.
* `Procedure` is a plan that may fail; a failed call ends it unless it looks at the
  failure itself.
-/

namespace CloudClient

structure Call where
  /-- The service, by its short or full name. -/
  service : String
  method : String
  args : List Json
  options : CallOptions

abbrev CallResult := Except Failure Response

/-- A tree of calls with a result at every leaf. -/
inductive Plan (α : Type) where
  | done (result : α)
  | ask (call : Call) (next : CallResult → Plan α)

namespace Plan

def bind {α β : Type} : Plan α → (α → Plan β) → Plan β
  | .done a, f => f a
  | .ask call next, f => .ask call fun r => bind (next r) f

instance : Monad Plan where
  pure := .done
  bind := bind

def call (c : Call) : Plan CallResult := .ask c .done

def run {m : Type → Type} [Monad m] {α : Type} (exchange : Call → m CallResult) :
    Plan α → m α
  | .done a => pure a
  | .ask c next => exchange c >>= fun r => run exchange (next r)

/-! ## Laws -/

@[simp] theorem pure_eq {α : Type} (a : α) : (pure a : Plan α) = .done a := rfl

@[simp] theorem bind_eq {α β : Type} (p : Plan α) (f : α → Plan β) : p >>= f = p.bind f := rfl

@[simp] theorem done_bind {α β : Type} (a : α) (f : α → Plan β) : (Plan.done a).bind f = f a := rfl

@[simp] theorem ask_bind {α β : Type} (c : Call) (next : CallResult → Plan α) (f : α → Plan β) :
    (Plan.ask c next).bind f = .ask c fun r => (next r).bind f := rfl

theorem bind_done {α : Type} (p : Plan α) : p.bind .done = p := by
  induction p with
  | done a => rfl
  | ask c next ih => simp [ih]

theorem bind_assoc {α β γ : Type} (p : Plan α) (f : α → Plan β) (g : β → Plan γ) :
    (p.bind f).bind g = p.bind fun a => (f a).bind g := by
  induction p with
  | done a => rfl
  | ask c next ih => simp [ih]

theorem run_bind {m : Type → Type} [Monad m] [LawfulMonad m] {α β : Type}
    (exchange : Call → m CallResult) (p : Plan α) (f : α → Plan β) :
    (p.bind f).run exchange = p.run exchange >>= fun a => (f a).run exchange := by
  induction p with
  | done a => simp [run]
  | ask c next ih => simp [run, ih]

end Plan

/-- A plan that may fail. -/
abbrev Procedure (α : Type) := ExceptT Failure Plan α

namespace Procedure

def respond (c : Call) : Procedure Response := ExceptT.mk (Plan.call c)

def call (service method : String) (args : List Json) (options : CallOptions) :
    Procedure Json :=
  Response.value <$> respond ⟨service, method, args, options⟩

def run {m : Type → Type} [Monad m] {α : Type} (exchange : Call → m CallResult)
    (p : Procedure α) : m (Except Failure α) :=
  Plan.run exchange (ExceptT.run p)

end Procedure

end CloudClient
