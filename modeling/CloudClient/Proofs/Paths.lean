import CloudClient.Client.Pager
import CloudClient.Proofs.Watch

/-!
# Paths — the runs of a plan

A plan is a tree, and a run of it is a path from the root to a leaf: the calls on the way,
each with what it gave, and the result.  What holds on every path holds whatever carries
the plan out.

* `Plan.Runs` is the relation between a plan and its paths.
* `Plan.trace` carries a plan out and keeps the path.
* `Procedure.LooksUp`: procedures that only look things up and end at the first call that
  fails.
-/

namespace CloudClient

namespace Plan

variable {α β : Type}

instance : LawfulMonad Plan :=
  .mk' Plan bind_done (fun _ _ => rfl) bind_assoc

/-- A run of a plan: the calls made, each with what it gave, and the result. -/
inductive Runs : Plan α → List (Call × CallResult) → α → Prop
  | done (a : α) : Runs (.done a) [] a
  | ask {call : Call} {next : CallResult → Plan α} {made : List (Call × CallResult)} {a : α}
      (r : CallResult) (rest : Runs (next r) made a) :
      Runs (.ask call next) ((call, r) :: made) a

@[simp] theorem runs_done {a b : α} {made : List (Call × CallResult)} :
    Runs (.done a) made b ↔ made = [] ∧ b = a := by
  constructor
  · rintro ⟨⟩
    exact ⟨rfl, rfl⟩
  · rintro ⟨rfl, rfl⟩
    exact .done b

theorem runs_ask {call : Call} {next : CallResult → Plan α}
    {made : List (Call × CallResult)} {a : α} :
    Runs (.ask call next) made a ↔
      ∃ r rest, made = (call, r) :: rest ∧ Runs (next r) rest a := by
  constructor
  · rintro (_ | ⟨r, rest⟩)
    exact ⟨r, _, rfl, rest⟩
  · rintro ⟨r, rest, rfl, h⟩
    exact .ask r h

/-- A run of two plans in sequence is a run of the first, then one of the second. -/
theorem runs_bind {p : Plan α} {f : α → Plan β} {made : List (Call × CallResult)} {b : β} :
    Runs (p.bind f) made b ↔
      ∃ first a rest, made = first ++ rest ∧ Runs p first a ∧ Runs (f a) rest b := by
  -- the second plan takes the place of the leaves of the first
  induction p generalizing made with
  | done a =>
    constructor
    · intro h
      exact ⟨[], a, made, rfl, .done a, h⟩
    · rintro ⟨first, c, rest, rfl, hfirst, hrest⟩
      obtain ⟨rfl, rfl⟩ := runs_done.1 hfirst
      exact hrest
  | ask call next ih =>
    rw [ask_bind, runs_ask]
    constructor
    · rintro ⟨r, rest, rfl, h⟩
      obtain ⟨first, a, last, rfl, hfirst, hlast⟩ := (ih r).1 h
      exact ⟨(call, r) :: first, a, last, rfl, .ask r hfirst, hlast⟩
    · rintro ⟨first, a, rest, rfl, hfirst, hrest⟩
      obtain ⟨r, tail, rfl, htail⟩ := runs_ask.1 hfirst
      exact ⟨r, tail ++ rest, rfl, (ih r).2 ⟨tail, a, rest, rfl, htail, hrest⟩⟩

theorem runs_map {p : Plan α} {f : α → β} {made : List (Call × CallResult)} {b : β} :
    Runs (f <$> p) made b ↔ ∃ a, Runs p made a ∧ b = f a := by
  change Runs (p.bind fun a => .done (f a)) made b ↔ _
  rw [runs_bind]
  constructor
  · rintro ⟨first, a, rest, rfl, hfirst, hrest⟩
    obtain ⟨rfl, rfl⟩ := runs_done.1 hrest
    rw [List.append_nil]
    exact ⟨a, hfirst, rfl⟩
  · rintro ⟨a, h, rfl⟩
    exact ⟨made, a, [], (List.append_nil made).symm, h, .done _⟩

/-- Carries a plan out and keeps the calls, each with what it gave. -/
def trace {m : Type → Type} [Monad m] (exchange : Call → m CallResult) :
    Plan α → m (List (Call × CallResult) × α)
  | .done a => pure ([], a)
  | .ask call next => do
    let r ← exchange call
    let (made, a) ← trace exchange (next r)
    return ((call, r) :: made, a)

theorem map_snd_trace {m : Type → Type} [Monad m] [LawfulMonad m]
    (exchange : Call → m CallResult) (p : Plan α) :
    Prod.snd <$> p.trace exchange = p.run exchange := by
  induction p with
  | done a => simp [trace, run]
  | ask call next ih => simp [trace, run, ← ih]

/-- The calls of two plans in sequence are those of the first, then those of the second. -/
theorem trace_bind {m : Type → Type} [Monad m] [LawfulMonad m]
    (exchange : Call → m CallResult) (p : Plan α) (f : α → Plan β) :
    (p.bind f).trace exchange = do
      let (first, a) ← p.trace exchange
      let (rest, b) ← (f a).trace exchange
      return (first ++ rest, b) := by
  induction p with
  | done a => simp [trace]
  | ask call next ih => simp [trace, ih]

section Watched

variable (exchange : Call → StateT ClientState Watched CallResult) (p : Plan α)
  (s : ClientState) (past : List Event)

theorem runs_trace :
    p.Runs (watch (p.trace exchange) s past).result.1
      (watch (p.trace exchange) s past).result.2 := by
  induction p generalizing s past with
  | done a => exact .done a
  | ask call next ih => exact .ask _ (ih _ _ _)

/-- The course of a plan with its calls kept and without. -/
theorem watch_trace :
    watch (p.run exchange) s past =
      ⟨(watch (p.trace exchange) s past).result.2, (watch (p.trace exchange) s past).state,
        (watch (p.trace exchange) s past).history⟩ := by
  rw [← map_snd_trace]
  rfl

/-- What holds for every call, as long as the state of the client has some property, holds
for all calls of a plan. -/
theorem forall_trace {I : ClientState → Prop} {P : Call × CallResult → Prop}
    (h : ∀ call s past, I s →
      P (call, (watch (exchange call) s past).result) ∧ I (watch (exchange call) s past).state)
    (hs : I s) : ∀ x ∈ (watch (p.trace exchange) s past).result.1, P x := by
  induction p generalizing s past with
  | done a => exact fun x hx => absurd hx List.not_mem_nil
  | ask call next ih =>
    obtain ⟨hcall, hstate⟩ := h call s past hs
    exact List.forall_mem_cons.2 ⟨hcall, ih _ _ _ hstate⟩

end Watched

end Plan

namespace Procedure

variable {α β : Type}

def Runs (p : Procedure α) (made : List (Call × CallResult)) (result : Except Failure α) :
    Prop :=
  Plan.Runs (ExceptT.run p) made result

/-- A run of two procedures in sequence ends with the failure of the first, or goes on with the
second from the result of the first. -/
theorem runs_bind {x : Procedure α} {f : α → Procedure β} {made : List (Call × CallResult)}
    {result : Except Failure β} :
    Runs (x >>= f) made result ↔ (∃ e, Runs x made (.error e) ∧ result = .error e) ∨
      ∃ a first rest, made = first ++ rest ∧ Runs x first (.ok a) ∧ Runs (f a) rest result := by
  change Plan.Runs ((ExceptT.run x).bind (ExceptT.bindCont f)) made result ↔ _
  rw [Plan.runs_bind]
  constructor
  · rintro ⟨first, outcome, rest, rfl, hfirst, hrest⟩
    cases outcome with
    | ok a => exact .inr ⟨a, first, rest, rfl, hfirst, hrest⟩
    | error e =>
      obtain ⟨rfl, hresult⟩ := Plan.runs_done.1 hrest
      rw [List.append_nil]
      exact .inl ⟨e, hfirst, hresult⟩
  · rintro (⟨e, hfirst, rfl⟩ | ⟨a, first, rest, rfl, hfirst, hrest⟩)
    · exact ⟨made, .error e, [], (List.append_nil made).symm, hfirst, .done _⟩
    · exact ⟨first, .ok a, rest, rfl, hfirst, hrest⟩

theorem runs_decided {r : Except Failure α} {made : List (Call × CallResult)}
    {result : Except Failure α} :
    Runs (ExceptT.mk (Pure.pure r)) made result ↔ made = [] ∧ result = r :=
  Plan.runs_done

theorem runs_map {x : Procedure α} {f : α → β} {made : List (Call × CallResult)}
    {result : Except Failure β} :
    Runs (f <$> x) made result ↔ ∃ outcome, Runs x made outcome ∧ result = outcome.map f := by
  change Runs (x >>= fun a => pure (f a)) made result ↔ _
  rw [runs_bind]
  constructor
  · rintro (⟨e, hx, rfl⟩ | ⟨a, first, rest, rfl, hx, hrest⟩)
    · exact ⟨.error e, hx, rfl⟩
    · obtain ⟨rfl, hresult⟩ := runs_decided.1 hrest
      rw [List.append_nil]
      exact ⟨.ok a, hx, hresult⟩
  · rintro ⟨outcome, hx, rfl⟩
    cases outcome with
    | ok a => exact .inr ⟨a, made, [], (List.append_nil made).symm, hx, .done _⟩
    | error e => exact .inl ⟨e, hx, rfl⟩

theorem runs_value {call : Call} {made : List (Call × CallResult)} {result : Except Failure Json}
    (h : Runs (Response.value <$> respond call) made result) :
    ∃ r, made = [(call, r)] ∧ result = Response.value <$> r := by
  obtain ⟨outcome, hcall, rfl⟩ := runs_map.1 h
  obtain ⟨r, rest, rfl, hrest⟩ := Plan.runs_ask.1 hcall
  obtain ⟨rfl, rfl⟩ := Plan.runs_done.1 hrest
  exact ⟨outcome, rfl, rfl⟩

/-- A call that changes nothing: its method gets something. -/
def IsLookup (call : Call) : Prop := Text.startsWith call.method "get" = true

instance (call : Call) : Decidable (IsLookup call) :=
  inferInstanceAs (Decidable (_ = true))

/-- A plan that only looks things up, and ends with the failure of the first call that
fails. -/
inductive PlanLooksUp : Plan (Except Failure α) → Prop
  | done (r : Except Failure α) : PlanLooksUp (.done r)
  | ask {call : Call} {next : CallResult → Plan (Except Failure α)} (lookup : IsLookup call)
      (stops : ∀ e, next (.error e) = .done (.error e))
      (goesOn : ∀ r, PlanLooksUp (next (.ok r))) : PlanLooksUp (.ask call next)

/-- A procedure that only looks things up, and ends with the failure of the first call that
fails. -/
def LooksUp (p : Procedure α) : Prop := PlanLooksUp (ExceptT.run p)

namespace LooksUp

theorem pure (a : α) : LooksUp (pure a) := PlanLooksUp.done (.ok a)

theorem throw (e : Failure) : LooksUp (throw e : Procedure α) :=
  PlanLooksUp.done (.error e)

theorem decided (r : Except Failure α) :
    LooksUp (ExceptT.mk (Pure.pure r) : Procedure α) := PlanLooksUp.done r

theorem bind {x : Procedure α} {f : α → Procedure β} (hx : LooksUp x)
    (hf : ∀ a, LooksUp (f a)) : LooksUp (x >>= f) := by
  change PlanLooksUp ((ExceptT.run x).bind (ExceptT.bindCont f))
  rw [LooksUp] at hx
  generalize ExceptT.run x = plan at hx ⊢
  induction hx with
  | done r =>
    -- a decision of the first goes on with the second, or ends both
    cases r with
    | ok a => exact hf a
    | error e => exact .done (.error e)
  | ask lookup stops _ ih =>
    refine .ask lookup (fun e => ?_) ih
    rw [stops]
    rfl

theorem map {x : Procedure α} (f : α → β) (hx : LooksUp x) : LooksUp (f <$> x) :=
  hx.bind fun a => pure (f a)

theorem respond {call : Call} (h : IsLookup call) : LooksUp (respond call) :=
  PlanLooksUp.ask h (fun _ => rfl) fun r => .done (.ok r)

theorem call {service method : String} {args : List Json} {options : CallOptions}
    (h : Text.startsWith method "get" = true) :
    LooksUp (call service method args options) :=
  (@respond ⟨service, method, args, options⟩ h).map Response.value

variable {p : Procedure α} {made : List (Call × CallResult)} {result : Except Failure α}

/-- A failed call gives its failure to the whole procedure. -/
theorem eq_error_of_mem (hp : LooksUp p) (hrun : p.Runs made result)
    {x : Call × CallResult} (hx : x ∈ made) {e : Failure} (he : x.2 = .error e) :
    result = .error e := by
  rw [LooksUp] at hp
  rw [Runs] at hrun
  generalize ExceptT.run p = plan at hp hrun
  induction hp generalizing made with
  | done r =>
    obtain ⟨rfl, -⟩ := Plan.runs_done.1 hrun
    simp at hx
  | ask _ stops _ ih =>
    obtain ⟨r, rest, rfl, hrest⟩ := Plan.runs_ask.1 hrun
    cases r with
    | ok v =>
      rcases List.mem_cons.1 hx with rfl | hx
      · cases he
      · exact ih v hx hrest
    | error f =>
      -- the call that fails is the last of the run, so that the failure is its own
      rw [stops] at hrest
      obtain ⟨rfl, hresult⟩ := Plan.runs_done.1 hrest
      obtain rfl := List.mem_singleton.1 hx
      obtain rfl := Except.error.inj he
      exact hresult

theorem exists_ok_of_mem {a : α} (hp : LooksUp p) (hrun : p.Runs made (.ok a))
    {x : Call × CallResult} (hx : x ∈ made) : ∃ r, x.2 = .ok r := by
  cases hr : x.2 with
  | ok r => exact ⟨r, rfl⟩
  | error e => cases hp.eq_error_of_mem hrun hx hr

end LooksUp

end Procedure

end CloudClient
