import CloudClient.Proofs.Watch
import Mathlib.Order.Bounds.Basic

/-!
# Attempts — how often a call is sent

A call is sent again and again until an attempt ends the run: it succeeds, no retry is
left, or the policy does not repeat its failure.  The run gives the outcome of the first
attempt that ends it, and nothing is sent after that one.

* `RetryPolicy.Ends` tells which attempts end a run.
* `Naming.IsReadShaped` tells which calls are harmless by their name.
* `RetryPolicy.watch_run` is a run of the policy over any sequence of attempts.
* `Client.watch_send` is a call sent under any conduct of the service.
-/

namespace CloudClient

/-! ## The least index with a property -/

theorem isLeast_zero {P : Nat → Prop} (h : P 0) : IsLeast {i | P i} 0 :=
  ⟨h, fun _ _ => Nat.zero_le _⟩

theorem isLeast_succ {P : Nat → Prop} {k : Nat} (h0 : ¬ P 0)
    (h : IsLeast {i | P (i + 1)} k) : IsLeast {i | P i} (k + 1) := by
  refine ⟨h.1, fun i hi => ?_⟩
  cases i with
  | zero => exact absurd hi h0
  | succ i => exact Nat.succ_le_succ (h.2 hi)

namespace RetryPolicy

variable {α : Type}

/-- Whether attempt `i` is the last one of a run: it succeeds, it has used up the
retries, or the policy does not repeat its failure. -/
def Ends (p : RetryPolicy) (idempotent : Bool) (retries : Nat)
    (outcomes : Nat → Except Failure α) (i : Nat) : Prop :=
  (∃ a, outcomes i = .ok a) ∨ i = retries ∨
    ∃ e, outcomes i = .error e ∧ p.shouldRetry (.ofFailure e) idempotent = false

variable {p : RetryPolicy} {idempotent : Bool} {retries : Nat}
  {outcomes : Nat → Except Failure α}

theorem ends_succ (i : Nat) :
    p.Ends idempotent (retries + 1) outcomes (i + 1) ↔
      p.Ends idempotent retries (fun j => outcomes (j + 1)) i := by
  simp only [Ends, Nat.add_right_cancel_iff]

theorem error_of_not_ends (h : ¬ p.Ends idempotent retries outcomes 0) :
    ∃ e, outcomes 0 = .error e ∧ p.shouldRetry (.ofFailure e) idempotent = true := by
  cases ho : outcomes 0 with
  | ok a => exact absurd (.inl ⟨a, ho⟩) h
  | error e =>
    refine ⟨e, rfl, ?_⟩
    by_contra hr
    exact h (.inr (.inr ⟨e, ho, by simpa using hr⟩))

/-- A policy that repeats nothing for every call repeats no call that changes something. -/
theorem shouldRetry_of_always_nil (h : p.always = []) (t : Trigger) :
    p.shouldRetry t false = false := by
  simp [shouldRetry, h]

/-- Such a call is made in one attempt. -/
theorem run_of_always_nil {m : Type → Type} [Monad m] [LawfulMonad m] (h : p.always = [])
    (attempt : m (Except Failure α)) (retries : Nat) :
    p.run false attempt retries = attempt := by
  cases retries with
  | zero => rfl
  | succ n =>
    rw [run]
    conv_rhs => rw [← bind_pure attempt]
    congr 1
    funext outcome
    cases outcome with
    | ok a => rfl
    | error e => simp [shouldRetry_of_always_nil h]

/-- A run over attempts of which the `i`-th leads from the `i`-th state and history to the
next ones. -/
theorem watch_run {attempt : StateT ClientState Watched (Except Failure α)}
    {states : Nat → ClientState} {pasts : Nat → List Event}
    (h : ∀ i, watch attempt (states i) (pasts i) = ⟨outcomes i, states (i + 1), pasts (i + 1)⟩)
    (retries : Nat) :
    ∃ k, IsLeast {i | p.Ends idempotent retries outcomes i} k ∧
      watch (p.run idempotent attempt retries) (states 0) (pasts 0) =
        ⟨outcomes k, states (k + 1), pasts (k + 1)⟩ := by
  -- the run left after the first attempt is one over the sequences without their heads
  induction retries generalizing outcomes states pasts with
  | zero => exact ⟨0, isLeast_zero (.inr (.inl rfl)), h 0⟩
  | succ n ih =>
    by_cases h0 : p.Ends idempotent (n + 1) outcomes 0
    · refine ⟨0, isLeast_zero h0, ?_⟩
      rw [run, watch_bind, h 0]
      -- whatever ends the run, its outcome is the one of the first attempt
      rcases h0 with ⟨a, ha⟩ | hn | ⟨e, he, hr⟩
      · simp [ha]
      · omega
      · simp [he, hr]
    · obtain ⟨e, he, hr⟩ := error_of_not_ends h0
      obtain ⟨k, hk, hrun⟩ := ih fun i => h (i + 1)
      refine ⟨k + 1, isLeast_succ h0 (by simpa only [ends_succ] using hk), ?_⟩
      rw [run, watch_bind, h 0]
      simpa [he, hr] using hrun

end RetryPolicy

/-! ## Sending under a conduct -/

namespace Conduct

/-- The history after a call has been sent some times. -/
def after (b : Conduct) (r : Request) (past : List Event) : Nat → List Event
  | 0 => past
  | n + 1 => b.after r past n ++ [.carried r (b.service (b.after r past n) r)]

def outcome (b : Conduct) (r : Request) (past : List Event) (i : Nat) : CallResult :=
  b.service (b.after r past i) r

/-- The conduct with a service that gives the outcomes of a sequence, one for each call. -/
def replaying (b : Conduct) (outcomes : Nat → CallResult) : Conduct :=
  { b with service := fun past _ => outcomes (past.countP fun e => e.method?.isSome) }

def attempts (r : Request) (outcomes : Nat → CallResult) (n : Nat) : List Event :=
  (List.range n).map fun i => .carried r (outcomes i)

theorem attempts_succ (r : Request) (outcomes : Nat → CallResult) (n : Nat) :
    attempts r outcomes (n + 1) = attempts r outcomes n ++ [.carried r (outcomes n)] := by
  simp [attempts, List.range_succ]

theorem after_eq (b : Conduct) (r : Request) (past : List Event) (n : Nat) :
    b.after r past n = past ++ attempts r (b.outcome r past) n := by
  induction n with
  | zero => simp [after, attempts]
  | succ n ih =>
    rw [attempts_succ, ← List.append_assoc, ← ih]
    rfl

theorem outcome_replaying (b : Conduct) (outcomes : Nat → CallResult) (r : Request) (i : Nat) :
    (b.replaying outcomes).outcome r [] i = outcomes i := by
  -- an attempt is counted by the calls that the history holds
  have hcount (n : Nat) :
      ((b.replaying outcomes).after r [] n).countP (fun e => e.method?.isSome) = n := by
    induction n with
    | zero => rfl
    | succ n ih => rw [after, List.countP_append, ih]; rfl
  change outcomes (((b.replaying outcomes).after r [] i).countP fun e => e.method?.isSome) = _
  rw [hcount]

end Conduct

namespace Naming

/-- A method that only reads, as far as its name tells. -/
def IsReadShaped (method : String) : Prop :=
  (∃ rest, method = "get" ++ rest) ∨ ∃ rest, method = "list" ++ rest

theorem isReadShaped_iff {method : String} :
    isReadShaped method = true ↔ IsReadShaped method := by
  rw [isReadShaped, Bool.or_eq_true, Text.startsWith_iff, Text.startsWith_iff, IsReadShaped]

instance : DecidablePred IsReadShaped := fun _ => decidable_of_iff _ isReadShaped_iff

theorem isReadShaped_eq_decide (method : String) :
    isReadShaped method = decide (IsReadShaped method) :=
  Bool.eq_iff_iff.2 (isReadShaped_iff.trans decide_eq_true_iff.symm)

end Naming

namespace Client

/-- Whether repeating a call does no harm, by its name or by its caller's word. -/
def isRepeatable (r : Request) : Bool := r.idempotent || decide (Naming.IsReadShaped r.method)

/-- How many attempts at a call may follow the first. -/
def retriesOf (c : Client) (r : Request) : Nat := r.retries.getD c.retry.maxRetries

/-- The state after `n` attempts at a call: each has left its record. -/
def noted (c : Client) (r : Request) (outcomes : Nat → CallResult) (s : ClientState)
    (n : Nat) : ClientState :=
  { s with
    journal := (List.range n).foldl
      (fun j i => j.push (.ofAttempt c.format r (outcomes i))) s.journal }

theorem noted_succ (c : Client) (r : Request) (outcomes : Nat → CallResult) (s : ClientState)
    (n : Nat) :
    c.noted r outcomes s (n + 1) =
      { c.noted r outcomes s n with
        journal := (c.noted r outcomes s n).journal.push
          (.ofAttempt c.format r (outcomes n)) } := by
  simp [noted, List.range_succ]

/-- A call that is sent gives the outcome of the first attempt that ends the run. -/
theorem watch_send (c : Client) (b : Conduct) (r : Request) (s : ClientState)
    (past : List Event) :
    ∃ k, IsLeast
        {i | c.retry.Ends (isRepeatable r) (c.retriesOf r) (b.outcome r past) i} k ∧
      watch (c.send b.world r).run s past =
        ⟨b.outcome r past k, c.noted r (b.outcome r past) s (k + 1),
          past ++ Conduct.attempts r (b.outcome r past) (k + 1)⟩ := by
  have hattempt (i : Nat) :
      watch (c.attempt b.world r) (c.noted r (b.outcome r past) s i) (b.after r past i) =
        ⟨b.outcome r past i, c.noted r (b.outcome r past) s (i + 1),
          b.after r past (i + 1)⟩ := by
    rw [noted_succ]
    rfl
  obtain ⟨k, hk, hrun⟩ := RetryPolicy.watch_run hattempt (c.retriesOf r)
  refine ⟨k, hk, ?_⟩
  rw [← Conduct.after_eq, send, Naming.isReadShaped_eq_decide]
  exact hrun

/-- Over any sequence of outcomes a call is sent, unchanged, up to and with the first
attempt that ends the run, and gives the outcome of that attempt.  So it is sent at most
once more than there are retries, where the call's own number of retries goes over the
policy's; and it is sent once if the policy repeats no failure for every call and
repeating the call may do harm. -/
theorem send_replaying (c : Client) (b : Conduct) (r : Request) (outcomes : Nat → CallResult)
    (s : ClientState) :
    ∃ k, IsLeast {i | c.retry.Ends (r.idempotent || decide (Naming.IsReadShaped r.method))
          (r.retries.getD c.retry.maxRetries) outcomes i} k ∧
      watch (c.send (b.replaying outcomes).world r).run s [] =
        ⟨outcomes k, c.noted r outcomes s (k + 1), Conduct.attempts r outcomes (k + 1)⟩ ∧
      k + 1 ≤ 1 + r.retries.getD c.retry.maxRetries ∧
      (∀ n, r.retries = some n →
        IsLeast {i | c.retry.Ends (r.idempotent || decide (Naming.IsReadShaped r.method)) n
          outcomes i} k) ∧
      (c.retry.always = [] → r.idempotent = false → ¬ Naming.IsReadShaped r.method →
        k = 0) := by
  have hout : (b.replaying outcomes).outcome r [] = outcomes :=
    funext (b.outcome_replaying outcomes r)
  obtain ⟨k, hk, hrun⟩ := c.watch_send (b.replaying outcomes) r s []
  rw [hout, List.nil_append] at hrun
  rw [hout] at hk
  refine ⟨k, hk, hrun, ?_, ?_, ?_⟩
  · -- the attempt that uses up the retries ends the run
    have : k ≤ r.retries.getD c.retry.maxRetries := hk.2 (.inr (.inl rfl))
    omega
  · intro n hn
    simpa [isRepeatable, retriesOf, hn] using hk
  · -- the first attempt ends the run, whatever comes of it
    intro halways hmarked hshape
    refine Nat.le_zero.1 (hk.2 ?_)
    cases h0 : outcomes 0 with
    | ok a => exact .inl ⟨a, h0⟩
    | error e =>
      refine .inr (.inr ⟨e, h0, ?_⟩)
      rw [isRepeatable, hmarked, decide_eq_false hshape]
      exact RetryPolicy.shouldRetry_of_always_nil halways _

end Client

end CloudClient
