import CloudClient.Binary64
import CloudClient.Failure.Report

/-!
# Retry — when a failed call is sent again

A policy says which classes of failures are worth another attempt for every call and
which only for calls that change nothing, and how many attempts may follow the first.

* `RetryPolicy.run` repeats an attempt in any monad while the policy allows it.
* `Backoff.delay` is the pause before an attempt.
-/

namespace CloudClient

/-- The pauses between attempts: each is longer than the one before by a factor,
up to a limit. -/
structure Backoff where
  initialMs : Nat
  maxMs : Nat
  multiplier : Binary64
  jitter : Bool
deriving DecidableEq, Repr

namespace Backoff

/-- Half a second at first, then twice as long each time up to eight seconds. -/
def standard : Backoff := ⟨500, 8000, .ofInt 2, true⟩

/-- One millisecond at first, then twice as long each time up to ten. -/
def fast : Backoff := ⟨1, 10, .ofInt 2, false⟩

/-- No pause is longer than a day. -/
def longestSeconds : Binary64 := .ofInt 86400

/-- Milliseconds as seconds: whole seconds plus the rounded part of a second. -/
def seconds (ms : Nat) : Binary64 :=
  (Binary64.ofInt (ms / 1000)).add
    ((Binary64.ofInt (ms % 1000 * 1000000)).div (.ofInt 1000000000))

/-- Seconds, not negative, as nanoseconds; a half goes to the even neighbour. -/
def nanoseconds (s : Binary64) : Nat :=
  let (num, den) := s.ratio
  Binary64.roundHalfEven (num * 1000000000) den

def limit (b : Backoff) : Binary64 :=
  (seconds b.maxMs).min longestSeconds

/-- The factor in use: one that is negative or no number counts as 1. -/
def factor (b : Backoff) : Binary64 :=
  if b.multiplier.isFinite && Binary64.zero.le b.multiplier then b.multiplier else .ofInt 1

/-- The largest exponent a pause is computed with. -/
def maxExponent : Nat := 2147483647

/-- The pause before retry `attempt`, counted from zero, in seconds and before
spreading. -/
def base (b : Backoff) (attempt : Nat) : Binary64 :=
  let pause := (seconds b.initialMs).mul (b.factor.pow (Nat.min attempt maxExponent))
  if pause.isFinite then (pause.min b.limit).max .zero else b.limit

/-- The pause before retry `attempt` in nanoseconds; `extra` is the random part,
used only by a policy that spreads its pauses. -/
def delay (b : Backoff) (attempt extra : Nat) : Nat :=
  let pause := nanoseconds (b.base attempt)
  Nat.min (if b.jitter then pause + extra else pause) (nanoseconds b.limit)

end Backoff

/-- Which failures are repeated, how often, and after which pauses. -/
structure RetryPolicy where
  /-- How many attempts may follow the first. -/
  maxRetries : Nat
  backoff : Backoff
  /-- Classes that are repeated for every call. -/
  always : List Trigger
  /-- Classes that are repeated only for calls that change nothing. -/
  idempotent : List Trigger
deriving Repr

namespace RetryPolicy

/-- Up to three retries, and only for calls that change nothing. -/
def standard : RetryPolicy :=
  ⟨3, .standard, [], [.transportError, .timeout, .rateLimit, .serverFault]⟩

def disabled : RetryPolicy := { standard with maxRetries := 0 }

def fast : RetryPolicy := { standard with backoff := .fast }

def shouldRetry (p : RetryPolicy) (trigger : Trigger) (idempotent : Bool) : Bool :=
  trigger != .nonRetryable &&
    (p.always.contains trigger || (idempotent && p.idempotent.contains trigger))

/-- Makes an attempt and, while it fails in a way that the policy repeats, up to
`retries` more; the outcome is that of the last attempt.  The pause before each retry,
`Backoff.delay`, is no part of this loop: it takes time and changes neither what is
attempted nor what comes of it. -/
def run {m : Type → Type} [Monad m] {α : Type} (p : RetryPolicy) (idempotent : Bool)
    (attempt : m (Except Failure α)) : Nat → m (Except Failure α)
  | 0 => attempt
  | retries + 1 => do
    match ← attempt with
    | .ok a => return .ok a
    | .error e =>
      if p.shouldRetry (.ofFailure e) idempotent then run p idempotent attempt retries
      else return .error e

end RetryPolicy

end CloudClient
