import CloudClient.Proofs.Attempts
import CloudClient.Proofs.Text.Split

/-!
# Retriable failures — what reports say and what clients do

A failure tells by itself whether another attempt may succeed, and a retry policy looks at the
class of the failure.  The two are worked out apart from each other and agree, so that a client
with the standard triggers repeats a harmless call after exactly the failures that say so.  A
rejected token says no and is repeated by no policy.

* `Failure.isRetriable_iff` compares the two.
* `RetryPolicy.goesOn_iff` tells which attempts of a run are followed by another.
* `Client.repeated_iff_retriable` has it for everything that a client sends.
-/

namespace CloudClient

/-! ## Reports and classes -/

theorem Breakdown.isRetriable_iff (b : Breakdown) :
    b.isRetriable = true ↔ Trigger.ofBreakdown b ≠ .nonRetryable := by
  cases b with
  | connect => simp [isRetriable, Trigger.ofBreakdown]
  | timeout => simp [isRetriable, Trigger.ofBreakdown]
  | tls => simp [isRetriable, Trigger.ofBreakdown]
  | io => simp [isRetriable, Trigger.ofBreakdown]
  | status code =>
    by_cases hlimit : code = 429
    · simp [isRetriable, Trigger.ofBreakdown, hlimit]
    · by_cases hserver : 500 ≤ code
      · simp [isRetriable, Trigger.ofBreakdown, hlimit, hserver]
      · simp [isRetriable, Trigger.ofBreakdown, hlimit, hserver]

theorem FaultKind.isRetriable_iff (kind : FaultKind) :
    kind.isRetriable = true ↔ Trigger.ofFaultKind kind ≠ .nonRetryable := by
  cases kind <;> decide

/-- A failure says that another attempt may succeed exactly if its class may be repeated. -/
theorem Failure.isRetriable_iff (e : Failure) :
    e.isRetriable = true ↔ Trigger.ofFailure e ≠ .nonRetryable := by
  cases e with
  | transport operation breakdown detail => exact breakdown.isRetriable_iff
  | fault operation code text status => exact (FaultKind.classify code text status).isRetriable_iff
  | malformed | ordering | unresolved | argument | settings | crash =>
    simp [isRetriable, Trigger.ofFailure]

/-- A fault whose text speaks of a rejected token is not retriable, whatever else it holds. -/
theorem Failure.isRetriable_of_rejectedToken (operation code before after : String)
    (status : Option Nat) :
    (fault operation code (before ++ "Invalid API token" ++ after) status).isRetriable =
      false := by
  have htext : Text.contains (before ++ "Invalid API token" ++ after) FaultKind.rejectedToken =
      true := by
    rw [Text.contains, Text.occurs_iff_infix]
    refine ⟨before.toList, after.toList, ?_⟩
    simp only [String.toList_append]
    rfl
  show (FaultKind.classify code _ status).isRetriable = false
  rw [FaultKind.classify_of_rejected_token htext]
  rfl

/-! ## Policies -/

namespace RetryPolicy

variable {α : Type} {p : RetryPolicy}

/-- Whether a policy repeats the same classes as the standard one. -/
def HasStandardTriggers (p : RetryPolicy) : Prop :=
  (∀ t, t ∈ p.always ↔ t ∈ standard.always) ∧
    ∀ t, t ∈ p.idempotent ↔ t ∈ standard.idempotent

/-- With the standard triggers a harmless call is repeated after every class that may be. -/
theorem shouldRetry_iff_of_hasStandardTriggers (h : p.HasStandardTriggers) (t : Trigger) :
    p.shouldRetry t true = true ↔ t ≠ .nonRetryable := by
  have halways : t ∉ p.always := by
    rw [h.1]
    exact List.not_mem_nil
  have hidempotent : t ∈ p.idempotent ↔ t ≠ .nonRetryable := by
    rw [h.2]
    cases t <;> decide
  simp [shouldRetry, halways, hidempotent]

theorem shouldRetry_of_not_isRetriable {e : Failure} (h : e.isRetriable = false)
    (p : RetryPolicy) (idempotent : Bool) : p.shouldRetry (.ofFailure e) idempotent = false := by
  have hclass : Trigger.ofFailure e = .nonRetryable := by
    by_contra hne
    rw [e.isRetriable_iff.2 hne] at h
    cases h
  rw [hclass]
  rfl

/-- An attempt of a run is followed by another if a retry is left and the policy repeats its
failure. -/
theorem goesOn_iff {idempotent : Bool} {retries k i : Nat} {outcomes : Nat → Except Failure α}
    (hk : IsLeast {i | p.Ends idempotent retries outcomes i} k) (hi : i ≤ k) :
    i < k ↔ i < retries ∧
      ∃ e, outcomes i = .error e ∧ p.shouldRetry (.ofFailure e) idempotent = true := by
  have hbound : k ≤ retries := hk.2 (.inr (.inl rfl))
  constructor
  · intro hlt
    -- no attempt before the last one ends the run
    have hends : ¬ p.Ends idempotent retries outcomes i := fun h => by
      have := hk.2 h
      omega
    refine ⟨by omega, ?_⟩
    cases ho : outcomes i with
    | ok a => exact absurd (.inl ⟨a, ho⟩) hends
    | error e =>
      refine ⟨e, rfl, ?_⟩
      by_contra hstop
      exact hends (.inr (.inr ⟨e, ho, by simpa using hstop⟩))
  · rintro ⟨hleft, e, ho, hrepeat⟩
    apply Nat.lt_of_le_of_ne hi
    rintro rfl
    obtain ⟨a, ha⟩ | hused | ⟨f, hf, hstop⟩ := hk.1
    · rw [ho] at ha
      cases ha
    · omega
    · obtain rfl := Except.error.inj (ho.symm.trans hf)
      rw [hrepeat] at hstop
      cases hstop

end RetryPolicy

/-! ## Clients -/

/-- What failures say about themselves is what clients do.  A failure, and by itself any kind
of fault, is retriable exactly if its class may be repeated.  Of the attempts at a harmless call
that a client with the standard triggers makes, those are followed by another that leave a retry
and fail with a failure that is retriable.  A fault that speaks of a rejected token is not
retriable; no policy repeats it, and it is the last attempt of any client. -/
theorem Client.repeated_iff_retriable :
    (∀ e : Failure, e.isRetriable = true ↔ Trigger.ofFailure e ≠ .nonRetryable) ∧
    (∀ kind : FaultKind, kind.isRetriable = true ↔ Trigger.ofFaultKind kind ≠ .nonRetryable) ∧
    (∀ (c : Client) (b : Conduct) (r : Request) (s : ClientState) (past : List Event),
      ∃ k, watch (c.send b.world r).run s past =
          ⟨b.outcome r past k, c.noted r (b.outcome r past) s (k + 1),
            past ++ Conduct.attempts r (b.outcome r past) (k + 1)⟩ ∧
        (c.retry.HasStandardTriggers → isRepeatable r = true → ∀ i ≤ k,
          (i < k ↔ i < c.retriesOf r ∧
            ∃ e, b.outcome r past i = .error e ∧ e.isRetriable = true)) ∧
        ∀ i ≤ k, ∀ operation code before after status,
          b.outcome r past i = .error
            (.fault operation code (before ++ "Invalid API token" ++ after) status) → i = k) ∧
    ∀ operation code before after status,
      (Failure.fault operation code (before ++ "Invalid API token" ++ after) status).isRetriable =
        false ∧
      ∀ (p : RetryPolicy) (idempotent : Bool), p.shouldRetry (.ofFailure
        (.fault operation code (before ++ "Invalid API token" ++ after) status)) idempotent =
          false := by
  refine ⟨Failure.isRetriable_iff, FaultKind.isRetriable_iff, ?_, ?_⟩
  · intro c b r s past
    obtain ⟨k, hk, hrun⟩ := c.watch_send b r s past
    refine ⟨k, hrun, ?_, ?_⟩
    · intro htriggers hrepeatable i hi
      rw [hrepeatable] at hk
      rw [RetryPolicy.goesOn_iff hk hi]
      simp only [RetryPolicy.shouldRetry_iff_of_hasStandardTriggers htriggers,
        ← Failure.isRetriable_iff]
    · intro i hi operation code before after status ho
      -- were there another attempt, the policy would have repeated the fault
      by_contra hne
      obtain ⟨-, e, he, hrepeat⟩ :=
        (RetryPolicy.goesOn_iff hk hi).1 (Nat.lt_of_le_of_ne hi hne)
      obtain rfl := Except.error.inj (ho.symm.trans he)
      rw [RetryPolicy.shouldRetry_of_not_isRetriable
        (Failure.isRetriable_of_rejectedToken operation code before after status)] at hrepeat
      cases hrepeat
  · intro operation code before after status
    have hreport := Failure.isRetriable_of_rejectedToken operation code before after status
    exact ⟨hreport, RetryPolicy.shouldRetry_of_not_isRetriable hreport⟩

end CloudClient
