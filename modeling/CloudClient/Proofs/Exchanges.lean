import CloudClient.Proofs.Attempts
import CloudClient.Proofs.Paths

/-!
# Exchanges — what a client does for one call and for a procedure

A call is made in two steps: the client looks for its credential, which may lead to IAM,
and then sends the request.  Only the second step carries calls, all with the method asked
for, so that a procedure of look-ups carries look-ups only.

* `Client.Says`: what the request of a call says, whatever credential goes with it.
* `Client.adds_current`, `Client.adds_exchange`, `Client.adds_carryOut`: which events there
  can be.
* `Client.watch_exchange_once`: a call that must not be repeated is one event.
-/

namespace CloudClient.Client

/-! ## The credential -/

section Credential

variable (b : Conduct)

theorem leaves_network (w : WireRequest) :
    Leaves (fun e => e.method? = none) (b.world.network w) :=
  .one (fun past => .traded w (b.network past w)) (fun _ => rfl) fun _ => rfl

theorem leaves_clock : Leaves (fun e => e.method? = none) b.world.clock :=
  .one (fun past => .looked (b.clock past)) (fun _ => rfl) fun _ => rfl

theorem leaves_httpSend (operation : String) (w : WireRequest) :
    Leaves (fun e => e.method? = none) (Http.send b.world.network operation w) := by
  unfold Http.send
  split
  · exact .pure _
  · refine (leaves_network b w).bind fun reply => ?_
    split <;> exact .pure _

theorem leaves_requestToken (endpoints : IamEndpoints) (form : List (String × String)) :
    Leaves (fun e => e.method? = none)
      (Iam.requestToken b.world.network b.world.clock endpoints form) := by
  unfold Iam.requestToken
  refine (leaves_httpSend b _ _).bind fun reply => ?_
  split
  · exact .pure _
  · exact (leaves_clock b).bind fun _ => .pure _

theorem adds_credential {P : Event → Prop} :
    Adds P (credential : ClientM Watched (Option Credential)).run :=
  fun _ => Leaves.pure _

/-- Looking for the credential carries no call, even where it is replaced. -/
theorem adds_current (c : Client) :
    Adds (fun e => e.method? = none) (c.current b.world).run := by
  have hclock : Adds (fun e => e.method? = none) (outside b.world.clock).run :=
    (Adds.lift (leaves_clock b)).bind fun _ => .pure _
  -- a credential that is still good is used; else it is looked at once more, and traded
  refine adds_credential.run_bind fun held => hclock.run_bind fun now => ?_
  split
  · exact .pure _
  · refine adds_credential.run_bind fun held => hclock.run_bind fun now => ?_
    split
    · exact .pure _
    · rename_i token refresh _
      have htrade : Adds (fun e => e.method? = none)
          (attemptOutside (Iam.refreshToken b.world.network b.world.clock c.iam refresh
            token.account token.imsAccount)).run :=
        .lift ((leaves_requestToken b _ _).bind fun _ => .pure _)
      refine htrade.run_bind fun fresh => ?_
      exact ((Adds.change _).run_bind fun _ => .change _).run_bind fun _ => adds_credential

end Credential

/-! ## Requests -/

section Request

variable (c : Client) (call : Call) (held : Option Credential)

/-- A request for a call: it says what the call says and, where its options leave something
to the client, what is set there.  A credential has one entry of the header container, and what
it adds to the HTTP headers stands behind the others. -/
structure Says (r : Request) : Prop where
  endpoint : r.endpoint = c.endpoint
  service : r.service =
    if Text.startsWith call.service "SoftLayer_" then call.service
    else "SoftLayer_" ++ call.service
  method : r.method = call.method
  args : r.args = call.args
  id : r.id = call.options.id
  mask : r.mask = call.options.mask
  filter : r.filter = call.options.filter
  limit : r.limit = call.options.limit
  offset : r.offset = call.options.offset
  headers : ∀ name, name ≠ "authenticate" →
    r.headers.find? name = (Fields.ofList call.options.headers).find? name
  httpHeaders : call.options.rawHeaders <+: r.httpHeaders
  retries : r.retries = call.options.retries
  idempotent : r.idempotent = call.options.idempotent
  timeoutMs : r.timeoutMs = call.options.timeoutMs.getD c.timeoutMs
  proxy : r.proxy = call.options.proxy.or c.proxy
  verify : r.verify = call.options.verify.getD c.verify
  userAgent : r.userAgent = c.userAgent

theorem says_request : c.Says call (c.request call) where
  endpoint := rfl
  service := rfl
  method := rfl
  args := rfl
  id := rfl
  mask := rfl
  filter := rfl
  limit := rfl
  offset := rfl
  headers _ _ := rfl
  httpHeaders := List.prefix_rfl
  retries := rfl
  idempotent := rfl
  timeoutMs := rfl
  proxy := by
    cases h : call.options.proxy <;> simp [request, Request.apply, h]
  verify := rfl
  userAgent := rfl

theorem Says.authorized {r : Request} (h : c.Says call r) : c.Says call (c.authorized r held) := by
  have hentry (entry : List (String × Json)) :
      c.Says call (Credential.authenticate r entry) :=
    { h with
      headers := fun name hname => by
        rw [Credential.authenticate, Fields.find?_insert, if_neg hname.symm, h.headers name hname] }
  rcases held with _ | credential
  · exact h
  · show c.Says call (credential.attach c.format r)
    generalize c.format = format
    -- a user with a password goes where the format has a place for them
    cases credential with
    | iam token => exact { h with httpHeaders := h.httpHeaders.trans (List.prefix_append _ _) }
    | basic username apiKey =>
      cases format with
      | xmlRpc => exact hentry _
      | rest => exact { h with }
    | session userId token =>
      cases format with
      | xmlRpc => exact hentry _
      | rest => exact { h with }

theorem says_authorized : c.Says call (c.authorized (c.request call) held) :=
  (c.says_request call).authorized c call held

end Request

/-! ## One call -/

variable (c : Client) (b : Conduct)

theorem adds_send (r : Request) :
    Adds (fun e => e.method? = some r.method) (c.send b.world r).run := by
  intro s past
  obtain ⟨k, -, hrun⟩ := c.watch_send b r s past
  refine ⟨Conduct.attempts r (b.outcome r past) (k + 1), congrArg Course.history hrun, ?_⟩
  intro e he
  obtain ⟨i, -, rfl⟩ := List.mem_map.1 he
  rfl

/-- Whatever a call leads to, no other method is called for it. -/
theorem adds_exchange (call : Call) :
    Adds (fun e => e.method? = none ∨ e.method? = some call.method)
      (c.exchange b.world call).run := by
  refine ((adds_current b c).mono fun e he => .inl he).run_bind fun held => ?_
  refine (adds_send c b _).mono fun e he => .inr ?_
  rw [he, (c.says_authorized call held).method]

/-- A client whose policy repeats no failure for every call sends a call that may do harm
once, after it has found its credential. -/
theorem watch_exchange_once (halways : c.retry.always = []) {call : Call}
    (hmarked : call.options.idempotent = false)
    (hshape : Naming.isReadShaped call.method = false) (s : ClientState)
    (past : List Event) :
    watch (c.exchange b.world call).run s past =
      (watch (c.current b.world).run s past).andThen fun held t past =>
        let q := c.authorized (c.request call) held
        let outcome := b.service past q
        ⟨outcome, { t with journal := t.journal.push (.ofAttempt c.format q outcome) },
          past ++ [.carried q outcome]⟩ := by
  -- the credential makes the request no more repeatable than the call is
  have hsend (held : Option Credential) :
      (c.send b.world (c.authorized (c.request call) held)).run =
        c.attempt b.world (c.authorized (c.request call) held) := by
    have hrepeat : ((c.authorized (c.request call) held).idempotent ||
        Naming.isReadShaped (c.authorized (c.request call) held).method) = false := by
      rw [(c.says_authorized call held).idempotent, (c.says_authorized call held).method, hmarked,
        hshape]
      rfl
    change c.retry.run _ _ _ = _
    rw [hrepeat]
    exact RetryPolicy.run_of_always_nil halways _ _
  rw [exchange, watch_run_bind]
  congr 1
  funext held t past
  rw [hsend]
  rfl

/-! ## Procedures -/

theorem watch_carryOut_bind {α β : Type} (x : Procedure α) (f : α → Procedure β)
    (s : ClientState) (past : List Event) :
    watch (c.carryOut b.world (x >>= f)).run s past =
      (watch (c.carryOut b.world x).run s past).andThen fun a =>
        watch (c.carryOut b.world (f a)).run := by
  change watch (Plan.run (c.exchangeResult b.world)
    ((ExceptT.run x).bind (ExceptT.bindCont f))) s past = _
  rw [Plan.run_bind, watch_bind, Course.andThen]
  change watch (Plan.run _ (ExceptT.bindCont f
    (watch (c.carryOut b.world x).run s past).result)) _ _ = _
  cases (watch (c.carryOut b.world x).run s past).result <;> rfl

/-- The calls that a procedure asks for while it is carried out, each with what it gave
after all its attempts. -/
def made {α : Type} (x : Procedure α) (s : ClientState) (past : List Event) :
    List (Call × CallResult) :=
  (watch ((ExceptT.run x).trace (c.exchangeResult b.world)) s past).result.1

theorem runs_made {α : Type} (x : Procedure α) (s : ClientState) (past : List Event) :
    x.Runs (c.made b x s past) (watch (c.carryOut b.world x).run s past).result := by
  have h := Plan.runs_trace (c.exchangeResult b.world) (ExceptT.run x) s past
  change Plan.Runs _ _ (watch (Plan.run (c.exchangeResult b.world) (ExceptT.run x)) s past).result
  rw [Plan.watch_trace]
  exact h

/-- The second of two procedures is carried out, and asks for calls, only if the first gives
a result. -/
theorem made_bind {α β : Type} (x : Procedure α) (f : α → Procedure β) (s : ClientState)
    (past : List Event) :
    c.made b (x >>= f) s past = c.made b x s past ++
      match watch (c.carryOut b.world x).run s past with
      | ⟨.ok a, t, past⟩ => c.made b (f a) t past
      | ⟨.error _, _, _⟩ => [] := by
  change (watch (Plan.trace _ ((ExceptT.run x).bind (ExceptT.bindCont f))) s past).result.1 = _
  have hrun : watch (c.carryOut b.world x).run s past = _ :=
    Plan.watch_trace (c.exchangeResult b.world) (ExceptT.run x) s past
  rw [Plan.trace_bind, watch_bind, hrun, made]
  rcases watch ((ExceptT.run x).trace (c.exchangeResult b.world)) s past with ⟨⟨first, r⟩, t, past⟩
  cases r with
  | ok a => rfl
  | error e => rfl

theorem watch_carryOut_value (call : Call) (s : ClientState) (past : List Event) :
    watch (c.carryOut b.world (Response.value <$> Procedure.respond call)).run s past =
      (watch (c.exchange b.world call).run s past).andThen
        fun r t past => ⟨.ok r.value, t, past⟩ := by
  change watch (c.carryOut b.world
    (Procedure.respond call >>= fun r => pure r.value)).run s past = _
  rw [watch_carryOut_bind]
  rfl

/-- A procedure that only looks things up calls methods that get something, and no
others. -/
theorem adds_carryOut {α : Type} {p : Procedure α} (hp : p.LooksUp) :
    Adds (fun e => ∀ m, e.method? = some m → Text.startsWith m "get" = true)
      (c.carryOut b.world p).run := by
  change Adds _ (Plan.run (c.exchangeResult b.world) (ExceptT.run p))
  rw [Procedure.LooksUp] at hp
  generalize ExceptT.run p = plan at hp
  -- each step is one exchange for a look-up; after a failure there is no other
  induction hp with
  | done r => exact .pure r
  | ask lookup stops _ ih =>
    refine ((adds_exchange c b _).mono fun e he m hm => ?_).bind fun r => ?_
    · rcases he with he | he
      · rw [he] at hm
        cases hm
      · rw [he] at hm
        obtain rfl := Option.some.inj hm
        exact lookup
    · cases r with
      | ok v => exact ih v
      | error e =>
        rw [stops]
        exact .pure _

end CloudClient.Client
