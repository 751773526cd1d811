import CloudClient.Proofs.Containers

/-!
# Placement — orders are submitted once and fully resolved

Placing an order has two parts: a resolution, which only looks things up, and one
submission of what has been resolved.  The submission is not repeated by a client whose
policy repeats no failure for every call, since neither its name nor its caller says that
it may be.

* `Placement.looksUp_resolution`: everything before the submission is a look-up.
* `Placement.Resolved`: what the replies to the look-ups make of a placement.
* `Placement.watch_place`: the ways in which placing an order ends.
* `Placement.submitted_once`: at most one submission, the last thing that happens, and
  only of an order whose look-ups all succeeded.
-/

namespace CloudClient

/-! ## Quotes -/

namespace Ordering

open Procedure

def quoteCall (id : Int) : Call :=
  ⟨"Billing_Order_Quote", "getRecalculatedOrderContainer", [],
    { CallOptions.none with id := some id }⟩

/-- What comes of the search for the container of a quote: it is the first one in the reply. -/
inductive QuoteFound (id : Int) : List (Call × CallResult) → Except Failure (Fields Json) → Prop
  | failed (e : Failure) : QuoteFound id [(quoteCall id, .error e)] (.error e)
  | found {reply : Response} {members : Fields Json} {more : List Json}
      (containers : reply.value.get? "orderContainers" = some (.arr (.obj members :: more))) :
      QuoteFound id [(quoteCall id, .ok reply)] (.ok members)
  | none {reply : Response}
      (noContainer : ∀ members more,
        reply.value.get? "orderContainers" ≠ some (.arr (.obj members :: more))) :
      QuoteFound id [(quoteCall id, .ok reply)] (.error
        (.malformed "SoftLayer_Billing_Order_Quote.getRecalculatedOrderContainer"
          "quote has no order container"))

theorem first?_eq_some_iff {v first : Json} :
    first? v = some first ↔ ∃ more, v = .arr (first :: more) := by
  cases v with
  | arr items => cases items <;> simp [first?]
  | null => simp [first?]
  | bool _ => simp [first?]
  | num _ => simp [first?]
  | str _ => simp [first?]
  | obj _ => simp [first?]

theorem quoteFound_of_runs {id : Int} {made : List (Call × CallResult)}
    {result : Except Failure (Fields Json)} (h : (quoteContainer id).Runs made result) :
    QuoteFound id made result := by
  obtain ⟨e, hcall, rfl⟩ | ⟨v, first, rest, rfl, hcall, hrest⟩ := runs_bind.1 h
  · obtain ⟨reply, rfl, hreply⟩ := runs_value hcall
    cases reply with
    | error f =>
      obtain rfl : e = f := Except.error.inj hreply
      exact .failed e
    | ok reply => cases hreply
  · obtain ⟨reply, rfl, hreply⟩ := runs_value hcall
    cases reply with
    | error f => cases hreply
    | ok reply =>
      obtain rfl : v = reply.value := Except.ok.inj hreply
      split at hrest
      · rename_i members hmembers
        obtain ⟨rfl, rfl⟩ := runs_decided.1 hrest
        obtain ⟨containers, hcontainers, hfirst⟩ := Option.bind_eq_some_iff.1 hmembers
        obtain ⟨more, rfl⟩ := first?_eq_some_iff.1 hfirst
        exact .found hcontainers
      · rename_i hnone
        obtain ⟨rfl, rfl⟩ := runs_decided.1 hrest
        refine .none fun members more hcontainers => hnone members ?_
        rw [hcontainers]
        rfl

/-- The entries that are submitted for the container of a quote: one is ordered, and what is
given goes over it. -/
structure IsTemplate (container extra entries : Fields Json) : Prop where
  find? : (extra.map Prod.fst).Nodup → ∀ k, entries.find? k =
    (extra.find? k).or (if k = "quantity" then some (.nat 1) else container.find? k)
  sorted : container.Sorted → entries.Sorted

theorem isTemplate_union (container extra : Fields Json) :
    IsTemplate container extra ((container.insert "quantity" (.nat 1)).union extra) where
  find? h k := by
    rw [Fields.find?_union k h, Fields.find?_insert]
    simp only [eq_comm]
  sorted h := Fields.sorted_union (Fields.sorted_insert h)

theorem looksUp_quoteTemplate (id : Int) (extra : Fields Json) (quantity : Nat) :
    (quoteTemplate id extra quantity).LooksUp := by
  have hcontainer : (quoteContainer id).LooksUp := by
    refine (LooksUp.call (by decide)).bind fun v => ?_
    split
    · exact .pure _
    · exact .throw _
  exact hcontainer.bind fun _ => .pure _

end Ordering

/-! ## Placements -/

/-- What submits an order. -/
inductive Placement where
  | order (r : OrderRequest)
  | quote (r : OrderRequest) (name : String) (sendEmail : Bool)
  /-- A quote is submitted as an order, with further entries. -/
  | quotedOrder (id : Int) (extra : Fields Json)

namespace Placement

def place : Placement → Procedure Json
  | .order r => Ordering.placeOrder r
  | .quote r name sendEmail => Ordering.placeQuote r name sendEmail
  | .quotedOrder id extra => Ordering.orderQuote id extra

/-- The procedure that finds out what to submit. -/
def resolution : Placement → Procedure (Fields Json)
  | .order r => Ordering.container r
  | .quote r name sendEmail =>
    (fun order =>
      (order.insert "quoteName" (.str name)).insert "sendQuoteEmailFlag" (.bool sendEmail)) <$>
        Ordering.container r
  | .quotedOrder id extra => Ordering.quoteTemplate id extra 1

/-- The call that submits what has been found out. -/
def submission (p : Placement) (order : Fields Json) : Call :=
  match p with
  | .order _ => ⟨"Product_Order", "placeOrder", [.obj order], CallOptions.none⟩
  | .quote _ _ _ => ⟨"Product_Order", "placeQuote", [.obj order], CallOptions.none⟩
  | .quotedOrder id _ =>
    ⟨"Billing_Order_Quote", "placeOrder", [.obj order], { CallOptions.none with id := some id }⟩

def method : Placement → String
  | .order _ => "placeOrder"
  | .quote _ _ _ => "placeQuote"
  | .quotedOrder _ _ => "placeOrder"

def submits (p : Placement) (e : Event) : Bool := e.method? == some p.method

variable (p : Placement)

@[simp] theorem method_submission (order : Fields Json) :
    (p.submission order).method = p.method := by
  cases p <;> rfl

theorem idempotent_submission (order : Fields Json) :
    (p.submission order).options.idempotent = false := by
  cases p <;> rfl

theorem isReadShaped_method : Naming.isReadShaped p.method = false := by
  cases p
  all_goals
    dsimp only [method]
    decide

theorem method_ne_of_startsWith_get {m : String} (h : Text.startsWith m "get" = true) :
    m ≠ p.method := by
  rintro rfl
  cases p
  all_goals
    dsimp only [method] at h
    revert h
    decide

theorem place_eq :
    p.place = p.resolution >>= fun order =>
      Response.value <$> Procedure.respond (p.submission order) := by
  cases p with
  | order r => rfl
  | quote r name sendEmail =>
    rw [resolution, bind_map_left]
    rfl
  | quotedOrder id extra => rfl

/-- Everything before the submission is a look-up. -/
theorem looksUp_resolution : p.resolution.LooksUp := by
  cases p with
  | order r => exact Ordering.looksUp_container r
  | quote r name sendEmail => exact (Ordering.looksUp_container r).map _
  | quotedOrder id extra => exact Ordering.looksUp_quoteTemplate id extra 1

/-! ## What the replies make of a placement -/

section Resolved

open CloudClient.Ordering (Resolution IsContainer Found QuoteFound IsTemplate)

/-- What the replies to its look-ups make of a placement: the failure of the first stage that
fails, or the order that is submitted. -/
inductive Resolved : Placement → List (Call × CallResult) → Except Failure (Fields Json) → Prop
  | noOrder {r : OrderRequest} {made : List (Call × CallResult)} {e : Failure}
      (failure : Resolution r made (.error e)) : Resolved (.order r) made (.error e)
  | order {r : OrderRequest} {made : List (Call × CallResult)} {found : Found}
      {entries : Fields Json} (resolution : Resolution r made (.ok found))
      (container : IsContainer r found entries) :
      Resolved (.order r) made (.ok [("orderContainers", .arr [.obj entries])])
  | noQuote {r : OrderRequest} {name : String} {sendEmail : Bool}
      {made : List (Call × CallResult)} {e : Failure} (failure : Resolution r made (.error e)) :
      Resolved (.quote r name sendEmail) made (.error e)
  | quote {r : OrderRequest} {name : String} {sendEmail : Bool}
      {made : List (Call × CallResult)} {found : Found} {entries : Fields Json}
      (resolution : Resolution r made (.ok found)) (container : IsContainer r found entries) :
      Resolved (.quote r name sendEmail) made
        (.ok [("orderContainers", .arr [.obj entries]), ("quoteName", .str name),
          ("sendQuoteEmailFlag", .bool sendEmail)])
  | noTemplate {id : Int} {extra : Fields Json} {made : List (Call × CallResult)} {e : Failure}
      (failure : QuoteFound id made (.error e)) : Resolved (.quotedOrder id extra) made (.error e)
  | template {id : Int} {extra container entries : Fields Json} {made : List (Call × CallResult)}
      (found : QuoteFound id made (.ok container)) (template : IsTemplate container extra entries) :
      Resolved (.quotedOrder id extra) made (.ok entries)

theorem resolved_of_runs {made : List (Call × CallResult)} {result : Except Failure (Fields Json)}
    (h : p.resolution.Runs made result) : p.Resolved made result := by
  cases p with
  | order r =>
    obtain ⟨_, hcontainer, rfl⟩ := Procedure.runs_map.1 h
    obtain ⟨outcome, hresolution, rfl⟩ := Ordering.resolution_of_runs hcontainer
    cases outcome with
    | error e => exact .noOrder hresolution
    | ok found => exact .order hresolution (Ordering.isContainer_entries r found)
  | quote r name sendEmail =>
    obtain ⟨_, horder, rfl⟩ := Procedure.runs_map.1 h
    obtain ⟨_, hcontainer, rfl⟩ := Procedure.runs_map.1 horder
    obtain ⟨outcome, hresolution, rfl⟩ := Ordering.resolution_of_runs hcontainer
    cases outcome with
    | error e => exact .noQuote hresolution
    | ok found => exact .quote hresolution (Ordering.isContainer_entries r found)
  | quotedOrder id extra =>
    obtain ⟨outcome, hquote, rfl⟩ := Procedure.runs_map.1 h
    have hfound := Ordering.quoteFound_of_runs hquote
    cases outcome with
    | error e => exact .noTemplate hfound
    | ok container => exact .template hfound (Ordering.isTemplate_union container extra)

end Resolved

/-! ## Courses of a placement -/

section Course

variable {c : Client} (b : Conduct) (s : ClientState) (past : List Event)

/-- A placement is resolved, then the client finds its credential, then there is one
attempt at the submission.  A failure on the way is the end of it. -/
theorem watch_place (halways : c.retry.always = []) :
    watch (c.carryOut b.world p.place).run s past =
      (watch (c.carryOut b.world p.resolution).run s past).andThen fun order t past =>
        (watch (c.current b.world).run t past).andThen fun held t past =>
          let q := c.authorized (c.request (p.submission order)) held
          let outcome := b.service past q
          ⟨Response.value <$> outcome,
            { t with journal := t.journal.push (.ofAttempt c.format q outcome) },
            past ++ [.carried q outcome]⟩ := by
  rw [place_eq, Client.watch_carryOut_bind]
  congr 1
  funext order t past
  have hshape : Naming.isReadShaped (p.submission order).method = false := by
    rw [method_submission]
    exact p.isReadShaped_method
  rw [Client.watch_carryOut_value,
    Client.watch_exchange_once c b halways (p.idempotent_submission order) hshape]
  generalize watch (c.current b.world).run t past = found
  rcases found with ⟨held, t, past⟩
  cases held with
  | error e => rfl
  | ok held =>
    simp only [Course.andThen]
    cases b.service past (c.authorized (c.request (p.submission order)) held) <;> rfl

theorem submits_resolution :
    ∃ events, (watch (c.carryOut b.world p.resolution).run s past).history = past ++ events ∧
      ∀ e ∈ events, p.submits e = false := by
  have hgets := Client.adds_carryOut c b p.looksUp_resolution
  obtain ⟨events, hhistory, hevents⟩ := hgets.history s past
  refine ⟨events, hhistory, fun e he => ?_⟩
  unfold submits
  rw [beq_eq_false_iff_ne]
  intro hmethod
  exact p.method_ne_of_startsWith_get (hevents e he _ hmethod) rfl

theorem submits_current :
    ∃ events, (watch (c.current b.world).run s past).history = past ++ events ∧
      ∀ e ∈ events, p.submits e = false := by
  obtain ⟨events, hhistory, hevents⟩ := (Client.adds_current b c).history s past
  refine ⟨events, hhistory, fun e he => ?_⟩
  unfold submits
  rw [hevents e he]
  rfl

/-- What is asked for is asked for by the resolution, up to the submission. -/
theorem made_place :
    ∃ rest, c.made b p.place s past = c.made b p.resolution s past ++ rest ∧
      ∀ x ∈ rest, x.1.method = p.method := by
  rw [place_eq, Client.made_bind]
  refine ⟨_, rfl, fun x hx => ?_⟩
  -- behind the resolution there is the submission alone
  split at hx
  · obtain ⟨r, hmade, -⟩ := Procedure.runs_value (c.runs_made b (_ <$> _) _ _)
    rw [hmade] at hx
    obtain rfl := List.mem_singleton.1 hx
    exact p.method_submission _
  · exact absurd hx List.not_mem_nil

theorem mem_made_resolution {x : Call × CallResult} (hx : x ∈ c.made b p.place s past)
    (hmethod : x.1.method ≠ p.method) : x ∈ c.made b p.resolution s past := by
  obtain ⟨rest, hmade, hrest⟩ := p.made_place (c := c) b s past
  rw [hmade] at hx
  exact (List.mem_append.1 hx).resolve_right fun hx => hmethod (hrest x hx)

/-- A placement either fails before its submission, or ends with it. -/
theorem place_cases (halways : c.retry.always = []) :
    ∃ quiet, (∀ e ∈ quiet, p.submits e = false) ∧
      ((∃ f, (watch (c.carryOut b.world p.place).run s past).result = .error f ∧
          (watch (c.carryOut b.world p.place).run s past).history = past ++ quiet ∧
          ∀ g, (watch (c.carryOut b.world p.resolution).run s past).result = .error g →
            g = f) ∨
        ∃ order held outcome,
          (watch (c.carryOut b.world p.resolution).run s past).result = .ok order ∧
          (watch (c.carryOut b.world p.place).run s past).result = Response.value <$> outcome ∧
          (watch (c.carryOut b.world p.place).run s past).history =
            past ++ (quiet ++
              [.carried (c.authorized (c.request (p.submission order)) held) outcome])) := by
  rw [p.watch_place b s past halways]
  obtain ⟨first, hfirst, hquiet⟩ := p.submits_resolution (c := c) b s past
  generalize watch (c.carryOut b.world p.resolution).run s past = resolved at *
  rcases resolved with ⟨order, t, past'⟩
  cases order with
  | error f =>
    refine ⟨first, hquiet, .inl ⟨f, rfl, hfirst, ?_⟩⟩
    rintro g ⟨⟩
    rfl
  | ok order =>
    obtain ⟨rest, hrest, hrestQuiet⟩ := p.submits_current (c := c) b t past'
    have hquiet' : ∀ e ∈ first ++ rest, p.submits e = false := by
      intro e he
      exact (List.mem_append.1 he).elim (hquiet e) (hrestQuiet e)
    refine ⟨first ++ rest, hquiet', ?_⟩
    have hfirst' : past' = past ++ first := hfirst
    simp only [Course.andThen]
    generalize watch (c.current b.world).run t past' = found at *
    rcases found with ⟨held, t', past''⟩
    have hrest' : past'' = past' ++ rest := hrest
    cases held with
    | error f =>
      -- the order is known, but there is no credential to submit it with
      refine .inl ⟨f, rfl, ?_, ?_⟩
      · show past'' = _
        rw [hrest', hfirst', List.append_assoc]
      · rintro g ⟨⟩
    | ok held =>
      refine .inr ⟨order, held, _, rfl, rfl, ?_⟩
      show past'' ++ [_] = _
      simp only [hrest', hfirst', List.append_assoc]

/-- Whatever the outside does, an order is submitted at most once, and its submission is
the last thing that happens.  It is submitted only as the resolution gives it, after every
call before it has succeeded, and the outcome of that one attempt is the outcome of the
placement; without it there is no result.  A call or a resolution that fails gives its
failure to the placement, and nothing is submitted.  What the resolution gives is what the
replies to its calls, all those before the submission, make of the placement. -/
theorem submitted_once (halways : c.retry.always = []) :
    ∃ events,
      (watch (c.carryOut b.world p.place).run s past).history = past ++ events ∧
      events.countP p.submits ≤ 1 ∧
      (∀ e ∈ events.dropLast, p.submits e = false) ∧
      (∀ e ∈ events, p.submits e = true →
        (∀ x ∈ c.made b p.place s past, x.1.method ≠ p.method → ∃ r, x.2 = .ok r) ∧
        ∃ order held outcome,
          (watch (c.carryOut b.world p.resolution).run s past).result = .ok order ∧
          e = .carried (c.authorized (c.request (p.submission order)) held) outcome ∧
          (watch (c.carryOut b.world p.place).run s past).result =
            Response.value <$> outcome) ∧
      (∀ v, (watch (c.carryOut b.world p.place).run s past).result = .ok v →
        ∃ e ∈ events, p.submits e = true) ∧
      (∀ x ∈ c.made b p.place s past, x.1.method ≠ p.method → ∀ f, x.2 = .error f →
        (watch (c.carryOut b.world p.place).run s past).result = .error f ∧
        ∀ e ∈ events, p.submits e = false) ∧
      (∀ f, (watch (c.carryOut b.world p.resolution).run s past).result = .error f →
        (watch (c.carryOut b.world p.place).run s past).result = .error f ∧
        ∀ e ∈ events, p.submits e = false) ∧
      (∃ rest, c.made b p.place s past = c.made b p.resolution s past ++ rest ∧
        ∀ x ∈ rest, x.1.method = p.method) ∧
      p.Resolved (c.made b p.resolution s past)
        (watch (c.carryOut b.world p.resolution).run s past).result := by
  have hruns := c.runs_made b p.resolution s past
  have hresolves := p.resolved_of_runs hruns
  obtain ⟨quiet, hquiet, hcases⟩ := p.place_cases b s past halways
  rcases hcases with ⟨f, hresult, hhistory, hfails⟩ |
    ⟨order, held, outcome, hresolved, hresult, hhistory⟩
  · -- what fails before the submission leaves no submission
    refine ⟨quiet, hhistory, ?_, ?_, ?_, ?_, ?_, ?_, p.made_place b s past, hresolves⟩
    · rw [List.countP_eq_zero.2 fun e he => by simp [hquiet e he]]
      omega
    · exact fun e he => hquiet e (List.dropLast_subset _ he)
    · intro e he hsubmits
      rw [hquiet e he] at hsubmits
      cases hsubmits
    · intro v hv
      rw [hresult] at hv
      cases hv
    · intro x hx hmethod g hg
      have hresolved := p.looksUp_resolution.eq_error_of_mem hruns
        (p.mem_made_resolution b s past hx hmethod) hg
      rw [hfails g hresolved]
      exact ⟨hresult, hquiet⟩
    · intro g hg
      rw [hfails g hg]
      exact ⟨hresult, hquiet⟩
  · -- the submission stands behind events that are none
    rw [hresolved] at hruns
    refine ⟨_, hhistory, ?_, ?_, ?_, ?_, ?_, ?_, p.made_place b s past, hresolves⟩
    · rw [List.countP_append, List.countP_eq_zero.2 fun e he => by simp [hquiet e he]]
      have h := List.countP_le_length (p := p.submits)
        (l := [.carried (c.authorized (c.request (p.submission order)) held) outcome])
      simpa using h
    · rw [List.dropLast_concat]
      exact hquiet
    · intro e he hsubmits
      refine ⟨fun x hx hmethod => p.looksUp_resolution.exists_ok_of_mem hruns
        (p.mem_made_resolution b s past hx hmethod), ?_⟩
      rcases List.mem_append.1 he with he | he
      · rw [hquiet e he] at hsubmits
        cases hsubmits
      · exact ⟨order, held, outcome, hresolved, List.mem_singleton.1 he, hresult⟩
    · intro v hv
      refine ⟨_, List.mem_append_right quiet (List.mem_singleton_self _), ?_⟩
      have hmethod := (c.says_authorized (p.submission order) held).method
      simp [submits, Event.method?, hmethod]
    · -- a resolution that gives an order has had a reply to every call
      intro x hx hmethod f hf
      obtain ⟨r, hr⟩ := p.looksUp_resolution.exists_ok_of_mem hruns
        (p.mem_made_resolution b s past hx hmethod)
      rw [hr] at hf
      cases hf
    · intro f hf
      rw [hresolved] at hf
      cases hf

end Course

/-- A service that has one container for every quote and leaves orders without a reply. -/
def stalled : Conduct where
  service _ r :=
    if r.method = "placeOrder" then .error (.transport r.method .timeout "no reply")
    else .ok ⟨.obj [("orderContainers", .arr [.obj []])], 200, none⟩
  network _ _ := .error (.connect, "no connection")
  clock _ := ⟨0⟩

/-- A client that tries look-ups again after a timeout. -/
def patient : Client :=
  ⟨WireFormat.rest.endpoint, .rest, 1000, none, true, "test", .standard, 60, .standard⟩

theorem submitted_once_stalled :
    patient.retry.always = [] ∧
      (watch (patient.carryOut stalled.world (quotedOrder 7 []).place).run
        ⟨none, [], .empty 10⟩ []).history.countP (quotedOrder 7 []).submits = 1 := by
  refine ⟨rfl, le_antisymm ?_ (by decide +kernel)⟩
  obtain ⟨events, hhistory, hcount, -⟩ :=
    (quotedOrder 7 []).submitted_once (c := patient) stalled ⟨none, [], .empty 10⟩ [] rfl
  rw [hhistory]
  exact hcount

end Placement

end CloudClient
