import CloudClient.Proofs.Custody
import CloudClient.Proofs.Pages
import Mathlib.Data.List.DropRight
import Mathlib.Data.List.Forall2

/-!
# Journal — a record of every attempt

A client records attempts, not calls: a call that is sent again leaves a record each time,
with the outcome of that time.  Whatever the client is used for, its journal holds the last
records since it was cleared.

* `Journal.push_last`: a full journal gives its oldest record up.
* `Notes`: acts that write down what they carry, and nothing else; every act of a client is
  one (`notes_exchange`, `notes_carryOut`, `notes_perform`).
* `Client.last_attempts`: what the journal holds after any run.
-/

namespace CloudClient

/-! ## Records -/

/-- The status and the code that an outcome comes with: a reply has its status, a fault has its
code and at times a status, a breakdown has a status only if a reply was refused for it, and no
other failure has either. -/
inductive OutcomeCodes : CallResult → Option Nat → Option String → Prop
  | reply (response : Response) : OutcomeCodes (.ok response) (some response.status) none
  | fault (operation code text : String) (status : Option Nat) :
    OutcomeCodes (.error (.fault operation code text status)) status (some code)
  | refused (operation detail : String) (status : Nat) :
    OutcomeCodes (.error (.transport operation (.status status) detail)) (some status) none
  | unanswered (operation detail : String) (breakdown : Breakdown)
    (h : breakdown ∈ [.connect, .timeout, .tls, .io]) :
    OutcomeCodes (.error (.transport operation breakdown detail)) none none
  | malformed (operation detail : String) :
    OutcomeCodes (.error (.malformed operation detail)) none none
  | ordering (operation keyname detail : String) :
    OutcomeCodes (.error (.ordering operation keyname detail)) none none
  | unresolved (operation identifier : String) (candidates : List Int) (detail : String) :
    OutcomeCodes (.error (.unresolved operation identifier candidates detail)) none none
  | argument (detail : String) : OutcomeCodes (.error (.argument detail)) none none
  | settings (detail : String) : OutcomeCodes (.error (.settings detail)) none none
  | crash (detail : String) : OutcomeCodes (.error (.crash detail)) none none

structure CallRecord.Tells (format : WireFormat) (r : Request) (outcome : CallResult)
    (record : CallRecord) : Prop where
  service : record.service = r.service
  method : record.method = r.method
  args : record.argsDigest =
    .ofList ((Sha256.hexDigest (Utf8.encode (Json.arr r.args).compact.toList)).take 16)
  format : record.format = format
  codes : OutcomeCodes outcome record.status record.faultCode

theorem outcomeCodes_error (e : Failure) : OutcomeCodes (.error e) e.status? e.faultCode? := by
  cases e with
  | transport operation breakdown detail =>
    cases breakdown with
    | status code => exact .refused operation detail code
    | connect => exact .unanswered operation detail .connect (by decide)
    | timeout => exact .unanswered operation detail .timeout (by decide)
    | tls => exact .unanswered operation detail .tls (by decide)
    | io => exact .unanswered operation detail .io (by decide)
  | fault operation code text status => exact .fault operation code text status
  | malformed operation detail => exact .malformed operation detail
  | ordering operation keyname detail => exact .ordering operation keyname detail
  | unresolved operation identifier candidates detail =>
    exact .unresolved operation identifier candidates detail
  | argument detail => exact .argument detail
  | settings detail => exact .settings detail
  | crash detail => exact .crash detail

theorem CallRecord.tells_ofAttempt (format : WireFormat) (r : Request) (outcome : CallResult) :
    (CallRecord.ofAttempt format r outcome).Tells format r outcome where
  service := rfl
  method := rfl
  args := rfl
  format := rfl
  codes := by
    cases outcome with
    | ok response => exact .reply response
    | error e => exact outcomeCodes_error e

def Event.attempt? : Event → Option (Request × CallResult)
  | .carried r outcome => some (r, outcome)
  | _ => none

def attemptsOf (events : List Event) : List (Request × CallResult) :=
  events.filterMap Event.attempt?

theorem attemptsOf_append (first second : List Event) :
    attemptsOf (first ++ second) = attemptsOf first ++ attemptsOf second :=
  List.filterMap_append

theorem attemptsOf_eq_nil {events : List Event} (h : ∀ e ∈ events, e.method? = none) :
    attemptsOf events = [] := by
  refine List.filterMap_eq_nil_iff.2 fun e he => ?_
  cases e with
  | carried r outcome => cases h _ he
  | traded w outcome => rfl
  | looked now => rfl

/-! ## A bounded journal -/

namespace Journal

/-- The journal of the last of some records. -/
def last (capacity : Nat) (records : List CallRecord) : Journal :=
  ⟨capacity, records.rtake capacity⟩

theorem rtake_rtake_concat {α : Type} (n : Nat) (earlier : List α) (x : α) :
    (earlier.rtake n ++ [x]).rtake n = (earlier ++ [x]).rtake n := by
  cases n with
  | zero => rw [List.rtake_zero, List.rtake_zero]
  | succ n =>
    rw [List.rtake_concat_succ, List.rtake_concat_succ]
    simp [List.rtake_eq_reverse_take_reverse, List.take_take]

/-- Of all records the last ones are kept: a full journal gives its oldest one up. -/
theorem push_last (capacity : Nat) (records : List CallRecord) (r : CallRecord) :
    (last capacity records).push r = last capacity (records ++ [r]) :=
  congrArg (Journal.mk capacity) (rtake_rtake_concat capacity records r)

theorem clear_last (capacity : Nat) (records : List CallRecord) :
    (last capacity records).clear = .empty capacity := rfl

theorem empty_eq_last (capacity : Nat) : Journal.empty capacity = last capacity [] := by
  rw [last, List.rtake_nil, empty]

end Journal

/-! ## Acts that write down what they carry -/

def recordsOf (format : WireFormat) (events : List Event) : List CallRecord :=
  (attemptsOf events).map fun a => .ofAttempt format a.1 a.2

/-- The journal grows by a record for every attempt that an act makes, and by nothing else. -/
def Notes (format : WireFormat) {α : Type} (act : StateT ClientState Watched α) : Prop :=
  ∀ capacity records (s : ClientState) past, s.journal = .last capacity records →
    ∃ events, (watch act s past).history = past ++ events ∧
      (watch act s past).state.journal = .last capacity (records ++ recordsOf format events)

namespace Notes

variable {format : WireFormat} {α β : Type}

/-- An act that carries nothing and leaves the journal alone. -/
theorem still {act : StateT ClientState Watched α}
    (h : ∀ s past, (watch act s past).history = past ∧
      (watch act s past).state.journal = s.journal) : Notes format act := by
  intro capacity records s past hs
  obtain ⟨hhistory, hjournal⟩ := h s past
  refine ⟨[], hhistory.trans (List.append_nil past).symm, ?_⟩
  rw [hjournal, hs, recordsOf, attemptsOf, List.filterMap_nil, List.map_nil, List.append_nil]

theorem pure (a : α) : Notes format (Pure.pure a) :=
  still fun _ _ => ⟨rfl, rfl⟩

theorem bind {x : StateT ClientState Watched α} {f : α → StateT ClientState Watched β}
    (hx : Notes format x) (hf : ∀ a, Notes format (f a)) : Notes format (x >>= f) := by
  intro capacity records s past hs
  obtain ⟨first, hfirst, hjournal⟩ := hx capacity records s past hs
  obtain ⟨rest, hrest, hlater⟩ := hf (watch x s past).result capacity _ _ _ hjournal
  refine ⟨first ++ rest, ?_, ?_⟩
  · rw [watch_bind, hrest, hfirst, List.append_assoc]
  · rw [watch_bind, hlater, List.append_assoc, recordsOf, recordsOf, recordsOf,
      attemptsOf_append, List.map_append]

theorem run_bind {x : ClientM Watched α} {f : α → ClientM Watched β} (hx : Notes format x.run)
    (hf : ∀ a, Notes format (f a).run) : Notes format (x >>= f).run := by
  change Notes format (x.run >>= ExceptT.bindCont f)
  refine hx.bind fun outcome => ?_
  -- behind a failure there is nothing left to do
  cases outcome with
  | ok a => exact hf a
  | error e => exact .pure _

theorem run_map {x : ClientM Watched α} (hx : Notes format x.run) (f : α → β) :
    Notes format (f <$> x).run := by
  rw [map_eq_pure_bind]
  exact hx.run_bind fun a => .pure _

/-- What carries no call leaves no record. -/
theorem lift {act : Watched α} (h : Leaves (fun e => e.method? = none) act) :
    Notes format (StateT.lift act) := by
  intro capacity records s past hs
  obtain ⟨events, hevents, hnone⟩ := h past
  refine ⟨events, hevents, ?_⟩
  rw [recordsOf, attemptsOf_eq_nil hnone, List.map_nil, List.append_nil]
  exact hs

theorem change {f : ClientState → ClientState} (h : ∀ s, (f s).journal = s.journal) :
    Notes format (Client.change f : ClientM Watched Unit).run :=
  still fun s _ => ⟨rfl, h s⟩

end Notes

/-! ## What a client does -/

section Acts

variable (c : Client) (b : Conduct)

theorem notes_attempt (r : Request) : Notes c.format (c.attempt b.world r) := by
  intro capacity records s past hs
  refine ⟨[.carried r (b.service past r)], rfl, ?_⟩
  change s.journal.push _ = _
  rw [hs, Journal.push_last]
  rfl

/-- Every attempt of a run is recorded, as each is made by itself. -/
theorem notes_run {format : WireFormat} {attempt : StateT ClientState Watched CallResult}
    (h : Notes format attempt) (p : RetryPolicy) (idempotent : Bool) (retries : Nat) :
    Notes format (p.run idempotent attempt retries) := by
  induction retries with
  | zero => exact h
  | succ n ih =>
    rw [RetryPolicy.run]
    refine h.bind fun outcome => ?_
    cases outcome with
    | ok r => exact .pure _
    | error e =>
      dsimp only
      split
      · exact ih
      · exact .pure _

theorem notes_send (r : Request) : Notes c.format (c.send b.world r).run :=
  notes_run (notes_attempt c b r) c.retry _ _

theorem notes_credential {format : WireFormat} :
    Notes format (Client.credential : ClientM Watched (Option Credential)).run :=
  .still fun _ _ => ⟨rfl, rfl⟩

theorem notes_attemptOutside {α : Type} {format : WireFormat} {act : Watched (Except Failure α)}
    (h : Leaves (fun e => e.method? = none) act) :
    Notes format (Client.attemptOutside act).run :=
  .lift h

theorem notes_install {format : WireFormat} (t : IamToken) :
    Notes format (Client.install t : ClientM Watched Unit).run :=
  (Notes.change fun _ => rfl).run_bind fun _ => .change fun _ => rfl

theorem leaves_refreshToken (refresh : Secret) (account imsAccount : Option String) :
    Leaves (fun e => e.method? = none)
      (Iam.refreshToken b.world.network b.world.clock c.iam refresh account imsAccount) :=
  (Client.leaves_requestToken b _ _).bind fun _ => .pure _

theorem notes_current : Notes c.format (c.current b.world).run := by
  have hclock : Notes c.format (Client.outside b.world.clock).run :=
    (Notes.lift (Client.leaves_clock b)).bind fun _ => .pure _
  -- a credential that is still good is used; else it is looked at once more, and traded
  refine notes_credential.run_bind fun held => hclock.run_bind fun now => ?_
  split
  · exact .pure _
  · refine notes_credential.run_bind fun held => hclock.run_bind fun now => ?_
    split
    · exact .pure _
    · exact (notes_attemptOutside (leaves_refreshToken c b _ _ _)).run_bind fun fresh =>
        (notes_install fresh).run_bind fun _ => notes_credential

theorem notes_exchange (call : Call) : Notes c.format (c.exchange b.world call).run :=
  (notes_current c b).run_bind fun _ => notes_send c b _

theorem notes_carryOut {α : Type} (p : Procedure α) :
    Notes c.format (c.carryOut b.world p).run := by
  change Notes c.format (Plan.run (c.exchangeResult b.world) (ExceptT.run p))
  generalize ExceptT.run p = plan
  -- a procedure goes on after every call, whatever came of it
  induction plan with
  | done r => exact .pure r
  | ask call next ih => exact (notes_exchange c b call).bind ih

theorem notes_setCredential {format : WireFormat} (credential : Option Credential) :
    Notes format (Client.setCredential credential : ClientM Watched Unit).run :=
  .change fun _ => rfl

theorem notes_iamToken {format : WireFormat} :
    Notes format (Client.iamToken : ClientM Watched IamToken).run := by
  refine notes_credential.run_bind fun held => ?_
  split <;> exact .pure _

theorem notes_callValue (service method : String) (args : List Json) (id : Option Int) :
    Notes c.format (c.callValue b.world service method args id).run :=
  (notes_exchange c b _).run_map _

/-- Whatever the owner asks for, the calls that it takes are recorded. -/
theorem notes_perform (o : Errand) : Notes c.format (c.perform b.world o).run := by
  cases o with
  | call call => exact (notes_exchange c b call).run_bind fun _ => .pure _
  | refresh => exact (notes_current c b).run_bind fun _ => .pure _
  | portalLogin username password question answer =>
    refine Notes.run_bind ?_ fun _ => .pure _
    refine (notes_callValue c b _ _ _ _).run_bind fun reply => ?_
    exact Notes.run_bind (.pure _) fun _ => (notes_setCredential _).run_bind fun _ => .pure _
  | sessionRenewal userId token =>
    refine Notes.run_bind ?_ fun _ => .pure _
    refine (notes_callValue c b _ _ _ _).run_bind fun reply => ?_
    split
    · exact .pure _
    · exact (notes_setCredential _).run_bind fun _ => .pure _
  | adoption credential => exact (notes_setCredential _).run_bind fun _ => .pure _
  | iamLogin form =>
    refine Notes.run_bind ?_ fun _ => .pure _
    exact (notes_attemptOutside (Client.leaves_requestToken b _ _)).run_bind fun t =>
      (notes_install t).run_bind fun _ => .pure _
  | iamAccounts =>
    refine Notes.run_bind ?_ fun _ => .pure _
    refine notes_iamToken.run_bind fun t => notes_attemptOutside ?_
    refine (Client.leaves_httpSend b _ _).bind fun reply => ?_
    split <;> exact .pure _
  | accountSelection account imsAccount =>
    refine Notes.run_bind ?_ fun _ => .pure _
    refine notes_iamToken.run_bind fun t => ?_
    split
    · exact .pure _
    · exact (notes_attemptOutside (leaves_refreshToken c b _ _ _)).run_bind fun fresh =>
        (notes_install fresh).run_bind fun _ => .pure _

end Acts

/-! ## Runs -/

/-- What a client is used for. -/
inductive Deed where
  | errand (o : Errand)
  | procedure (p : Procedure Unit)
  /-- Up to a number of items of a listing, page by page. -/
  | listing (call : Call) (count : Nat)
  | clearing

def Deed.isClearing : Deed → Bool
  | .clearing => true
  | _ => false

namespace Client

variable {m : Type → Type} [Monad m]

/-- Does what a client is used for, whether it fails or not. -/
def act (c : Client) (world : Surroundings m) : Deed → StateT ClientState m Unit
  | .errand o => do
    let _ ← (c.perform world o).run
    return ()
  | .procedure p => do
    let _ ← (c.carryOut world p).run
    return ()
  | .listing call count => do
    let _ ← (c.items world call count).run
    return ()
  | .clearing => modify fun s => { s with journal := s.journal.clear }

def actAll (c : Client) (world : Surroundings m) : List Deed → StateT ClientState m Unit
  | [] => return ()
  | d :: rest => do
    c.act world d
    actAll c world rest

end Client

/-- A deed of a run, with everything that had happened before it and what it came to. -/
structure Stint where
  deed : Deed
  past : List Event
  /-- What it came to. -/
  course : Course Unit

namespace Stint

def events (t : Stint) : List Event := t.course.history.drop t.past.length

def attempts (t : Stint) : List (Request × CallResult) := attemptsOf t.events

end Stint

def Client.stints (c : Client) (b : Conduct) :
    List Deed → ClientState → List Event → List Stint
  | [], _, _ => []
  | d :: rest, s, past =>
    let course := watch (c.act b.world d) s past
    ⟨d, past, course⟩ :: stints c b rest course.state course.history

/-- The stints after the journal was cleared last. -/
def sinceClearing (stints : List Stint) : List Stint :=
  stints.rtakeWhile fun t => !t.deed.isClearing

section Run

variable (c : Client) (b : Conduct)

theorem notes_act {d : Deed} (h : d.isClearing = false) : Notes c.format (c.act b.world d) := by
  cases d with
  | errand o => exact (notes_perform c b o).bind fun _ => .pure _
  | procedure p => exact (notes_carryOut c b p).bind fun _ => .pure _
  | listing call count =>
    refine Notes.bind ?_ fun _ => .pure _
    rw [← Client.carryOut_items]
    exact notes_carryOut c b _
  | clearing => cases h

theorem watch_actAll_append (deeds : List Deed) (d : Deed) (s : ClientState)
    (past : List Event) :
    watch (c.actAll b.world (deeds ++ [d])) s past =
      let earlier := watch (c.actAll b.world deeds) s past
      watch (c.act b.world d) earlier.state earlier.history := by
  induction deeds generalizing s past with
  | nil => rfl
  | cons first rest ih => exact ih _ _

theorem stints_append (deeds : List Deed) (d : Deed) (s : ClientState) (past : List Event) :
    let earlier := watch (c.actAll b.world deeds) s past
    c.stints b (deeds ++ [d]) s past =
      c.stints b deeds s past ++
        [⟨d, earlier.history, watch (c.act b.world d) earlier.state earlier.history⟩] := by
  induction deeds generalizing s past with
  | nil => rfl
  | cons first rest ih => exact congrArg (_ :: ·) (ih _ _)

/-- After any run the journal holds the last records since it was cleared. -/
theorem journal_actAll (deeds : List Deed) (credential : Option Credential) (capacity : Nat)
    (past : List Event) :
    let run := watch (c.actAll b.world deeds) (.start credential capacity) past
    let stints := c.stints b deeds (.start credential capacity) past
    run.history = past ++ stints.flatMap Stint.events ∧
      run.state.journal = .last capacity
        (((sinceClearing stints).flatMap Stint.attempts).map fun a =>
          .ofAttempt c.format a.1 a.2) := by
  -- the last deed finds the journal as the ones before have left it
  induction deeds using List.reverseRecOn with
  | nil => exact ⟨(List.append_nil past).symm, Journal.empty_eq_last capacity⟩
  | append_singleton deeds d ih =>
    obtain ⟨hhistory, hjournal⟩ := ih
    dsimp only
    rw [watch_actAll_append, stints_append]
    dsimp only
    rw [sinceClearing, List.rtakeWhile_concat, ← sinceClearing, List.flatMap_append,
      ← List.append_assoc, ← hhistory]
    generalize watch (c.actAll b.world deeds) (.start credential capacity) past = earlier at *
    cases hd : d.isClearing with
    | true =>
      -- the journal begins anew
      obtain rfl : d = .clearing := by
        cases d with
        | clearing => rfl
        | _ => cases hd
      have hcourse : watch (c.act b.world .clearing) earlier.state earlier.history =
          ⟨(), { earlier.state with journal := earlier.state.journal.clear },
            earlier.history⟩ := rfl
      rw [hcourse]
      refine ⟨by simp [Stint.events], ?_⟩
      change earlier.state.journal.clear = _
      rw [hjournal, Journal.clear_last, Journal.empty_eq_last]
      rfl
    | false =>
      obtain ⟨events, hevents, hlater⟩ :=
        notes_act c b hd capacity _ earlier.state earlier.history hjournal
      rw [hevents, hlater, recordsOf]
      simp [Stint.events, Stint.attempts, hevents]

end Run

/-- Whatever a client is used for, its journal holds the last attempts since it was cleared
last, as many as it has room for, oldest first and one record for each; and all attempts are
those made in the stints of the run. -/
theorem Client.last_attempts (c : Client) (b : Conduct) (deeds : List Deed)
    (credential : Option Credential) (capacity : Nat) (past : List Event) :
    let run := watch (c.actAll b.world deeds) (.start credential capacity) past
    let stints := c.stints b deeds (.start credential capacity) past
    let attempts := (sinceClearing stints).flatMap Stint.attempts
    run.history = past ++ stints.flatMap Stint.events ∧
      run.state.journal.records.length = min capacity attempts.length ∧
      List.Forall₂ (fun a record => CallRecord.Tells c.format a.1 a.2 record)
        (attempts.rtake capacity) run.state.journal.records := by
  intro run stints attempts
  obtain ⟨hhistory, hjournal⟩ := journal_actAll c b deeds credential capacity past
  have hrecords : run.state.journal.records =
      (attempts.rtake capacity).map fun a => .ofAttempt c.format a.1 a.2 := by
    rw [hjournal]
    simp only [Journal.last, List.rtake, List.length_map, List.map_drop, attempts, stints]
  refine ⟨hhistory, ?_, ?_⟩
  · rw [hrecords, List.length_map, List.rtake, List.length_drop]
    omega
  · rw [hrecords, List.forall₂_map_right_iff, List.forall₂_same]
    exact fun a _ => CallRecord.tells_ofAttempt c.format a.1 a.2

end CloudClient
