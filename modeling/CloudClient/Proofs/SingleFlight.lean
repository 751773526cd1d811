import CloudClient.Proofs.Sharing

/-!
# Single flight — one exchange for many callers

Callers that find a token about to end have it replaced once between them.  The one that
holds the lock trades the token in, hands the new token to the owner of the client and
installs it; whoever waits for the lock meanwhile finds the new token when it looks again.
Where the exchange fails, its caller alone fails, and the next one in the lock tries anew.

* `Phase` tells how far the callers have come, and `Shared.Flight` what that means for the
  credential, the exchanges and every caller.
* `Shared.flight_run`: callers never leave these phases.
* `Shared.next_in_lock`: after failures, the next caller in the lock makes the next exchange.
* `Shared.single_flight` puts it together.
-/

namespace CloudClient

/-- A token that is about to end at some moment is so at every later one. -/
theorem IamToken.needsRefresh_of_le {t : IamToken} {first now : Moment} {skew : Int}
    (h : t.needsRefresh first skew = true) (hle : first.nanos ≤ now.nanos) :
    t.needsRefresh now skew = true := by
  unfold needsRefresh at h ⊢
  cases hend : t.expiresAt with
  | none => rw [hend] at h; exact h
  | some e =>
    rw [hend] at h
    have hbefore : e.nanos ≤ first.nanos + skew * Moment.perSecond := of_decide_eq_true h
    exact decide_eq_true (Int.le_trans hbefore (Int.add_le_add_right hle _))

/-- Whether a move is that of a caller, at a moment not before another. -/
def Move.IsSince (first : Moment) : Move → Prop
  | .caller _ now _ => first.nanos ≤ now.nanos
  | .setCredential _ => False

/-- Whether a token lasts through all moments of a sequence of moves. -/
def IamToken.LastsThrough (c : Client) (moves : List Move) (fresh : IamToken) : Prop :=
  ∀ i now reply, .caller i now reply ∈ moves → fresh.needsRefresh now c.skew = false

/-- Whether a caller at this stage has a new token that is not installed. -/
def Stage.isCarrying : Stage → Bool
  | .handing _ | .installing _ => true
  | _ => false

def Exchange.IsFailure (x : Exchange) : Prop := ∃ e, x.result = .error e

/-! ## Phases -/

/-- How far callers have come with the replacement of a token. -/
inductive Phase where
  /-- Nobody has a new token. -/
  | stale
  /-- A caller has a new token that nobody knows of. -/
  | gained (owner : Nat) (fresh : IamToken)
  /-- A caller has handed its new token to the owner of the client. -/
  | handed (owner : Nat) (fresh : IamToken)
  | settled (owner : Nat) (fresh : IamToken)

namespace Phase

def success (t : IamToken) : Phase → List Exchange
  | .stale => []
  | .gained i fresh | .handed i fresh | .settled i fresh => [⟨i, t, .ok fresh⟩]

def given : Phase → List IamToken
  | .stale | .gained _ _ => []
  | .handed _ fresh | .settled _ fresh => [fresh]

def installed (t : IamToken) : Phase → IamToken
  | .settled _ fresh => fresh
  | _ => t

/-- The caller that is about to install a new token, and its stage. -/
def carrier? : Phase → Option (Nat × Stage)
  | .gained i fresh => some (i, .handing fresh)
  | .handed i fresh => some (i, .installing fresh)
  | _ => none

def isSettled : Phase → Bool
  | .settled _ _ => true
  | _ => false

/-- The stages at which callers stand in a phase. -/
inductive Allows (t : IamToken) (refresh : Secret) : Phase → Stage → Prop
  | start {p} : Allows t refresh p .start
  | waiting {p} : Allows t refresh p .waiting
  | locked {p} : Allows t refresh p .locked
  | trading : Allows t refresh .stale (.trading t refresh)
  | handing {i fresh} : Allows t refresh (.gained i fresh) (.handing fresh)
  | installing {i fresh} : Allows t refresh (.handed i fresh) (.installing fresh)
  | looking {i fresh} : Allows t refresh (.settled i fresh) .looking
  | replaced {i fresh} :
      Allows t refresh (.settled i fresh) (.releasing (.ok (some (.iam fresh))))
  | failed {p e} : Allows t refresh p (.releasing (.error e))
  | doneReplaced {i fresh} :
      Allows t refresh (.settled i fresh) (.done (.ok (some (.iam fresh))))
  | doneFailed {p e} : Allows t refresh p (.done (.error e))

variable {t : IamToken} {refresh : Secret} {p p' : Phase} {stage : Stage}

/-- Where the new token is not installed yet, callers without the lock may be where they
are in any phase. -/
theorem Allows.of_free (h : p.Allows t refresh stage) (hp : p.isSettled = false)
    (hfree : stage.holdsLock = false) : p'.Allows t refresh stage := by
  cases h with
  | start => exact .start
  | waiting => exact .waiting
  | doneFailed => exact .doneFailed
  | doneReplaced => cases hp
  | _ => cases hfree

/-- A caller that has gone through the lock has failed or has the new token. -/
theorem Allows.done_eq {result : Except Failure (Option Credential)}
    (h : p.Allows t refresh (.done result)) :
    (∃ i fresh, p = .settled i fresh ∧ result = .ok (some (.iam fresh))) ∨
      ∃ e, result = .error e := by
  cases h with
  | doneReplaced => exact .inl ⟨_, _, rfl, rfl⟩
  | doneFailed => exact .inr ⟨_, rfl⟩

end Phase

namespace Shared

variable {c : Client} {t : IamToken} {refresh : Secret} {s s' : Shared} {m : Move} {p : Phase}

/-- What is the case in a phase of the replacement of `t`. -/
structure Flight (t : IamToken) (refresh : Secret) (p : Phase) (s : Shared) : Prop where
  exchanges : ∃ failed, s.exchanges = p.success t ++ failed ∧
    ∀ x ∈ failed, x.token = t ∧ x.IsFailure
  credential : s.credential = some (.iam (p.installed t))
  handed : s.handed = p.given
  carrier : ∀ (i : Nat) stage, p.carrier? = some (i, stage) → s.callers[i]? = some stage
  stages : ∀ (i : Nat) stage, s.callers[i]? = some stage → p.Allows t refresh stage

namespace Flight

/-- While a caller carries a new token, no other holds the lock. -/
theorem carrier_eq (hf : s.Flight t refresh p) (hs : s.Exclusive) {i j : Nat}
    {carried stage : Stage} (hp : p.carrier? = some (i, carried)) (hj : s.callers[j]? = some stage)
    (hstage : stage.holdsLock = true) : j = i ∧ stage = carried := by
  have hi := hf.carrier i carried hp
  have hcarried : carried.holdsLock = true := by
    cases p <;> cases hp <;> rfl
  obtain rfl := hs.eq hi hcarried hj hstage
  exact ⟨rfl, Option.some.inj (hj.symm.trans hi)⟩

/-- A caller goes on within a phase. -/
theorem place (hf : s.Flight t refresh p) {i : Nat} {old : Stage}
    (here : s.callers[i]? = some old) (new : Stage)
    (hcarrier : ∀ carried, p.carrier? = some (i, carried) → False)
    (hnew : p.Allows t refresh new) : (s.place i new).Flight t refresh p where
  exchanges := hf.exchanges
  credential := hf.credential
  handed := hf.handed
  carrier j stage hp := by
    have hji : j ≠ i := by
      rintro rfl
      exact hcarrier stage hp
    exact (caller_place here).2 (.inr ⟨hji, hf.carrier j stage hp⟩)
  stages j stage hj := by
    rcases (caller_place here).1 hj with ⟨rfl, rfl⟩ | ⟨-, hj⟩
    · exact hnew
    · exact hf.stages j stage hj

/-- A caller with the lock takes all of them to another phase. -/
theorem enter (hf : s.Flight t refresh p) (hs : s.Exclusive) (hp : p.isSettled = false) {i : Nat}
    {old : Stage} (here : s.callers[i]? = some old) (hold : old.holdsLock = true) (p' : Phase)
    (new : Stage) (hnew : p'.Allows t refresh new) :
    ∀ (j : Nat) stage, (s.place i new).callers[j]? = some stage → p'.Allows t refresh stage := by
  intro j stage hj
  rcases (caller_place here).1 hj with ⟨-, rfl⟩ | ⟨hne, hj⟩
  · exact hnew
  · refine (hf.stages j stage hj).of_free hp ?_
    cases hholds : stage.holdsLock with
    | false => rfl
    | true => exact absurd (hs.eq hj hholds here hold) hne

end Flight

/-! ## One move -/

section Step

variable {first : Moment} {moves : List Move}
  (hrefresh : t.refresh = some refresh) (hstale : t.needsRefresh first c.skew = true)

/-- Looking without the lock shows the old token until the new one is installed. -/
theorem Flight.allows_look (hf : s.Flight t refresh p) {now : Moment}
    (hnow : t.needsRefresh now c.skew = true)
    (hlasts : ∀ i fresh, p = .settled i fresh → fresh.needsRefresh now c.skew = false) :
    p.Allows t refresh (look c now s.credential) := by
  rw [hf.credential, look]
  cases p with
  | settled i fresh =>
    simp only [Phase.installed, Client.isExpiring, hlasts i fresh rfl]
    exact .doneReplaced
  | _ =>
    simp only [Phase.installed, Client.isExpiring, hnow, if_true]
    exact .waiting

include hrefresh in
/-- Looking with the lock leads to an exchange until the new token is installed. -/
theorem Flight.allows_lookAgain (hf : s.Flight t refresh p) (hs : s.Exclusive) {i : Nat}
    (here : s.callers[i]? = some .locked) {now : Moment} (hnow : t.needsRefresh now c.skew = true)
    (hlasts : ∀ i fresh, p = .settled i fresh → fresh.needsRefresh now c.skew = false) :
    p.Allows t refresh (lookAgain c now s.credential) := by
  rw [hf.credential, lookAgain]
  cases p with
  | stale =>
    simp only [Phase.installed, Client.renewable?, hnow, if_true, hrefresh, Option.map_some]
    exact .trading
  | settled j fresh =>
    simp only [Phase.installed, Client.renewable?, hlasts j fresh rfl]
    exact .replaced
  -- where a new token is on its way, the lock is with the caller that carries it
  | gained j fresh => cases (hf.carrier_eq hs rfl here rfl).2
  | handed j fresh => cases (hf.carrier_eq hs rfl here rfl).2

include hrefresh hstale in
/-- A move of a caller keeps to the phases. -/
theorem flight_step (hs : s.Exclusive) (hf : s.Flight t refresh p) (hm : m.IsSince first)
    (hmem : m ∈ moves)
    (hlasts : ∀ i fresh, p = .settled i fresh → fresh.LastsThrough c moves)
    (h : s.step c m = some s') : ∃ p', s'.Flight t refresh p' := by
  cases m with
  | setCredential credential => cases hm
  | caller i now reply =>
  have hnow := IamToken.needsRefresh_of_le hstale hm
  have hlast (j fresh) (hp : p = .settled j fresh) : fresh.needsRefresh now c.skew = false :=
    hlasts j fresh hp i now reply hmem
  -- a caller that carries no new token stays in the phase
  have hfree {stage : Stage} (here : s.callers[i]? = some stage)
      (hstage : stage.isCarrying = false) (carried : Stage) (hp : p.carrier? = some (i, carried)) :
      False := by
    obtain rfl := Option.some.inj (here.symm.trans (hf.carrier i carried hp))
    cases p <;> cases hp <;> cases hstage
  cases moved_of_step h with
  | look here => exact ⟨p, hf.place here _ (hfree here rfl) (hf.allows_look hnow hlast)⟩
  | lock here =>
    have hnext := hf.place here .locked (hfree here rfl) .locked
    exact ⟨p, hnext.exchanges, hnext.credential, hnext.handed, hnext.carrier, hnext.stages⟩
  | lookAgain here =>
    exact ⟨p, hf.place here _ (hfree here rfl) (hf.allows_lookAgain hrefresh hs here hnow hlast)⟩
  | trade here =>
    obtain ⟨failed, hmade, hfailed⟩ := hf.exchanges
    -- a caller trades the old token in, so nobody has a new one yet
    cases hf.stages i _ here with | trading =>
    cases reply with
    | ok fresh =>
      refine ⟨.gained i fresh, ⟨failed, congrArg _ hmade, hfailed⟩, hf.credential, hf.handed, ?_,
        hf.enter hs rfl here rfl (.gained i fresh) _ .handing⟩
      rintro j stage ⟨⟩
      exact (caller_place here).2 (.inl ⟨rfl, rfl⟩)
    | error e =>
      have hnext := hf.place here _ (hfree here rfl) (.failed (e := e))
      refine ⟨.stale, ⟨_ :: failed, congrArg _ hmade, ?_⟩, hnext.credential, hnext.handed,
        hnext.carrier, hnext.stages⟩
      intro x hx
      rcases List.mem_cons.1 hx with rfl | hx
      · exact ⟨rfl, e, rfl⟩
      · exact hfailed x hx
  | @hand _ _ _ fresh here =>
    cases hf.stages i _ here with | @handing j =>
    obtain ⟨rfl, -⟩ := hf.carrier_eq hs rfl here rfl
    refine ⟨.handed i fresh, hf.exchanges, hf.credential, congrArg _ hf.handed, ?_,
      hf.enter hs rfl here rfl (.handed i fresh) _ .installing⟩
    rintro j stage ⟨⟩
    exact (caller_place here).2 (.inl ⟨rfl, rfl⟩)
  | @install _ _ _ fresh here =>
    cases hf.stages i _ here with | @installing j =>
    exact ⟨.settled j fresh, hf.exchanges, rfl, hf.handed, nofun,
      hf.enter hs rfl here rfl (.settled j fresh) _ .looking⟩
  | lookLast here =>
    cases hf.stages i _ here with | looking =>
    refine ⟨_, hf.place here _ (hfree here rfl) ?_⟩
    rw [hf.credential]
    exact .replaced
  | @release i now reply result here =>
    have hnext := hf.place here (.done result) (hfree here rfl) (by
      cases hf.stages i _ here with
      | replaced => exact .doneReplaced
      | failed => exact .doneFailed)
    exact ⟨p, hnext.exchanges, hnext.credential, hnext.handed, hnext.carrier, hnext.stages⟩

end Step

/-! ## Sequences of moves -/

/-- Whether every token that an exchange gave lasts through a sequence of moves. -/
def Lasting (c : Client) (moves : List Move) (s : Shared) : Prop :=
  ∀ x ∈ s.exchanges, ∀ fresh, x.result = .ok fresh → fresh.LastsThrough c moves

theorem Flight.settled_lasts (hf : s.Flight t refresh p) {moves : List Move}
    (hlasting : s.Lasting c moves) :
    ∀ i fresh, p = .settled i fresh → fresh.LastsThrough c moves := by
  rintro i fresh rfl
  obtain ⟨failed, hmade, -⟩ := hf.exchanges
  exact hlasting ⟨i, t, .ok fresh⟩ (hmade ▸ List.mem_cons_self) fresh rfl

theorem flight_start (t : IamToken) (refresh : Secret) (n : Nat) :
    (start (some (.iam t)) n).Flight t refresh .stale where
  exchanges := ⟨[], rfl, fun _ hx => absurd hx List.not_mem_nil⟩
  credential := rfl
  handed := rfl
  carrier := nofun
  stages i stage hi := by
    obtain rfl := List.eq_of_mem_replicate (List.mem_of_getElem? hi)
    exact .start

section Run

variable {first : Moment} {moves walked : List Move}
  (hrefresh : t.refresh = some refresh) (hstale : t.needsRefresh first c.skew = true)
  (hmoves : ∀ m ∈ moves, m.IsSince first)

include hrefresh hstale hmoves in
/-- Moves of callers keep to the phases as long as new tokens last, and keep what every
move in a phase keeps. -/
theorem flight_induction {I : Shared → Prop} (hs : s.Exclusive) (hf : s.Flight t refresh p)
    (hstart : I s)
    (hstep : ∀ m ∈ walked, ∀ u q v, u.Exclusive → u.Flight t refresh q → I u →
      u.step c m = some v → I v)
    (hwalked : walked ⊆ moves) (h : s.run c walked = some s') (hlasting : s'.Lasting c moves) :
    (∃ p', s'.Flight t refresh p') ∧ I s' := by
  refine exclusive_induction
    (I := fun u => u.Lasting c moves → (∃ q, u.Flight t refresh q) ∧ I u) hs
    (fun _ => ⟨⟨p, hf⟩, hstart⟩) ?_ h hlasting
  intro m hm u v hu hphase hmove hlast
  have hearlier : u.Lasting c moves := fun x hx => hlast x ((exchanges_step hmove).subset hx)
  obtain ⟨⟨q, hq⟩, hI⟩ := hphase hearlier
  exact ⟨flight_step hrefresh hstale hu hq (hmoves m (hwalked hm)) (hwalked hm)
    (hq.settled_lasts hearlier) hmove, hstep m hm u q v hu hq hI hmove⟩

include hrefresh hstale hmoves in
theorem flight_run (hs : s.Exclusive) (hf : s.Flight t refresh p) (hwalked : walked ⊆ moves)
    (h : s.run c walked = some s') (hlasting : s'.Lasting c moves) :
    ∃ p', s'.Flight t refresh p' :=
  (flight_induction hrefresh hstale hmoves (I := fun _ => True) hs hf trivial
    (fun _ _ _ _ _ _ _ _ _ => trivial) hwalked h hlasting).1

/-! ## After a failure -/

/-- Where no exchange has succeeded, nobody has a new token. -/
theorem Flight.eq_stale (hf : s.Flight t refresh p) (hfailed : ∀ x ∈ s.exchanges, x.IsFailure) :
    p = .stale := by
  obtain ⟨failed, hmade, -⟩ := hf.exchanges
  have hnone (i : Nat) (fresh : IamToken) (hp : p.success t = [⟨i, t, .ok fresh⟩]) : False := by
    rw [hp] at hmade
    obtain ⟨e, he⟩ := hfailed ⟨i, t, .ok fresh⟩ (hmade ▸ List.mem_cons_self)
    cases he
  cases p with
  | stale => rfl
  | gained i fresh => exact (hnone i fresh rfl).elim
  | handed i fresh => exact (hnone i fresh rfl).elim
  | settled i fresh => exact (hnone i fresh rfl).elim

/-- A caller has the lock since certain exchanges were made, and is about to make the next
or has made it. -/
def Owes (t : IamToken) (refresh : Secret) (j : Nat) (before : List Exchange) (s : Shared) : Prop :=
  (s.exchanges = before ∧
      (s.callers[j]? = some .locked ∨ s.callers[j]? = some (.trading t refresh))) ∨
    ∃ newer reply, s.exchanges = newer ++ ⟨j, t, reply⟩ :: before

include hrefresh hstale in
theorem owes_step {j : Nat} {before : List Exchange} (hbefore : ∀ x ∈ before, x.IsFailure)
    (hs : s.Exclusive) (hf : s.Flight t refresh p) (hm : m.IsSince first)
    (howes : s.Owes t refresh j before) (h : s.step c m = some s') :
    s'.Owes t refresh j before := by
  obtain ⟨hmade, hstage⟩ | ⟨newer, reply, hmade⟩ := howes
  · cases m with
    | setCredential credential => cases hm
    | caller i now reply =>
    by_cases hij : j = i
    · -- the caller itself looks again, or trades the token in
      subst hij
      rcases hstage with hlocked | htrading
      · obtain rfl := hf.eq_stale (hmade ▸ hbefore)
        have hcredential : s.credential = some (.iam t) := hf.credential
        have hnow := IamToken.needsRefresh_of_le hstale hm
        rw [step_caller hlocked, advance] at h
        obtain rfl := Option.some.inj h
        refine .inl ⟨hmade, .inr ((caller_place hlocked).2 (.inl ⟨rfl, ?_⟩))⟩
        simp [lookAgain, hcredential, Client.renewable?, hnow, hrefresh]
      · rw [step_caller htrading, advance] at h
        obtain rfl := Option.some.inj h
        exact .inr ⟨[], reply, congrArg _ hmade⟩
    · -- another caller makes no exchange, as it does not hold the lock
      obtain heq | ⟨_, _, _, token, refresh', ⟨⟩, htrading, -⟩ := exchanges_of_step h
      · rw [Owes, heq, callers_of_step h hij]
        exact .inl ⟨hmade, hstage⟩
      · rcases hstage with hj | hj
        · exact absurd (hs.eq hj rfl htrading rfl) hij
        · exact absurd (hs.eq hj rfl htrading rfl) hij
  · obtain ⟨later, hlater⟩ := exchanges_step h
    exact .inr ⟨later ++ newer, reply, by rw [← hlater, hmade, List.append_assoc]⟩

include hrefresh hstale hmoves in
/-- After failures, the next caller in the lock makes the next exchange before it returns. -/
theorem next_in_lock (hs : s.Exclusive) (hf : s.Flight t refresh p)
    (hfailed : ∀ x ∈ s.exchanges, x.IsFailure) {j : Nat} (hj : s.callers[j]? = some .waiting)
    {now : Moment} {reply : Except Failure IamToken}
    (hwalked : .caller j now reply :: walked ⊆ moves)
    (h : s.run c (.caller j now reply :: walked) = some s') (hlasting : s'.Lasting c moves)
    {result : Except Failure (Option Credential)} (hdone : s'.callers[j]? = some (.done result)) :
    ∃ newer reply, s'.exchanges = newer ++ ⟨j, t, reply⟩ :: s.exchanges := by
  obtain ⟨u, hu, hrest⟩ := Option.bind_eq_some_iff.1 ((run_cons c s _ walked).symm.trans h)
  have hmem : .caller j now reply ∈ moves := hwalked List.mem_cons_self
  have hearlier : s.Lasting c moves := fun x hx => hlasting x ((exchanges_run h).subset hx)
  obtain ⟨q, hq⟩ := flight_step hrefresh hstale hs hf (hmoves _ hmem) hmem
    (hf.settled_lasts hearlier) hu
  have howes : u.Owes t refresh j s.exchanges := by
    rw [step_caller hj, advance] at hu
    split at hu
    · obtain rfl := Option.some.inj hu
      exact .inl ⟨rfl, .inl ((caller_place hj).2 (.inl ⟨rfl, rfl⟩))⟩
    · cases hu
  obtain ⟨-, hstage⟩ | hmade := (flight_induction hrefresh hstale hmoves (exclusive_step hs hu) hq
    howes (fun m hm v q w hv hq howes => owes_step hrefresh hstale hfailed hv hq
      (hmoves m (hwalked (List.mem_cons_of_mem _ hm))) howes)
    (fun m hm => hwalked (List.mem_cons_of_mem _ hm)) hrest hlasting).2
  · rw [hdone] at hstage
    rcases hstage with h | h <;> cases h
  · exact hmade

end Run

/-! ## When every caller has returned -/

/-- When every caller has returned, a new token is not left behind on its way. -/
theorem Flight.of_finished (hf : s.Flight t refresh p) (h : s.isFinished = true) :
    p = .stale ∨ ∃ i fresh, p = .settled i fresh := by
  have hnone (i : Nat) (stage : Stage) (hp : p.carrier? = some (i, stage)) :
      ∃ result, stage = .done result := done_of_finished h (hf.carrier i stage hp)
  cases p with
  | stale => exact .inl rfl
  | settled i fresh => exact .inr ⟨i, fresh, rfl⟩
  | gained i fresh => cases hnone i _ rfl with | intro _ hdone => cases hdone
  | handed i fresh => cases hnone i _ rfl with | intro _ hdone => cases hdone

theorem Flight.token_eq (hf : s.Flight t refresh p) : ∀ x ∈ s.exchanges, x.token = t := by
  obtain ⟨failed, hmade, hfailed⟩ := hf.exchanges
  intro x hx
  rcases List.mem_append.1 (hmade ▸ hx) with h | h
  · cases p with
    | stale => cases h
    | _ => obtain rfl := List.mem_singleton.1 h; rfl
  · exact (hfailed x h).1

/-- An exchange that gives a token is the last one. -/
theorem Flight.success_last (hf : s.Flight t refresh p) {x : Exchange} {fresh : IamToken}
    (hx : x ∈ s.exchanges) (hfresh : x.result = .ok fresh) :
    p.success t = [x] ∧ ∃ failed, s.exchanges = x :: failed ∧ ∀ y ∈ failed, y.IsFailure := by
  obtain ⟨failed, hmade, hfailed⟩ := hf.exchanges
  have hsuccess : p.success t = [x] := by
    rcases List.mem_append.1 (hmade ▸ hx) with h | h
    · cases p with
      | stale => cases h
      | _ => rw [List.mem_singleton.1 h]; rfl
    · obtain ⟨-, e, he⟩ := hfailed x h
      rw [hfresh] at he
      cases he
  rw [hsuccess] at hmade
  exact ⟨hsuccess, failed, hmade, fun y hy => (hfailed y hy).2⟩

/-- When every caller has returned after an exchange that gave a token, that token is
installed. -/
theorem Flight.settled_of_success (hf : s.Flight t refresh p) (h : s.isFinished = true)
    {x : Exchange} {fresh : IamToken} (hx : x ∈ s.exchanges) (hfresh : x.result = .ok fresh) :
    p = .settled x.caller fresh := by
  have hsuccess := (hf.success_last hx hfresh).1
  obtain rfl | ⟨i, installed, rfl⟩ := hf.of_finished h
  · cases hsuccess
  · obtain rfl := List.singleton_inj.1 hsuccess
    cases hfresh
    rfl

/-- When every caller has returned and no exchange failed, there was one, and everybody has
its token. -/
theorem Flight.shared_one (hf : s.Flight t refresh p) (hs : s.Accounted)
    (h : s.isFinished = true) (hn : 0 < s.callers.length)
    (hsuccess : ∀ x ∈ s.exchanges, ¬ x.IsFailure) :
    ∃ i fresh, s.credential = some (.iam fresh) ∧ s.exchanges = [⟨i, t, .ok fresh⟩] ∧
      s.handed = [fresh] ∧
      s.callers = List.replicate s.callers.length (.done (.ok (some (.iam fresh)))) := by
  -- a caller that failed would have made an exchange that failed
  have hok (j : Nat) (e : Failure) (here : s.callers[j]? = some (.done (.error e))) : False := by
    obtain ⟨x, hx, -, hxe⟩ := (hs.returns_error_iff here e).1 rfl
    exact hsuccess x hx ⟨e, hxe⟩
  obtain rfl | ⟨i, fresh, rfl⟩ := hf.of_finished h
  · have here : s.callers[0]? = some s.callers[0] := List.getElem?_eq_getElem hn
    obtain ⟨result, hdone⟩ := done_of_finished h here
    rw [hdone] at here
    obtain ⟨_, _, hp, -⟩ | ⟨e, rfl⟩ := (hf.stages 0 _ here).done_eq
    · cases hp
    · exact (hok 0 e here).elim
  · obtain ⟨failed, hmade, hfailed⟩ := hf.exchanges
    have hnone : failed = [] := List.eq_nil_iff_forall_not_mem.2 fun x hx =>
      hsuccess x (hmade ▸ List.mem_append_right _ hx) (hfailed x hx).2
    rw [hnone, List.append_nil] at hmade
    refine ⟨i, fresh, hf.credential, hmade, hf.handed, List.eq_replicate_iff.2 ⟨rfl, ?_⟩⟩
    intro stage hstage
    obtain ⟨j, here⟩ := List.mem_iff_getElem?.1 hstage
    obtain ⟨result, rfl⟩ := done_of_finished h here
    obtain ⟨_, _, ⟨⟩, rfl⟩ | ⟨e, rfl⟩ := (hf.stages j _ here).done_eq
    · rfl
    · exact (hok j e here).elim

/-- What callers have come to that found a token about to end. -/
theorem single_flight {first : Moment} {n : Nat} {moves : List Move}
    (hrefresh : t.refresh = some refresh) (hstale : t.needsRefresh first c.skew = true)
    (hmoves : ∀ m ∈ moves, m.IsSince first)
    (hrun : (start (some (.iam t)) n).run c moves = some s) (hlasting : s.Lasting c moves) :
    -- callers go on until all have returned
    (moves.length ≤ 8 * n ∧ (s.isFinished = false →
      ∃ i, ∀ now reply, (s.step c (.caller i now reply)).isSome = true)) ∧
    -- each of them trades the old token in at most once
    ((s.exchanges.map Exchange.caller).Nodup ∧ ∀ x ∈ s.exchanges, x.token = t) ∧
    -- where IAM gives a token there is one exchange, and everybody returns that token
    (s.isFinished = true → 0 < n → (∀ x ∈ s.exchanges, ¬ x.IsFailure) →
      ∃ i fresh, s.credential = some (.iam fresh) ∧ s.exchanges = [⟨i, t, .ok fresh⟩] ∧
        s.handed = [fresh] ∧ s.callers = List.replicate n (.done (.ok (some (.iam fresh))))) ∧
    -- also after failures, the exchange that gives a token is the last
    (∀ x ∈ s.exchanges, ∀ fresh, x.result = .ok fresh →
      (∃ failed, s.exchanges = x :: failed ∧ ∀ y ∈ failed, y.IsFailure) ∧
      (s.isFinished = true → s.credential = some (.iam fresh) ∧ s.handed = [fresh])) ∧
    -- nobody returns the old token
    (∀ (i : Nat) held, s.callers[i]? = some (.done (.ok held)) →
      ∃ x ∈ s.exchanges, ∃ fresh, x.result = .ok fresh ∧ held = some (.iam fresh)) ∧
    -- the caller of an exchange that failed gets its failure, and nobody else
    (∀ (i : Nat) result, s.callers[i]? = some (.done result) → ∀ e,
      result = .error e ↔ ∃ x ∈ s.exchanges, x.caller = i ∧ x.result = .error e) ∧
    -- failures leave the credential as it was
    ((∀ x ∈ s.exchanges, x.IsFailure) → s.credential = some (.iam t) ∧ s.handed = []) ∧
    -- and then the next caller in the lock makes the next exchange
    (∀ before j now reply after u, moves = before ++ .caller j now reply :: after →
      (start (some (.iam t)) n).run c before = some u → u.callers[j]? = some .waiting →
      (∀ x ∈ u.exchanges, x.IsFailure) → (∃ result, s.callers[j]? = some (.done result)) →
      ∃ newer reply, s.exchanges = newer ++ ⟨j, t, reply⟩ :: u.exchanges) := by
  have hexclusive := exclusive_run (exclusive_start _ n) hrun
  have haccounted := accounted_run (accounted_start _ n) hrun
  obtain ⟨p, hf⟩ := flight_run hrefresh hstale hmoves (exclusive_start _ n)
    (flight_start t refresh n) (List.Subset.refl _) hrun hlasting
  have hlength : s.callers.length = n :=
    (length_callers_run hrun).trans List.length_replicate
  refine ⟨⟨?_, exists_step hexclusive⟩, ⟨haccounted.once, hf.token_eq⟩, ?_, ?_, ?_, ?_, ?_, ?_⟩
  · have hcaller : ∀ m ∈ moves, m.isCaller = true := by
      intro m hm
      cases m with
      | caller i now reply => rfl
      | setCredential credential => exact (hmoves _ hm).elim
    have hle := length_run_le hcaller hrun
    rw [movesLeft_start] at hle
    omega
  · intro hfinished hn hsuccess
    have hshared := hf.shared_one haccounted hfinished (hlength.symm ▸ hn) hsuccess
    rwa [hlength] at hshared
  · intro x hx fresh hfresh
    refine ⟨(hf.success_last hx hfresh).2, fun hfinished => ?_⟩
    obtain rfl := hf.settled_of_success hfinished hx hfresh
    exact ⟨hf.credential, hf.handed⟩
  · intro i held here
    obtain ⟨j, fresh, rfl, hheld⟩ | ⟨e, he⟩ := (hf.stages i _ here).done_eq
    · obtain ⟨failed, hmade, -⟩ := hf.exchanges
      exact ⟨⟨j, t, .ok fresh⟩, hmade ▸ List.mem_cons_self, fresh, rfl, Except.ok.inj hheld⟩
    · cases he
  · exact fun i result here e => haccounted.returns_error_iff here e
  · intro hfailed
    obtain rfl := hf.eq_stale hfailed
    exact ⟨hf.credential, hf.handed⟩
  · rintro before j now reply after u rfl hu hj hfailed ⟨result, hdone⟩
    rw [run_append, hu] at hrun
    have hearlier : u.Lasting c (before ++ .caller j now reply :: after) :=
      fun x hx => hlasting x ((exchanges_run hrun).subset hx)
    have hu' := exclusive_run (exclusive_start _ n) hu
    obtain ⟨q, hq⟩ := flight_run hrefresh hstale hmoves (exclusive_start _ n)
      (flight_start t refresh n) (List.subset_append_left _ _) hu hearlier
    exact next_in_lock hrefresh hstale hmoves hu' hq hfailed hj (List.subset_append_right _ _)
      hrun hlasting hdone

/-- Two callers before a token that is about to end: IAM turns the first one in the lock
away, and gives the second one a token. -/
theorem single_flight_two :
    let c : Client :=
      ⟨WireFormat.rest.endpoint, .rest, 1000, none, true, "test", .standard, 60, .standard⟩
    let old : IamToken := ⟨⟨"a"⟩, some ⟨"r"⟩, some (.ofSeconds 100), none, none⟩
    let fresh : IamToken := ⟨⟨"b"⟩, some ⟨"q"⟩, some (.ofSeconds 5000), none, none⟩
    let busy : Failure := .crash "busy"
    let turns := [(0, .ok fresh), (1, .ok fresh)] ++ List.replicate 4 (0, .error busy) ++
      List.replicate 7 (1, .ok fresh)
    let moves := turns.map fun turn => Move.caller turn.1 (.ofSeconds 50) turn.2
    old.refresh = some ⟨"r"⟩ ∧ old.needsRefresh (.ofSeconds 50) c.skew = true ∧
      (∀ m ∈ moves, m.IsSince (.ofSeconds 50)) ∧
      ∃ s, (start (some (.iam old)) 2).run c moves = some s ∧ s.Lasting c moves ∧
        s.credential = some (.iam fresh) ∧ s.handed = [fresh] := by
  intro c old fresh busy turns moves
  have hmoves : ∀ m ∈ moves, m.IsSince (.ofSeconds 50) := by
    intro m hm
    obtain ⟨turn, -, rfl⟩ := List.mem_map.1 hm
    exact Int.le_refl _
  have hlasts : fresh.LastsThrough c moves := by
    intro i now reply hm
    obtain ⟨turn, -, hturn⟩ := List.mem_map.1 hm
    cases hturn
    rfl
  let s : Shared := ⟨some (.iam fresh), none, [⟨1, old, .ok fresh⟩, ⟨0, old, .error busy⟩],
    [fresh], [.done (.error busy), .done (.ok (some (.iam fresh)))]⟩
  have hrun : (start (some (.iam old)) 2).run c moves = some s := rfl
  have hlasting : s.Lasting c moves := by
    intro x hx token htoken
    rcases List.mem_cons.1 hx with rfl | hx
    · obtain rfl := Except.ok.inj htoken
      exact hlasts
    · obtain rfl := List.mem_singleton.1 hx
      cases htoken
  obtain ⟨-, -, -, hlast, -⟩ := single_flight rfl rfl hmoves hrun hlasting
  exact ⟨rfl, rfl, hmoves, s, hrun, hlasting,
    (hlast ⟨1, old, .ok fresh⟩ List.mem_cons_self fresh rfl).2 rfl⟩

end Shared

end CloudClient
