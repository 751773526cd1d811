import CloudClient.Client.Sharing
import CloudClient.Proofs.Watch

/-!
# Sharing — what callers of one client can do to each other

Whatever the order in which callers move, at most one of them holds the lock, every caller
accounts for at most one exchange with IAM, and its failure is the failure of that exchange.
A caller that is not kept waiting can always go on, so that every caller returns.

* `Shared.Moved` says what one move does, stage by stage.
* `Shared.exclusive_run`: the lock is held by the caller that it is given to, and by no other.
* `Shared.accounted_run`: exchanges and failures belong to their callers.
* `Shared.exists_step`, `Shared.length_run_le`: no caller is left behind.
* `Shared.run_alone`: a caller by itself does what `Client.current` does.
-/

namespace CloudClient

/-! ## Stages, exchanges and moves -/

/-- The failure that a caller is about to return or has returned. -/
def Stage.failure? : Stage → Option Failure
  | .releasing (.error e) => some e
  | .done (.error e) => some e
  | _ => none

/-- Whether a caller at this stage would not trade a token in any more. -/
def Stage.isPastTrade : Stage → Bool
  | .start | .waiting | .locked | .trading _ _ => false
  | _ => true

/-- How many moves a caller at this stage has left at most. -/
def Stage.movesLeft : Stage → Nat
  | .start => 8
  | .waiting => 7
  | .locked => 6
  | .trading _ _ => 5
  | .handing _ => 4
  | .installing _ => 3
  | .looking => 2
  | .releasing _ => 1
  | .done _ => 0

def Exchange.failure? (x : Exchange) : Option Failure :=
  match x.result with
  | .ok _ => none
  | .error e => some e

def Move.isCaller : Move → Bool
  | .caller _ _ _ => true
  | .setCredential _ => false

namespace Shared

variable {c : Client} {s s' : Shared} {m : Move}

/-! ## One move -/

/-- What a move does, by the stage of the caller that makes it. -/
inductive Moved (c : Client) (s : Shared) : Move → Shared → Prop
  | look {i now reply} (here : s.callers[i]? = some .start) :
    Moved c s (.caller i now reply) (s.place i (look c now s.credential))
  | lock {i now reply} (here : s.callers[i]? = some .waiting) (free : s.holder = none) :
    Moved c s (.caller i now reply) { s.place i .locked with holder := some i }
  | lookAgain {i now reply} (here : s.callers[i]? = some .locked) :
    Moved c s (.caller i now reply) (s.place i (lookAgain c now s.credential))
  | trade {i now reply token refresh} (here : s.callers[i]? = some (.trading token refresh)) :
    Moved c s (.caller i now reply)
      { s.place i (traded reply) with exchanges := ⟨i, token, reply⟩ :: s.exchanges }
  | hand {i now reply fresh} (here : s.callers[i]? = some (.handing fresh)) :
    Moved c s (.caller i now reply)
      { s.place i (.installing fresh) with handed := fresh :: s.handed }
  | install {i now reply fresh} (here : s.callers[i]? = some (.installing fresh)) :
    Moved c s (.caller i now reply)
      { s.place i .looking with credential := some (.iam fresh) }
  | lookLast {i now reply} (here : s.callers[i]? = some .looking) :
    Moved c s (.caller i now reply) (s.place i (.releasing (.ok s.credential)))
  | release {i now reply result} (here : s.callers[i]? = some (.releasing result)) :
    Moved c s (.caller i now reply) { s.place i (.done result) with holder := none }
  | set {credential} : Moved c s (.setCredential credential) { s with credential := credential }

theorem moved_of_step (h : s.step c m = some s') : Moved c s m s' := by
  cases m with
  | setCredential credential =>
    obtain rfl := Option.some.inj h
    exact .set
  | caller i now reply =>
    rw [step] at h
    split at h
    · rename_i stage here
      cases stage with
      | start => obtain rfl := Option.some.inj h; exact .look here
      | waiting =>
        rw [advance] at h
        split at h
        · rename_i free
          obtain rfl := Option.some.inj h
          exact .lock here free
        · cases h
      | locked => obtain rfl := Option.some.inj h; exact .lookAgain here
      | trading token refresh => obtain rfl := Option.some.inj h; exact .trade here
      | handing fresh => obtain rfl := Option.some.inj h; exact .hand here
      | installing fresh => obtain rfl := Option.some.inj h; exact .install here
      | looking => obtain rfl := Option.some.inj h; exact .lookLast here
      | releasing result => obtain rfl := Option.some.inj h; exact .release here
      | done result => cases h
    · cases h

/-- A placed caller is at its new stage, and every other where it was. -/
theorem caller_place {i j : Nat} {old new stage : Stage} (here : s.callers[i]? = some old) :
    (s.place i new).callers[j]? = some stage ↔
      (j = i ∧ stage = new) ∨ (j ≠ i ∧ s.callers[j]? = some stage) := by
  have hi : i < s.callers.length := (List.getElem?_eq_some_iff.1 here).1
  rw [place, List.getElem?_set]
  by_cases h : i = j
  · subst h
    simp [hi, eq_comm]
  · simp [h, Ne.symm h]

theorem step_caller {i : Nat} {stage : Stage} (here : s.callers[i]? = some stage) (now : Moment)
    (reply : Except Failure IamToken) :
    s.step c (.caller i now reply) = s.advance c i now reply stage := by
  rw [step, here]

/-- A caller moves nobody but itself. -/
theorem callers_of_step {i j : Nat} {now : Moment} {reply : Except Failure IamToken}
    (h : s.step c (.caller i now reply) = some s') (hne : j ≠ i) :
    s'.callers[j]? = s.callers[j]? := by
  cases moved_of_step h <;> exact List.getElem?_set_ne hne.symm

/-! ## Sequences of moves -/

/-- What holds at first and is kept by every move holds at the end. -/
theorem run_induction {I : Shared → Prop} {moves : List Move} (hstart : I s)
    (hstep : ∀ m ∈ moves, ∀ u v, I u → u.step c m = some v → I v)
    (hrun : s.run c moves = some s') : I s' := by
  induction moves generalizing s with
  | nil =>
    obtain rfl := Option.some.inj hrun
    exact hstart
  | cons m moves ih =>
    rw [run_cons] at hrun
    obtain ⟨u, hu, hrest⟩ := Option.bind_eq_some_iff.1 hrun
    refine ih (hstep m List.mem_cons_self s u hstart hu) (fun m' hm' => ?_) hrest
    exact hstep m' (List.mem_cons_of_mem _ hm')

/-- A move makes no exchange unless its caller trades a token in. -/
theorem exchanges_of_step (h : s.step c m = some s') :
    s'.exchanges = s.exchanges ∨ ∃ i now reply token refresh,
      m = .caller i now reply ∧ s.callers[i]? = some (.trading token refresh) ∧
      s'.exchanges = ⟨i, token, reply⟩ :: s.exchanges := by
  cases moved_of_step h with
  | trade here => exact .inr ⟨_, _, _, _, _, rfl, here, rfl⟩
  | _ => exact .inl rfl

/-- Exchanges that were made stay made. -/
theorem exchanges_step (h : s.step c m = some s') : s.exchanges <:+ s'.exchanges := by
  obtain heq | ⟨_, _, _, _, _, -, -, heq⟩ := exchanges_of_step h
  · exact heq ▸ List.suffix_refl _
  · exact heq ▸ List.suffix_cons _ _

theorem exchanges_run {moves : List Move} (h : s.run c moves = some s') :
    s.exchanges <:+ s'.exchanges :=
  run_induction (I := fun u => s.exchanges <:+ u.exchanges) List.suffix_rfl
    (fun _ _ _ _ hu hstep => hu.trans (exchanges_step hstep)) h

/-- No caller comes or goes. -/
theorem length_callers_run {moves : List Move} (h : s.run c moves = some s') :
    s'.callers.length = s.callers.length := by
  refine run_induction (I := fun u => u.callers.length = s.callers.length) rfl ?_ h
  intro m _ u v hu hstep
  rw [← hu]
  cases moved_of_step hstep with
  | set => rfl
  | _ => exact List.length_set

/-! ## The lock -/

/-- The lock is held by the caller that it is given to, and by no other. -/
structure Exclusive (s : Shared) : Prop where
  given : ∀ i stage, s.callers[i]? = some stage → stage.holdsLock = true → s.holder = some i
  held : ∀ i, s.holder = some i → ∃ stage, s.callers[i]? = some stage ∧ stage.holdsLock = true

theorem holdsLock_look (c : Client) (now : Moment) (held : Option Credential) :
    (look c now held).holdsLock = false := by
  unfold look
  split <;> rfl

theorem holdsLock_lookAgain (c : Client) (now : Moment) (held : Option Credential) :
    (lookAgain c now held).holdsLock = true := by
  unfold lookAgain
  split <;> rfl

theorem holdsLock_traded (reply : Except Failure IamToken) : (traded reply).holdsLock = true := by
  cases reply <;> rfl

/-- A caller that goes on neither takes nor gives up the lock. -/
theorem Exclusive.place {i : Nat} {old : Stage} (hs : s.Exclusive)
    (here : s.callers[i]? = some old) (new : Stage) (hlock : new.holdsLock = old.holdsLock) :
    (s.place i new).Exclusive where
  given j stage hj hstage := by
    rcases (caller_place here).1 hj with ⟨rfl, rfl⟩ | ⟨-, hj⟩
    · exact hs.given j old here (hlock ▸ hstage)
    · exact hs.given j stage hj hstage
  held j hj := by
    obtain ⟨stage, hstage, hholds⟩ := hs.held j hj
    by_cases hji : j = i
    · subst hji
      obtain rfl := Option.some.inj (here.symm.trans hstage)
      exact ⟨new, (caller_place here).2 (.inl ⟨rfl, rfl⟩), hlock.trans hholds⟩
    · exact ⟨stage, (caller_place here).2 (.inr ⟨hji, hstage⟩), hholds⟩

theorem exclusive_step (hs : s.Exclusive) (h : s.step c m = some s') : s'.Exclusive := by
  cases moved_of_step h with
  | look here => exact hs.place here _ (holdsLock_look _ _ _)
  | lookAgain here => exact hs.place here _ (holdsLock_lookAgain _ _ _)
  | @trade i now reply token refresh here =>
    have h := hs.place here _ (holdsLock_traded reply)
    exact ⟨h.given, h.held⟩
  | @hand i now reply fresh here =>
    have h := hs.place here (.installing fresh) rfl
    exact ⟨h.given, h.held⟩
  | install here =>
    have h := hs.place here .looking rfl
    exact ⟨h.given, h.held⟩
  | lookLast here => exact hs.place here _ rfl
  | set => exact ⟨hs.given, hs.held⟩
  | @lock i now reply here free =>
    refine ⟨fun j stage hj hstage => ?_, fun j hj => ?_⟩
    · rcases (caller_place here).1 hj with ⟨rfl, -⟩ | ⟨-, hj⟩
      · rfl
      · -- nobody held the free lock
        rw [hs.given j stage hj hstage] at free
        cases free
    · obtain rfl := Option.some.inj hj
      exact ⟨.locked, (caller_place here).2 (.inl ⟨rfl, rfl⟩), rfl⟩
  | @release i now reply result here =>
    refine ⟨fun j stage hj hstage => ?_, fun j hj => ?_⟩
    · rcases (caller_place here).1 hj with ⟨-, rfl⟩ | ⟨hne, hj⟩
      · cases hstage
      · -- the lock that is given back was that of the caller alone
        have hi := hs.given i _ here rfl
        rw [hs.given j stage hj hstage] at hi
        exact absurd (Option.some.inj hi) hne
    · cases hj

theorem exclusive_start (credential : Option Credential) (n : Nat) :
    (start credential n).Exclusive where
  given i stage hi hstage := by
    obtain rfl := List.eq_of_mem_replicate (List.mem_of_getElem? hi)
    cases hstage
  held i hi := by cases hi

theorem exclusive_run {moves : List Move} (hs : s.Exclusive) (h : s.run c moves = some s') :
    s'.Exclusive :=
  run_induction hs (fun _ _ _ _ hu hstep => exclusive_step hu hstep) h

/-- What moves keep while at most one caller holds the lock. -/
theorem exclusive_induction {I : Shared → Prop} {moves : List Move} (hs : s.Exclusive)
    (hstart : I s)
    (hstep : ∀ m ∈ moves, ∀ u v, u.Exclusive → I u → u.step c m = some v → I v)
    (h : s.run c moves = some s') : I s' := by
  have hboth : s'.Exclusive ∧ I s' := by
    refine run_induction (I := fun u => u.Exclusive ∧ I u) ⟨hs, hstart⟩ ?_ h
    rintro m hm u v ⟨hu, hI⟩ hmove
    exact ⟨exclusive_step hu hmove, hstep m hm u v hu hI hmove⟩
  exact hboth.2

/-- Beside a caller that holds the lock there is no other. -/
theorem Exclusive.eq (hs : s.Exclusive) {i j : Nat} {a b : Stage} (hi : s.callers[i]? = some a)
    (ha : a.holdsLock = true) (hj : s.callers[j]? = some b) (hb : b.holdsLock = true) : i = j :=
  Option.some.inj ((hs.given i a hi ha).symm.trans (hs.given j b hj hb))

/-! ## Exchanges -/

/-- Every exchange was made by a caller that has gone on with its result, no caller made
two, and a caller fails only with the failure of its exchange. -/
structure Accounted (s : Shared) : Prop where
  once : (s.exchanges.map Exchange.caller).Nodup
  followed : ∀ x ∈ s.exchanges, ∃ stage, s.callers[x.caller]? = some stage ∧
    stage.isPastTrade = true ∧ stage.failure? = x.failure?
  failed : ∀ i stage e, s.callers[i]? = some stage → stage.failure? = some e →
    ∃ x ∈ s.exchanges, x.caller = i ∧ x.failure? = some e

theorem failure?_look (c : Client) (now : Moment) (held : Option Credential) :
    (look c now held).failure? = none := by
  unfold look
  split <;> rfl

theorem failure?_lookAgain (c : Client) (now : Moment) (held : Option Credential) :
    (lookAgain c now held).failure? = none := by
  unfold lookAgain
  split <;> rfl

/-- A caller that has not traded a token in yet has made no exchange. -/
theorem Accounted.caller_ne (hs : s.Accounted) {i : Nat} {stage : Stage}
    (here : s.callers[i]? = some stage) (hstage : stage.isPastTrade = false) :
    ∀ x ∈ s.exchanges, x.caller ≠ i := by
  rintro x hx rfl
  obtain ⟨later, hlater, hpast, -⟩ := hs.followed x hx
  obtain rfl := Option.some.inj (here.symm.trans hlater)
  rw [hstage] at hpast
  cases hpast

/-- A caller that goes on without an exchange keeps its account. -/
theorem Accounted.place {i : Nat} {old : Stage} (hs : s.Accounted)
    (here : s.callers[i]? = some old) (new : Stage)
    (hpast : old.isPastTrade = true → new.isPastTrade = true)
    (hfailure : new.failure? = old.failure?) : (s.place i new).Accounted where
  once := hs.once
  followed x hx := by
    obtain ⟨stage, hstage, hlate, hsame⟩ := hs.followed x hx
    by_cases hi : x.caller = i
    · subst hi
      obtain rfl := Option.some.inj (here.symm.trans hstage)
      exact ⟨new, (caller_place here).2 (.inl ⟨rfl, rfl⟩), hpast hlate, hfailure.trans hsame⟩
    · exact ⟨stage, (caller_place here).2 (.inr ⟨hi, hstage⟩), hlate, hsame⟩
  failed j stage e hj he := by
    rcases (caller_place here).1 hj with ⟨rfl, rfl⟩ | ⟨-, hj⟩
    · exact hs.failed j old e here (hfailure ▸ he)
    · exact hs.failed j stage e hj he

theorem accounted_step (hs : s.Accounted) (h : s.step c m = some s') : s'.Accounted := by
  cases moved_of_step h with
  | look here => exact hs.place here _ nofun (failure?_look _ _ _)
  | lock here =>
    have h := hs.place here .locked nofun rfl
    exact ⟨h.once, h.followed, h.failed⟩
  | lookAgain here => exact hs.place here _ nofun (failure?_lookAgain _ _ _)
  | @hand i now reply fresh here =>
    have h := hs.place here (.installing fresh) (fun _ => rfl) rfl
    exact ⟨h.once, h.followed, h.failed⟩
  | install here =>
    have h := hs.place here .looking (fun _ => rfl) rfl
    exact ⟨h.once, h.followed, h.failed⟩
  | lookLast here => exact hs.place here _ (fun _ => rfl) rfl
  | @release i now reply result here =>
    have h := hs.place here (.done result) (fun _ => rfl) (by cases result <;> rfl)
    exact ⟨h.once, h.followed, h.failed⟩
  | set => exact ⟨hs.once, hs.followed, hs.failed⟩
  | @trade i now reply token refresh here =>
    -- the caller has made no exchange before
    have hnew := hs.caller_ne here rfl
    have hgoes : (traded reply).isPastTrade = true ∧
        (traded reply).failure? = (Exchange.mk i token reply).failure? := by
      cases reply <;> exact ⟨rfl, rfl⟩
    refine ⟨?_, ?_, ?_⟩
    · refine List.nodup_cons.2 ⟨fun hi => ?_, hs.once⟩
      obtain ⟨x, hx, hxi⟩ := List.mem_map.1 hi
      exact hnew x hx hxi
    · intro x hx
      rcases List.mem_cons.1 hx with rfl | hx
      · exact ⟨_, (caller_place here).2 (.inl ⟨rfl, rfl⟩), hgoes⟩
      · obtain ⟨stage, hstage, hlate⟩ := hs.followed x hx
        exact ⟨stage, (caller_place here).2 (.inr ⟨hnew x hx, hstage⟩), hlate⟩
    · intro j stage e hj he
      rcases (caller_place here).1 hj with ⟨rfl, rfl⟩ | ⟨-, hj⟩
      · exact ⟨_, List.mem_cons_self, rfl, hgoes.2 ▸ he⟩
      · obtain ⟨x, hx, hxe⟩ := hs.failed j stage e hj he
        exact ⟨x, List.mem_cons_of_mem _ hx, hxe⟩

theorem accounted_start (credential : Option Credential) (n : Nat) :
    (start credential n).Accounted where
  once := List.nodup_nil
  followed x hx := absurd hx List.not_mem_nil
  failed i stage e hi he := by
    obtain rfl := List.eq_of_mem_replicate (List.mem_of_getElem? hi)
    cases he

theorem accounted_run {moves : List Move} (hs : s.Accounted) (h : s.run c moves = some s') :
    s'.Accounted :=
  run_induction hs (fun _ _ _ _ hu hstep => accounted_step hu hstep) h

/-- A caller returns a failure if, and only if, it has made an exchange that failed so. -/
theorem Accounted.returns_error_iff (hs : s.Accounted) {i : Nat}
    {result : Except Failure (Option Credential)} (here : s.callers[i]? = some (.done result))
    (e : Failure) :
    result = .error e ↔ ∃ x ∈ s.exchanges, x.caller = i ∧ x.result = .error e := by
  have hfailure (x : Exchange) : x.failure? = some e ↔ x.result = .error e := by
    unfold Exchange.failure?
    split <;> simp_all
  simp only [← hfailure]
  constructor
  · rintro rfl
    exact hs.failed i _ e here rfl
  · rintro ⟨x, hx, rfl, hxe⟩
    obtain ⟨stage, hstage, -, hsame⟩ := hs.followed x hx
    obtain rfl := Option.some.inj (here.symm.trans hstage)
    rw [hxe] at hsame
    cases result with
    | ok held => cases hsame
    | error f => rw [Option.some.inj hsame]

/-! ## No caller is left behind -/

/-- Until every caller has returned, some caller can go on, whatever time it is and
whatever IAM answers. -/
theorem exists_step (hs : s.Exclusive) (h : s.isFinished = false) :
    ∃ i, ∀ now reply, (s.step c (.caller i now reply)).isSome = true := by
  obtain ⟨stage, hmem, hstage⟩ := List.all_eq_false.1 h
  obtain ⟨i, hi, hget⟩ := List.mem_iff_getElem.1 hmem
  have here : s.callers[i]? = some stage := List.getElem?_eq_some_iff.2 ⟨hi, hget⟩
  -- a caller with the lock is never kept waiting
  have hlocked {j : Nat} {stage : Stage} (hj : s.callers[j]? = some stage)
      (hholds : stage.holdsLock = true) :
      ∀ now reply, (s.step c (.caller j now reply)).isSome = true := by
    intro now reply
    cases stage with
    | start => cases hholds
    | waiting => cases hholds
    | done result => cases hholds
    | _ => simp [step, hj, advance]
  cases stage with
  | start => exact ⟨i, fun now reply => by simp [step, here, advance]⟩
  | waiting =>
    cases hholder : s.holder with
    | none => exact ⟨i, fun now reply => by simp [step, here, advance, hholder]⟩
    | some j =>
      obtain ⟨later, hj, hholds⟩ := hs.held j hholder
      exact ⟨j, hlocked hj hholds⟩
  | done result => exact absurd rfl hstage
  | _ => exact ⟨i, hlocked here rfl⟩

/-- When every caller has returned, a caller has its result. -/
theorem done_of_finished (h : s.isFinished = true) {i : Nat} {stage : Stage}
    (here : s.callers[i]? = some stage) : ∃ result, stage = .done result := by
  have hresult := List.all_eq_true.1 h stage (List.mem_of_getElem? here)
  cases stage with
  | done result => exact ⟨result, rfl⟩
  | _ => cases hresult

def allMovesLeft : List Stage → Nat
  | [] => 0
  | stage :: callers => stage.movesLeft + allMovesLeft callers

theorem allMovesLeft_set {callers : List Stage} {i : Nat} {old new : Stage}
    (here : callers[i]? = some old) (hless : new.movesLeft < old.movesLeft) :
    allMovesLeft (callers.set i new) < allMovesLeft callers := by
  induction callers generalizing i with
  | nil => cases here
  | cons first callers ih =>
    cases i with
    | zero =>
      obtain rfl := Option.some.inj here
      exact Nat.add_lt_add_right hless _
    | succ i => exact Nat.add_lt_add_left (ih here) _

/-- How many moves all callers together have left at most. -/
def movesLeft (s : Shared) : Nat := allMovesLeft s.callers

theorem movesLeft_place {i : Nat} {old new : Stage} (here : s.callers[i]? = some old)
    (hless : new.movesLeft < old.movesLeft) : (s.place i new).movesLeft < s.movesLeft :=
  allMovesLeft_set here hless

theorem movesLeft_step (hm : m.isCaller = true) (h : s.step c m = some s') :
    s'.movesLeft < s.movesLeft := by
  have hlook (now : Moment) : (look c now s.credential).movesLeft < 8 := by
    unfold look
    split <;> simp [Stage.movesLeft]
  have hlookAgain (now : Moment) : (lookAgain c now s.credential).movesLeft < 6 := by
    unfold lookAgain
    split <;> simp [Stage.movesLeft]
  have htraded (reply : Except Failure IamToken) : (traded reply).movesLeft < 5 := by
    cases reply <;> simp [traded, Stage.movesLeft]
  cases moved_of_step h with
  | look here => exact movesLeft_place here (hlook _)
  | lock here => exact movesLeft_place here (Nat.lt_succ_self 6)
  | lookAgain here => exact movesLeft_place here (hlookAgain _)
  | trade here => exact movesLeft_place here (htraded _)
  | hand here => exact movesLeft_place here (Nat.lt_succ_self 3)
  | install here => exact movesLeft_place here (Nat.lt_succ_self 2)
  | lookLast here => exact movesLeft_place here (Nat.lt_succ_self 1)
  | release here => exact movesLeft_place here (Nat.lt_succ_self 0)
  | set => cases hm

/-- Callers make eight moves each at most, so that they cannot go on for ever. -/
theorem length_run_le {moves : List Move} (hmoves : ∀ m ∈ moves, m.isCaller = true)
    (h : s.run c moves = some s') : moves.length + s'.movesLeft ≤ s.movesLeft := by
  induction moves generalizing s with
  | nil =>
    obtain rfl := Option.some.inj h
    simp
  | cons m moves ih =>
    rw [run_cons] at h
    obtain ⟨u, hu, hrest⟩ := Option.bind_eq_some_iff.1 h
    have hfirst := movesLeft_step (hmoves m List.mem_cons_self) hu
    have hlater := ih (fun m' hm' => hmoves m' (List.mem_cons_of_mem _ hm')) hrest
    rw [List.length_cons]
    omega

theorem movesLeft_start (credential : Option Credential) (n : Nat) :
    (start credential n).movesLeft = 8 * n := by
  change allMovesLeft (List.replicate n .start) = 8 * n
  induction n with
  | zero => rfl
  | succ n ih =>
    rw [List.replicate_succ, allMovesLeft, ih, Stage.movesLeft]
    omega

/-! ## A caller by itself -/

section Alone

variable (c : Client) (b : Conduct) (s : ClientState) (past : List Event)

theorem watch_credential :
    watch (Client.credential : ClientM Watched (Option Credential)).run s past =
      ⟨.ok s.credential, s, past⟩ := rfl

theorem watch_clock :
    watch (Client.outside b.world.clock).run s past =
      ⟨.ok (b.clock past), s, past ++ [.looked (b.clock past)]⟩ := rfl

theorem watch_attempt {α : Type} (act : Watched (Except Failure α)) :
    watch (Client.attemptOutside act).run s past = ⟨(act past).1, s, (act past).2⟩ := rfl

/-- The course of looking for the credential, with at most one exchange. -/
theorem watch_current :
    watch (c.current b.world).run s past =
      if c.isExpiring (b.clock past) s.credential then
        let past := past ++ [.looked (b.clock past)]
        let now := b.clock past
        let past := past ++ [.looked now]
        match c.renewable? now s.credential with
        | none => ⟨.ok s.credential, s, past⟩
        | some (token, refresh) =>
          let (reply, past) := Iam.refreshToken b.world.network b.world.clock c.iam refresh
            token.account token.imsAccount past
          match reply with
          | .ok fresh =>
            ⟨.ok (some (.iam fresh)),
              { s with credential := some (.iam fresh), handed := fresh :: s.handed }, past⟩
          | .error e => ⟨.error e, s, past⟩
      else ⟨.ok s.credential, s, past ++ [.looked (b.clock past)]⟩ := by
  simp only [Client.current, watch_run_bind, watch_credential, watch_clock, Course.andThen]
  cases c.isExpiring (b.clock past) s.credential with
  | false => rfl
  | true =>
    simp only [Bool.not_true, Bool.false_eq_true, if_false, if_true, watch_run_bind,
      watch_credential, watch_clock, Course.andThen]
    cases c.renewable? (b.clock (past ++ [.looked (b.clock past)])) s.credential with
    | none => rfl
    | some found =>
      simp only [watch_run_bind, watch_attempt, Course.andThen]
      generalize Iam.refreshToken b.world.network b.world.clock c.iam found.2 found.1.account
        found.1.imsAccount _ = answer
      obtain ⟨reply, later⟩ := answer
      cases reply with
      | ok fresh => rfl
      | error e => rfl

/-- A caller that nobody moves beside goes through its stages to where `Client.current`
leads: to the same result, the same credential and the same tokens handed to the owner. -/
theorem run_alone :
    ∃ moves exchanges,
      (⟨s.credential, none, [], s.handed, [.start]⟩ : Shared).run c moves =
        some ⟨(watch (c.current b.world).run s past).state.credential, none, exchanges,
          (watch (c.current b.world).run s past).state.handed,
          [.done (watch (c.current b.world).run s past).result]⟩ := by
  -- what IAM would answer does not matter to moves without an exchange
  let go (now : Moment) : Move := .caller 0 now (.error (.crash ""))
  rw [watch_current]
  cases hends : c.isExpiring (b.clock past) s.credential with
  | false =>
    refine ⟨[go (b.clock past)], [], ?_⟩
    simp [go, run, step, advance, place, look, hends]
  | true =>
    dsimp only
    generalize b.clock (past ++ [.looked (b.clock past)]) = now
    cases hrenew : c.renewable? now s.credential with
    | none =>
      refine ⟨[go (b.clock past), go now, go now, go now], [], ?_⟩
      simp [go, run, step, advance, place, look, lookAgain, hends, hrenew]
    | some found =>
      obtain ⟨token, refresh⟩ := found
      dsimp only
      generalize Iam.refreshToken b.world.network b.world.clock c.iam refresh token.account
        token.imsAccount _ = answer
      obtain ⟨reply, later⟩ := answer
      cases reply with
      | error e =>
        refine ⟨[go (b.clock past), go now, go now, .caller 0 now (.error e), go now],
          [⟨0, token, .error e⟩], ?_⟩
        simp [go, run, step, advance, place, look, lookAgain, traded, hends, hrenew]
      | ok fresh =>
        refine ⟨[go (b.clock past), go now, go now, .caller 0 now (.ok fresh), go now, go now,
          go now, go now], [⟨0, token, .ok fresh⟩], ?_⟩
        simp [go, run, step, advance, place, look, lookAgain, traded, hends, hrenew]

end Alone

end Shared

end CloudClient
