import CloudClient.Proofs.Sharing

/-!
# Changes — which credential is left after one that was set from outside

A credential that is set from outside, or cleared, lasts if no caller is replacing a token
at that moment: what is installed later comes from it by exchanges.  A caller that is
replacing a token does not look at the credential before it installs the new one.  Where
its exchange succeeds, what is left comes from the new token, and the change is undone;
where it fails, the change lasts.

* `Shared.Descends` says that a credential comes from another by exchanges.
* `Shared.Rooted` is kept by every move of a caller: everything in use descends from one
  credential.
* `Shared.left_after_change` tells from which credential the last one descends.
* `Shared.logout_undone`: a cleared credential comes back.
-/

namespace CloudClient

/-- The token that a caller at this stage replaces or is about to install. -/
def Stage.token? : Stage → Option IamToken
  | .trading token _ => some token
  | .handing fresh | .installing fresh => some fresh
  | _ => none

theorem Stage.holdsLock_of_token? {stage : Stage} {token : IamToken}
    (h : stage.token? = some token) : stage.holdsLock = true := by
  cases stage <;> first | rfl | cases h

namespace Shared

variable {c : Client} {s s' : Shared} {m : Move} {origin held : Option Credential}

/-! ## Descent -/

/-- A credential is another one, or was given for a token that descends from it. -/
inductive Descends (exchanges : List Exchange) (origin : Option Credential) :
    Option Credential → Prop
  | refl : Descends exchanges origin origin
  | traded {x : Exchange} {fresh : IamToken} (hx : x ∈ exchanges)
      (hfrom : Descends exchanges origin (some (.iam x.token))) (hfresh : x.result = .ok fresh) :
      Descends exchanges origin (some (.iam fresh))

theorem Descends.mono {before after : List Exchange} (h : Descends before origin held)
    (hsub : before ⊆ after) : Descends after origin held := by
  induction h with
  | refl => exact .refl
  | traded hx _ hfresh ih => exact .traded (hsub hx) ih hfresh

/-- Nothing descends from no credential. -/
theorem Descends.eq_none {exchanges : List Exchange} (h : Descends exchanges none held) :
    held = none := by
  induction h with
  | refl => rfl
  | traded _ _ _ ih => cases ih

/-! ## One origin -/

/-- The credential, and every token that a caller replaces or is about to install, descend
from one credential. -/
structure Rooted (origin : Option Credential) (s : Shared) : Prop where
  credential : Descends s.exchanges origin s.credential
  tokens : ∀ (i : Nat) stage token, s.callers[i]? = some stage → stage.token? = some token →
    Descends s.exchanges origin (some (.iam token))

theorem token?_look (c : Client) (now : Moment) (held : Option Credential) :
    (look c now held).token? = none := by
  unfold look
  split <;> rfl

/-- A token that a caller sets out to replace is the installed one. -/
theorem eq_of_token?_lookAgain {now : Moment} {token : IamToken}
    (h : (lookAgain c now held).token? = some token) : held = some (.iam token) := by
  cases hrenew : c.renewable? now held with
  | none =>
    rw [lookAgain, hrenew] at h
    cases h
  | some found =>
    rw [lookAgain, hrenew] at h
    obtain rfl := Option.some.inj h
    unfold Client.renewable? at hrenew
    split at hrenew
    · split at hrenew
      · obtain ⟨refresh, -, rfl⟩ := Option.map_eq_some_iff.1 hrenew
        rfl
      · cases hrenew
    · cases hrenew

/-- A caller that goes on with a token of the same origin, or none, keeps the origin. -/
theorem Rooted.place {i : Nat} {old : Stage} (hs : s.Rooted origin)
    (here : s.callers[i]? = some old) (new : Stage)
    (hnew : ∀ token, new.token? = some token → Descends s.exchanges origin (some (.iam token))) :
    (s.place i new).Rooted origin where
  credential := hs.credential
  tokens j stage token hj htoken := by
    rcases (caller_place here).1 hj with ⟨-, rfl⟩ | ⟨-, hj⟩
    · exact hnew token htoken
    · exact hs.tokens j stage token hj htoken

/-- A caller that gives up its token while it holds the lock leaves the credential as the
only one in use. -/
theorem rooted_of_lone (hs : s.Exclusive) {i : Nat} {old : Stage}
    (here : s.callers[i]? = some old) (hold : old.holdsLock = true) {new : Stage}
    (hnew : new.token? = none) (hcallers : s'.callers = s.callers.set i new)
    (hcredential : s'.credential = origin) : s'.Rooted origin where
  credential := hcredential ▸ .refl
  tokens j stage token hj htoken := by
    rw [hcallers] at hj
    rcases (caller_place here).1 hj with ⟨-, rfl⟩ | ⟨hne, hj⟩
    · rw [hnew] at htoken
      cases htoken
    · exact absurd (hs.eq hj (Stage.holdsLock_of_token? htoken) here hold) hne

/-- A caller brings in nothing of another origin. -/
theorem rooted_step (hs : s.Rooted origin) (hm : m.isCaller = true) (h : s.step c m = some s') :
    s'.Rooted origin := by
  cases moved_of_step h with
  | set => cases hm
  | look here =>
    exact hs.place here _ fun token htoken => by
      rw [token?_look] at htoken
      cases htoken
  | lock here =>
    have hnext := hs.place here .locked nofun
    exact ⟨hnext.credential, hnext.tokens⟩
  | lookAgain here =>
    -- the token that a caller sets out to replace is the installed one
    exact hs.place here _ fun token htoken => eq_of_token?_lookAgain htoken ▸ hs.credential
  | @trade i now reply token refresh here =>
    have hsub : s.exchanges ⊆ (⟨i, token, reply⟩ :: s.exchanges) := List.subset_cons_self _ _
    refine ⟨hs.credential.mono hsub, fun j stage other hj hother => ?_⟩
    rcases (caller_place here).1 hj with ⟨-, rfl⟩ | ⟨-, hj⟩
    · -- the new token was given for one of the same origin
      cases reply with
      | error e => cases hother
      | ok fresh =>
        obtain rfl := Option.some.inj hother
        exact .traded List.mem_cons_self ((hs.tokens i _ token here rfl).mono hsub) rfl
    · exact (hs.tokens j stage other hj hother).mono hsub
  | @hand i now reply fresh here =>
    have hnext := hs.place here (.installing fresh) fun token htoken =>
      hs.tokens i _ token here htoken
    exact ⟨hnext.credential, hnext.tokens⟩
  | install here =>
    have hnext := hs.place here .looking nofun
    exact ⟨hs.tokens _ _ _ here rfl, hnext.tokens⟩
  | lookLast here => exact hs.place here (.releasing (.ok s.credential)) nofun
  | @release i now reply result here =>
    have hnext := hs.place here (.done result) nofun
    exact ⟨hnext.credential, hnext.tokens⟩

theorem rooted_run {moves : List Move} (hs : s.Rooted origin)
    (hmoves : ∀ m ∈ moves, m.isCaller = true) (h : s.run c moves = some s') : s'.Rooted origin :=
  run_induction hs (fun m hm _ _ hu hstep => rooted_step hu (hmoves m hm) hstep) h

/-! ## A token on its way -/

/-- A caller carries a new token, or has installed it and everything descends from it. -/
def Carried (i : Nat) (fresh : IamToken) (s : Shared) : Prop :=
  s.callers[i]? = some (.handing fresh) ∨ s.callers[i]? = some (.installing fresh) ∨
    s.Rooted (some (.iam fresh))

/-- A caller that carries a new token installs it, whatever the credential is by then. -/
theorem carried_step {i : Nat} {fresh : IamToken} (hs : s.Exclusive) (hc : s.Carried i fresh)
    (hm : m.isCaller = true) (h : s.step c m = some s') : s'.Carried i fresh := by
  cases m with
  | setCredential credential => cases hm
  | caller j now reply =>
  obtain hhanding | hinstalling | hrooted := hc
  · by_cases hij : i = j
    · subst hij
      rw [step_caller hhanding] at h
      obtain rfl := Option.some.inj h
      exact .inr (.inl ((caller_place hhanding).2 (.inl ⟨rfl, rfl⟩)))
    · exact .inl ((callers_of_step h hij).trans hhanding)
  · by_cases hij : i = j
    · subst hij
      rw [step_caller hinstalling] at h
      obtain rfl := Option.some.inj h
      exact .inr (.inr (rooted_of_lone hs hinstalling rfl rfl rfl rfl))
    · exact .inr (.inl ((callers_of_step h hij).trans hinstalling))
  · exact .inr (.inr (rooted_step hrooted rfl h))

/-- A caller trades a token in while `origin` is installed, or has done so: what it got
prevails, and if it got nothing, `origin` does. -/
def Replacing (i : Nat) (token : IamToken) (refresh : Secret) (origin : Option Credential)
    (s : Shared) : Prop :=
  (s.callers[i]? = some (.trading token refresh) ∧ s.credential = origin) ∨
  (∃ e, ⟨i, token, .error e⟩ ∈ s.exchanges ∧ s.Rooted origin) ∨
  ∃ fresh, ⟨i, token, .ok fresh⟩ ∈ s.exchanges ∧ s.Carried i fresh

theorem replacing_step {i : Nat} {token : IamToken} {refresh : Secret} (hs : s.Exclusive)
    (hr : s.Replacing i token refresh origin) (hm : m.isCaller = true)
    (h : s.step c m = some s') : s'.Replacing i token refresh origin := by
  have hsub := (exchanges_step h).subset
  obtain ⟨htrading, rfl⟩ | ⟨e, hmade, hrooted⟩ | ⟨fresh, hmade, hcarried⟩ := hr
  · cases m with
    | setCredential credential => cases hm
    | caller j now reply =>
    by_cases hij : i = j
    · subst hij
      rw [step_caller htrading] at h
      obtain rfl := Option.some.inj h
      cases reply with
      | error e =>
        exact .inr (.inl ⟨e, List.mem_cons_self, rooted_of_lone hs htrading rfl rfl rfl rfl⟩)
      | ok fresh =>
        exact .inr (.inr ⟨fresh, List.mem_cons_self,
          .inl ((caller_place htrading).2 (.inl ⟨rfl, rfl⟩))⟩)
    · -- meanwhile nobody else can install a token
      refine .inl ⟨(callers_of_step h hij).trans htrading, ?_⟩
      cases moved_of_step h with
      | install here => exact absurd (hs.eq htrading rfl here rfl) hij
      | _ => rfl
  · exact .inr (.inl ⟨e, hsub hmade, rooted_step hrooted hm h⟩)
  · exact .inr (.inr ⟨fresh, hsub hmade, carried_step hs hcarried hm h⟩)

/-! ## The last change -/

section LastChange

variable {i : Nat} {token fresh : IamToken} {refresh : Secret} {moves : List Move}

theorem carried_run (hs : s.Exclusive) (hc : s.Carried i fresh)
    (hmoves : ∀ m ∈ moves, m.isCaller = true) (h : s.run c moves = some s') :
    s'.Carried i fresh :=
  exclusive_induction hs hc (fun m hm _ _ hu hc => carried_step hu hc (hmoves m hm)) h

/-- A caller that has returned has installed the token that it carried. -/
theorem Carried.rooted_of_finished (hc : s.Carried i fresh) (hfinished : s.isFinished = true) :
    s.Rooted (some (.iam fresh)) := by
  obtain hhanding | hinstalling | hrooted := hc
  · obtain ⟨_, hdone⟩ := done_of_finished hfinished hhanding
    cases hdone
  · obtain ⟨_, hdone⟩ := done_of_finished hfinished hinstalling
    cases hdone
  · exact hrooted

theorem replacing_run (hs : s.Exclusive) (hr : s.Replacing i token refresh origin)
    (hmoves : ∀ m ∈ moves, m.isCaller = true) (h : s.run c moves = some s') :
    s'.Replacing i token refresh origin :=
  exclusive_induction hs hr (fun m hm _ _ hu hr => replacing_step hu hr (hmoves m hm)) h

/-- What is left when every caller has returned, by what callers were at when the
credential was changed for the last time. -/
theorem left_after_change {n : Nat} {before after : List Move} {change : Option Credential}
    {u : Shared} (hbefore : (start held n).run c before = some u)
    (hafter : ∀ m ∈ after, m.isCaller = true)
    (hrun : (start held n).run c (before ++ .setCredential change :: after) = some s)
    (hfinished : s.isFinished = true) :
    -- nobody was replacing a token
    ((∀ stage ∈ u.callers, stage.token? = none) →
      Descends s.exchanges change s.credential) ∧
    -- a caller was before its exchange: it counts how that ended
    (∀ (i : Nat) token refresh, u.callers[i]? = some (.trading token refresh) →
      (∃ e, ⟨i, token, .error e⟩ ∈ s.exchanges ∧ Descends s.exchanges change s.credential) ∨
      ∃ fresh, ⟨i, token, .ok fresh⟩ ∈ s.exchanges ∧
        Descends s.exchanges (some (.iam fresh)) s.credential) ∧
    -- a caller had a new token already
    (∀ (i : Nat) fresh, u.callers[i]? = some (.handing fresh) ∨
      u.callers[i]? = some (.installing fresh) →
        Descends s.exchanges (some (.iam fresh)) s.credential) := by
  rw [run_append, hbefore] at hrun
  obtain ⟨v, hv, hrest⟩ := Option.bind_eq_some_iff.1 ((run_cons c u _ after).symm.trans hrun)
  obtain rfl := Option.some.inj hv
  have hexclusive := exclusive_run (exclusive_start held n) hbefore
  have hchanged := exclusive_step (c := c) hexclusive (m := .setCredential change) rfl
  refine ⟨fun hnone => ?_, fun i token refresh htrading => ?_, fun i fresh hcarrying => ?_⟩
  · have hrooted : Rooted change { u with credential := change } := by
      refine ⟨.refl, fun i stage token hi htoken => ?_⟩
      rw [hnone stage (List.mem_of_getElem? hi)] at htoken
      cases htoken
    exact (rooted_run hrooted hafter hrest).credential
  · have hreplacing : Replacing i token refresh change { u with credential := change } :=
      .inl ⟨htrading, rfl⟩
    obtain ⟨hstill, -⟩ | ⟨e, hmade, hrooted⟩ | ⟨fresh, hmade, hcarried⟩ :=
      replacing_run hchanged hreplacing hafter hrest
    · obtain ⟨_, hdone⟩ := done_of_finished hfinished hstill
      cases hdone
    · exact .inl ⟨e, hmade, hrooted.credential⟩
    · exact .inr ⟨fresh, hmade, (hcarried.rooted_of_finished hfinished).credential⟩
  · have hcarried : Carried i fresh { u with credential := change } :=
      hcarrying.imp_right Or.inl
    exact ((carried_run hchanged hcarried hafter hrest).rooted_of_finished hfinished).credential

/-- A credential that is cleared while a caller waits for the lock stays cleared. -/
theorem left_after_change_waiting :
    let c : Client :=
      ⟨WireFormat.rest.endpoint, .rest, 1000, none, true, "test", .standard, 60, .standard⟩
    let old : IamToken := ⟨⟨"a"⟩, some ⟨"r"⟩, some (.ofSeconds 100), none, none⟩
    let turn := Move.caller 0 (.ofSeconds 50) (.error (.crash "busy"))
    ∃ u s, (start (some (.iam old)) 1).run c [turn] = some u ∧
      (∀ stage ∈ u.callers, stage.token? = none) ∧
      (∀ m ∈ [turn, turn, turn], m.isCaller = true) ∧
      (start (some (.iam old)) 1).run c ([turn] ++ .setCredential none :: [turn, turn, turn]) =
        some s ∧
      s.isFinished = true ∧ s.credential = none := by
  intro c old turn
  let u : Shared := ⟨some (.iam old), none, [], [], [.waiting]⟩
  let s : Shared := ⟨none, none, [], [], [.done (.ok none)]⟩
  have hnone : ∀ stage ∈ u.callers, stage.token? = none := by simp [u, Stage.token?]
  have hcallers : ∀ m ∈ [turn, turn, turn], m.isCaller = true := by simp [turn, Move.isCaller]
  have hrun : (start (some (.iam old)) 1).run c
      ([turn] ++ .setCredential none :: [turn, turn, turn]) = some s := rfl
  have hleft := (left_after_change (u := u) rfl hcallers hrun rfl).1 hnone
  exact ⟨u, s, rfl, hnone, hcallers, hrun, rfl, hleft.eq_none⟩

/-- A credential that is cleared while a caller trades the old one in comes back. -/
theorem logout_undone :
    let c : Client :=
      ⟨WireFormat.rest.endpoint, .rest, 1000, none, true, "test", .standard, 60, .standard⟩
    let old : IamToken := ⟨⟨"a"⟩, some ⟨"r"⟩, some (.ofSeconds 100), none, none⟩
    let fresh : IamToken := ⟨⟨"b"⟩, some ⟨"q"⟩, some (.ofSeconds 5000), none, none⟩
    let turn := Move.caller 0 (.ofSeconds 50) (.ok fresh)
    ∃ s, (start (some (.iam old)) 1).run c
        ([turn, turn, turn] ++ .setCredential none :: [turn, turn, turn, turn, turn]) = some s ∧
      s.isFinished = true ∧ s.credential = some (.iam fresh) ∧
      ¬ Descends s.exchanges none s.credential := by
  intro c old fresh turn
  refine ⟨⟨some (.iam fresh), none, [⟨0, old, .ok fresh⟩], [fresh],
    [.done (.ok (some (.iam fresh)))]⟩, rfl, rfl, rfl, fun h => ?_⟩
  cases h.eq_none

end LastChange

end Shared

end CloudClient
