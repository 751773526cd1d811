import CloudClient.Proofs.Watch
import Mathlib.Control.Monad.Basic

/-!
# Tokens — what the token endpoint gives

A form is sent to IAM, and its reply is read as a token whose end has to lie in the calendar.

* `Iam.tokenOfReply_cases`: a reply is refused, or the record in it is taken for a token.
* `Iam.requestToken_cases`, `Iam.refreshToken_cases`: the ways in which a form is answered.
* `Iam.requestToken_crash_iff`: when the end of a token cannot be computed.
-/

namespace CloudClient

/-- A failure that is reported: the client does not give up. -/
def Failure.IsReported (e : Failure) : Prop := ∀ detail, e ≠ .crash detail

def Event.reply? : Event → Option HttpReply
  | .traded _ (.ok reply) => some reply
  | _ => none

/-! ## Moments -/

namespace Moment

theorem seconds_ofSeconds (s : Int) : (ofSeconds s).seconds = s := by
  rw [seconds, ofSeconds, Int.mul_fdiv_cancel _ (by decide)]

theorem seconds_after (t : Moment) (span : Int) : (t.after span).seconds = t.seconds + span := by
  rw [seconds, after, Int.add_mul_fdiv_right _ _ (by decide), seconds]

theorem isRepresentable_iff {t : Moment} :
    t.isRepresentable = true ↔ firstSecond ≤ t.seconds ∧ t.seconds ≤ lastSecond :=
  decide_eq_true_iff

theorem isRepresentable_of_ofSeconds? {s : Int} {t : Moment} (h : ofSeconds? s = some t) :
    t.isRepresentable = true := by
  unfold ofSeconds? at h
  split at h
  · rename_i hs
    obtain rfl := Option.some.inj h
    rwa [isRepresentable_iff, seconds_ofSeconds]
  · cases h

theorem span?_eq_some_iff {s span : Int} :
    span? s = some span ↔ s = span ∧ -longestSpan ≤ span ∧ span ≤ longestSpan := by
  unfold span?
  split
  · rename_i hs
    rw [Option.some.injEq]
    exact ⟨fun h => ⟨h, h ▸ hs⟩, And.left⟩
  · rename_i hs
    refine iff_of_false nofun ?_
    rintro ⟨rfl, h⟩
    exact hs h

end Moment

namespace Iam

/-! ## Replies -/

/-- The record of a reply that is taken for a token: the status is one of success, the body can be
read, and the token is a bearer's. -/
def record? (reply : HttpReply) : Option TokenReply :=
  if reply.isSuccess then
    ((Json.read? reply.body).bind fun v => (TokenReply.ofJson v).toOption).filter fun r =>
      Text.equalIgnoringCase (r.type.getD "bearer") "bearer"
  else none

def TokenReply.token (r : TokenReply) (expiresAt : Option Moment) : IamToken :=
  ⟨⟨r.access⟩, r.refresh.map Secret.mk, expiresAt, none, none⟩

/-- A reply is refused with a report, or the record in it is taken for a token. -/
theorem tokenOfReply_cases (reply : HttpReply) :
    (record? reply = none ∧ ∃ e, e.IsReported ∧ ∀ now, tokenOfReply now reply = .error e) ∨
      ∃ r, record? reply = some r ∧
        ∀ now, tokenOfReply now reply = (expiry r now).map r.token := by
  unfold record? Json.read? tokenOfReply
  cases reply.isSuccess with
  | false =>
    refine .inl ⟨rfl, faultOf tokenOperation reply, ?_, fun now => rfl⟩
    rintro detail ⟨⟩
  | true =>
    cases Json.read reply.body with
    | error e =>
      refine .inl ⟨rfl, .malformed tokenOperation e.message, ?_, fun now => rfl⟩
      rintro detail ⟨⟩
    | ok v =>
      dsimp only [Except.toOption, Option.bind_some]
      cases TokenReply.ofJson v with
      | error complaint =>
        refine .inl ⟨rfl, .malformed tokenOperation complaint, ?_, fun now => rfl⟩
        rintro detail ⟨⟩
      | ok r =>
        dsimp only
        cases htype : Text.equalIgnoringCase (r.type.getD "bearer") "bearer" with
        | false =>
          refine .inl ⟨?_, _, ?_, fun now => rfl⟩
          · simp [htype]
          · rintro detail ⟨⟩
        | true =>
          refine .inr ⟨r, ?_, fun now => rfl⟩
          simp [htype]

/-! ## The end of a token -/

/-- The end of a token cannot be computed: its reply names no moment of the calendar, and gives a
time to live that is a span of time and, counted from now, leads out of the calendar. -/
def TokenReply.Outlives (r : TokenReply) (now : Moment) : Prop :=
  (∀ s ∈ r.expiration, ¬ (Moment.firstSecond ≤ s ∧ s ≤ Moment.lastSecond)) ∧
    ∃ ttl ∈ r.expiresIn, (-Moment.longestSpan ≤ ttl ∧ ttl ≤ Moment.longestSpan) ∧
      ¬ (Moment.firstSecond ≤ now.seconds + ttl ∧ now.seconds + ttl ≤ Moment.lastSecond)

theorem expiration_eq_none_iff {r : TokenReply} :
    r.expiration.bind Moment.ofSeconds? = none ↔
      ∀ s ∈ r.expiration, ¬ (Moment.firstSecond ≤ s ∧ s ≤ Moment.lastSecond) := by
  rw [Option.bind_eq_none_iff]
  refine forall₂_congr fun s _ => ?_
  unfold Moment.ofSeconds?
  split
  · rename_i hs
    exact iff_of_false nofun (not_not_intro hs)
  · rename_i hs
    exact iff_of_true rfl hs

/-- The end of a token cannot be computed, or there is none, or it lies in the calendar. -/
theorem expiry_cases (r : TokenReply) (now : Moment) :
    (r.Outlives now ∧ expiry r now = .error (.crash "a token ends outside the calendar")) ∨
      ¬ r.Outlives now ∧ ∃ e, expiry r now = .ok e ∧ ∀ t ∈ e, t.isRepresentable = true := by
  unfold expiry TokenReply.Outlives
  rw [← expiration_eq_none_iff]
  cases hnamed : r.expiration.bind Moment.ofSeconds? with
  | some t =>
    refine .inr ⟨fun h => (nomatch h.1), some t, rfl, ?_⟩
    obtain ⟨s, -, hs⟩ := Option.bind_eq_some_iff.1 hnamed
    rintro _ ⟨⟩
    exact Moment.isRepresentable_of_ofSeconds? hs
  | none =>
    dsimp only
    rw [and_iff_right rfl]
    cases hspan : r.expiresIn.bind Moment.span? with
    | none =>
      refine .inr ⟨?_, none, rfl, by simp⟩
      rintro ⟨ttl, httl, hrange, -⟩
      have hsome : r.expiresIn.bind Moment.span? = some ttl :=
        Option.bind_eq_some_iff.2 ⟨ttl, httl, Moment.span?_eq_some_iff.2 ⟨rfl, hrange⟩⟩
      rw [hspan] at hsome
      cases hsome
    | some span =>
      obtain ⟨ttl, httl, hs⟩ := Option.bind_eq_some_iff.1 hspan
      obtain ⟨rfl, hrange⟩ := Moment.span?_eq_some_iff.1 hs
      have hend : (now.after ttl).isRepresentable = true ↔
          Moment.firstSecond ≤ now.seconds + ttl ∧ now.seconds + ttl ≤ Moment.lastSecond := by
        rw [Moment.isRepresentable_iff, Moment.seconds_after]
      dsimp only
      by_cases h : (now.after ttl).isRepresentable = true
      · rw [if_pos h]
        refine .inr ⟨?_, some (now.after ttl), rfl, ?_⟩
        · rintro ⟨other, hother, -, hout⟩
          obtain rfl := Option.some.inj (httl.symm.trans hother)
          exact hout (hend.1 h)
        · rintro _ ⟨⟩
          exact h
      · rw [if_neg h]
        exact .inl ⟨⟨ttl, httl, hrange, fun hin => h (hend.2 hin)⟩, rfl⟩

end Iam

/-! ## Forms and their answers -/

section Answers

variable (b : Conduct) (past : List Event)

/-- What cannot be sent is reported. -/
theorem isReported_of_checked {operation : String} {w : WireRequest} {e : Failure}
    (h : Http.checked operation w = .error e) : e.IsReported := by
  rintro detail rfl
  unfold Http.checked at h
  dsimp only at h
  split at h
  · rename_i fault hfault
    split at hfault
    · obtain ⟨reason, -, rfl⟩ := Option.map_eq_some_iff.1 hfault
      cases h
    · cases hfault
  · split at h
    · cases h
    · split at h <;> cases h

/-- A request to IAM is an exchange, or it cannot be sent. -/
theorem httpSend_cases (operation : String) (w : WireRequest) :
    (∃ e trades, e.IsReported ∧
        Http.send b.world.network operation w past = (.error e, past ++ trades) ∧
        ∀ t ∈ trades, t.method? = none ∧ t.reply? = none) ∨
      ∃ reply, Http.send b.world.network operation w past =
        (.ok reply, past ++ [.traded w (.ok reply)]) := by
  have hnetwork : b.world.network w past =
    (b.network past w, past ++ [.traded w (b.network past w)]) := rfl
  unfold Http.send
  cases hchecked : Http.checked operation w with
  | error e =>
    exact .inl ⟨e, [], isReported_of_checked hchecked, by rw [List.append_nil]; rfl, by simp⟩
  | ok url =>
    simp only [bind, StateT.bind, hnetwork]
    cases b.network past w with
    | error fault =>
      refine .inl ⟨_, [.traded w (.error fault)], ?_, rfl, by simp [Event.method?, Event.reply?]⟩
      rintro detail ⟨⟩
    | ok reply => exact .inr ⟨reply, rfl⟩

/-- A form gives a token only after an exchange and a look at the clock. -/
theorem requestToken_cases (endpoints : IamEndpoints) (form : List (String × String)) :
    (∃ e trades, e.IsReported ∧
        Iam.requestToken b.world.network b.world.clock endpoints form past =
          (.error e, past ++ trades) ∧
        ∀ t ∈ trades, t.method? = none ∧ t.reply? = none) ∨
      ∃ reply now, Iam.requestToken b.world.network b.world.clock endpoints form past =
        (Iam.tokenOfReply now reply,
          past ++ [.traded (Iam.tokenRequest endpoints form) (.ok reply), .looked now]) := by
  let w := Iam.tokenRequest endpoints form
  unfold Iam.requestToken
  rcases httpSend_cases b past Iam.tokenOperation w with
    ⟨e, trades, hreported, hsend, htrades⟩ | ⟨reply, hsend⟩
  · refine .inl ⟨e, trades, hreported, ?_, htrades⟩
    simp only [bind, StateT.bind, w] at hsend ⊢
    rw [hsend]
    rfl
  · refine .inr ⟨reply, b.clock (past ++ [.traded w (.ok reply)]), ?_⟩
    simp only [bind, StateT.bind, w] at hsend ⊢
    rw [hsend]
    show (_, past ++ [_] ++ [_]) = _
    rw [List.append_assoc]
    rfl

/-- A refresh token is traded in: a reply is taken for a token, which keeps the accounts that
were asked for. -/
inductive Iam.Trade (endpoints : IamEndpoints) (refresh : Secret)
    (account imsAccount : Option String) : IamToken → List Event → Prop
  | taken (reply : HttpReply) (now : Moment) (r : TokenReply) (expiresAt : Option Moment)
    (read : record? reply = some r) (ends : expiry r now = .ok expiresAt) :
    Trade endpoints refresh account imsAccount
      { r.token expiresAt with account := account, imsAccount := imsAccount }
      [.traded (tokenRequest endpoints (refreshForm refresh account imsAccount)) (.ok reply),
        .looked now]

namespace Iam.Trade

variable {endpoints : IamEndpoints} {refresh : Secret} {account imsAccount : Option String}
  {fresh : IamToken} {trades : List Event}

theorem account_eq (h : Trade endpoints refresh account imsAccount fresh trades) :
    fresh.account = account := by
  cases h
  rfl

theorem imsAccount_eq (h : Trade endpoints refresh account imsAccount fresh trades) :
    fresh.imsAccount = imsAccount := by
  cases h
  rfl

theorem uncarried (h : Trade endpoints refresh account imsAccount fresh trades) :
    ∀ e ∈ trades, e.method? = none := by
  cases h
  simp [Event.method?]

end Iam.Trade

/-- A refresh token is traded in, or it is not and no call was carried meanwhile. -/
theorem refreshToken_cases (endpoints : IamEndpoints) (refresh : Secret)
    (account imsAccount : Option String) :
    (∃ e trades, Iam.refreshToken b.world.network b.world.clock endpoints refresh account
        imsAccount past = (.error e, past ++ trades) ∧ ∀ t ∈ trades, t.method? = none) ∨
      ∃ fresh trades, Iam.refreshToken b.world.network b.world.clock endpoints refresh account
          imsAccount past = (.ok fresh, past ++ trades) ∧
        Iam.Trade endpoints refresh account imsAccount fresh trades := by
  have hrefresh : Iam.refreshToken b.world.network b.world.clock endpoints refresh account
      imsAccount past =
    let answer := Iam.requestToken b.world.network b.world.clock endpoints
      (Iam.refreshForm refresh account imsAccount) past
    (answer.1.map fun t => { t with account := account, imsAccount := imsAccount }, answer.2) :=
    rfl
  rw [hrefresh]
  rcases requestToken_cases b past endpoints (Iam.refreshForm refresh account imsAccount) with
    ⟨e, trades, -, hanswer, htrades⟩ | ⟨reply, now, hanswer⟩
  · rw [hanswer]
    exact .inl ⟨e, trades, rfl, fun t ht => (htrades t ht).1⟩
  · rw [hanswer]
    rcases Iam.tokenOfReply_cases reply with ⟨-, e, -, hrefused⟩ | ⟨r, hread, htaken⟩
    · rw [hrefused now]
      exact .inl ⟨e, _, rfl, by simp [Event.method?]⟩
    · rw [htaken now]
      cases hends : Iam.expiry r now with
      | error e => exact .inl ⟨e, _, rfl, by simp [Event.method?]⟩
      | ok expiresAt => exact .inr ⟨_, _, rfl, .taken reply now r expiresAt hread hends⟩

end Answers

/-! ## Giving up -/

section Crash

theorem Failure.IsReported.ne_crash {α : Type} {e : Failure} (h : e.IsReported) :
    ¬ ∃ detail, (.error e : Except Failure α) = .error (.crash detail) := by
  rintro ⟨detail, he⟩
  exact h detail (Except.error.inj he)

namespace Iam

/-- The client gives up on a reply exactly if the end of its token cannot be computed. -/
theorem tokenOfReply_crash_iff (reply : HttpReply) (now : Moment) :
    (∃ detail, tokenOfReply now reply = .error (.crash detail)) ↔
      ∃ r, record? reply = some r ∧ r.Outlives now := by
  rcases tokenOfReply_cases reply with ⟨hread, e, hreported, hrefused⟩ | ⟨r, hread, htaken⟩
  · rw [hrefused now]
    refine iff_of_false hreported.ne_crash ?_
    rintro ⟨r, hread', -⟩
    rw [hread] at hread'
    cases hread'
  · rw [htaken now]
    rcases expiry_cases r now with ⟨hout, hends⟩ | ⟨hout, expiresAt, hends, -⟩
    · rw [hends]
      exact iff_of_true ⟨_, rfl⟩ ⟨r, hread, hout⟩
    · rw [hends]
      refine iff_of_false nofun ?_
      rintro ⟨r', hread', hout'⟩
      obtain rfl := Option.some.inj (hread.symm.trans hread')
      exact hout hout'

theorem isRepresentable_of_tokenOfReply {reply : HttpReply} {now : Moment} {t : IamToken}
    (h : tokenOfReply now reply = .ok t) : ∀ e ∈ t.expiresAt, e.isRepresentable = true := by
  rcases tokenOfReply_cases reply with ⟨-, e, -, hrefused⟩ | ⟨r, -, htaken⟩
  · rw [hrefused now] at h
    cases h
  · rw [htaken now] at h
    rcases expiry_cases r now with ⟨-, hends⟩ | ⟨-, expiresAt, hends, hin⟩
    · rw [hends] at h
      cases h
    · rw [hends] at h
      obtain rfl := Except.ok.inj h
      exact hin

/-- The client gives up on an answer of the token endpoint exactly if it is a reply whose token
has an end that cannot be computed, and every token that it gets ends in the calendar. -/
theorem requestToken_crash_iff (b : Conduct) (past : List Event) (endpoints : IamEndpoints)
    (form : List (String × String)) :
    let answer := requestToken b.world.network b.world.clock endpoints form past
    ((∃ detail, answer.1 = .error (.crash detail)) ↔
        ∃ reply r now, answer.2 =
            past ++ [.traded (tokenRequest endpoints form) (.ok reply), .looked now] ∧
          record? reply = some r ∧ r.Outlives now) ∧
      ∀ t, answer.1 = .ok t → ∀ e ∈ t.expiresAt, e.isRepresentable = true := by
  intro answer
  rcases requestToken_cases b past endpoints form with
    ⟨e, trades, hreported, hanswer, hnone⟩ | ⟨reply, now, hanswer⟩
  · have hanswer : answer = (.error e, past ++ trades) := hanswer
    rw [hanswer]
    refine ⟨iff_of_false hreported.ne_crash ?_, nofun⟩
    rintro ⟨reply, r, now, hhistory, -⟩
    -- an exchange that gave a reply is none of those that happened
    obtain rfl := List.append_cancel_left hhistory
    cases (hnone _ List.mem_cons_self).2
  · have hanswer : answer = (tokenOfReply now reply,
      past ++ [.traded (tokenRequest endpoints form) (.ok reply), .looked now]) := hanswer
    rw [hanswer]
    refine ⟨?_, fun t => isRepresentable_of_tokenOfReply⟩
    rw [tokenOfReply_crash_iff]
    constructor
    · rintro ⟨r, hread, hout⟩
      exact ⟨reply, r, now, rfl, hread, hout⟩
    · rintro ⟨reply', r, now', hhistory, hread, hout⟩
      cases List.append_cancel_left hhistory
      exact ⟨r, hread, hout⟩

/-- An IAM that gives the same reply to everything, at one moment. -/
def desk (body : String) (now : Moment) : Conduct where
  service _ r := .error (.transport r.method .connect "no service")
  network _ _ := .ok ⟨200, none, body⟩
  clock _ := now

theorem requestToken_crash_iff_hour :
    let b := desk "\x7b\"access_token\":\"a\",\"expires_in\":3600\x7d" (.ofSeconds 0)
    let answer :=
      requestToken b.world.network b.world.clock .standard (passcodeForm ⟨"1"⟩) []
    answer.1 = .ok ⟨⟨"a"⟩, none, some (.ofSeconds 3600), none, none⟩ ∧
      (Moment.ofSeconds 3600).isRepresentable = true := by
  intro b answer
  have hanswer : answer.1 = .ok ⟨⟨"a"⟩, none, some (.ofSeconds 3600), none, none⟩ := by
    decide +kernel
  exact ⟨hanswer, (requestToken_crash_iff _ _ _ _).2 _ hanswer _ rfl⟩

/-- A time to live that is a span of time and leads out of the calendar makes the client give
up, where a longer one is as good as none. -/
theorem long_lived_token_crashes :
    let answer (body : String) :=
      let b := desk body (.ofSeconds 0)
      (requestToken b.world.network b.world.clock .standard (passcodeForm ⟨"1"⟩) []).1
    answer "\x7b\"access_token\":\"a\",\"expires_in\":9000000000000000\x7d" =
        .error (.crash "a token ends outside the calendar") ∧
      answer "\x7b\"access_token\":\"a\",\"expires_in\":9300000000000000\x7d" =
        .ok ⟨⟨"a"⟩, none, none, none, none⟩ := by
  decide +kernel

end Iam

end Crash

end CloudClient
