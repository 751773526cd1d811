import CloudClient.Proofs.Custody

/-!
# Renewal — whether a token can be replaced again

A token is replaced by trading its refresh token in.  The one that comes back has the
refresh token that the reply of IAM carries, and none if it carries none, so that one such
reply ends the chain: the client goes on with a token that it cannot replace any more.

* `traded_of_granted`: what the tokens of a turn are got for.
* `Client.refreshable_iff`: when a client that is only called stays able to replace its
  token, and what becomes of it after it is not.
-/

namespace CloudClient

/-- The refresh token of the IAM token that is installed. -/
def ClientState.refresh? (s : ClientState) : Option Secret :=
  match s.credential with
  | some (.iam t) => t.refresh
  | _ => none

/-- Whether an errand leaves the client with its IAM token, or with one that it was traded
for. -/
def Errand.keepsIam : Errand → Bool
  | .call _ | .refresh | .iamAccounts | .accountSelection .. => true
  | _ => false

def Turn.replies (t : Turn) : List HttpReply := t.events.filterMap Event.reply?

/-- A request that trades a refresh token in, for an account if its form names one. -/
structure Iam.IsRefresh (endpoints : IamEndpoints) (used : Secret) (w : WireRequest) : Prop where
  url : w.request.url = endpoints.token
  body : ∃ accounts, w.request.body = some (Url.Form.encode
    ([("grant_type", "refresh_token"), ("refresh_token", used.exposed),
      ("response_type", "cloud_iam")] ++ accounts))

theorem Iam.isRefresh_tokenRequest (endpoints : IamEndpoints) (used : Secret)
    (account imsAccount : Option String) :
    IsRefresh endpoints used (tokenRequest endpoints (refreshForm used account imsAccount)) where
  url := rfl
  body := ⟨_, congrArg (some ∘ Url.Form.encode) (List.append_assoc _ _ _)⟩

/-- A token that a turn got for the refresh token that it found, by the only reply that IAM
gave in it. -/
structure Turn.Traded (c : Client) (t : Turn) (used : Secret) (r : Iam.TokenReply)
    (fresh : IamToken) : Prop where
  found : t.found.refresh? = some used
  /-- It was sent to IAM, and the record is that of the reply. -/
  exchange : ∃ w reply, Iam.IsRefresh c.iam used w ∧ .traded w (.ok reply) ∈ t.events ∧
    t.replies = [reply] ∧ Iam.record? reply = some r
  /-- The new refresh token is the one in the record. -/
  refresh : fresh.refresh = r.refresh.map Secret.mk

/-! ## What one turn does -/

section Turns

variable (c : Client) (b : Conduct) {o : Errand} (s : ClientState) (past : List Event)

/-- A trade gives what its reply holds. -/
theorem Iam.Trade.traded {used : Secret} {account imsAccount : Option String} {fresh : IamToken}
    {before trades after : List Event}
    (h : Iam.Trade c.iam used account imsAccount fresh trades) {t : Turn}
    (hfound : t.found.refresh? = some used) (hevents : t.events = before ++ (trades ++ after))
    (hbefore : ∀ e ∈ before, e.reply? = none) (hafter : ∀ e ∈ after, e.reply? = none) :
    ∃ r, t.Traded c used r fresh := by
  have hreplies : t.replies = trades.filterMap Event.reply? := by
    rw [Turn.replies, hevents, List.filterMap_append, List.filterMap_append,
      List.filterMap_eq_nil_iff.2 hbefore, List.filterMap_eq_nil_iff.2 hafter, List.nil_append,
      List.append_nil]
  obtain ⟨reply, now, r, expiresAt, hread, -⟩ := h
  have hrefresh := Iam.isRefresh_tokenRequest c.iam used account imsAccount
  refine ⟨r, hfound, ⟨_, reply, hrefresh, ?_, hreplies, hread⟩, rfl⟩
  rw [hevents]
  simp

/-- A token that is renewed on the way to a call is got for the refresh token of the old one. -/
theorem traded_of_renewed (h : o.isAuthorized = true) {fresh : IamToken}
    (hfresh : Turn.renewed? c b ⟨o, s, past, watch (c.perform b.world o).run s past⟩ =
      some fresh) :
    ∃ used r,
      Turn.Traded c ⟨o, s, past, watch (c.perform b.world o).run s past⟩ used r fresh := by
  obtain ⟨next, hnext, hperform⟩ := watch_perform_authorized c b s past h
  have hlook := look_current c b s past
  generalize hcourse : watch (c.current b.world).run s past = course at hlook hperform
  generalize watch (c.perform b.world o).run s past = d at hperform hfresh ⊢
  cases hlook with
  | kept seen now hkept =>
    rw [renewed?_of_kept c b s past h d hcourse] at hfresh
    cases hfresh
  | failed seen now old refresh e trades _ huncarried =>
    rw [renewed?_eq c b s past h d hcourse] at hfresh
    cases hfresh
  | renewed seen now old used fresh' trades hrenew htrade =>
    rw [renewed?_of_trade c b s past h d hcourse htrade] at hfresh
    obtain rfl := Option.some.inj hfresh
    obtain ⟨hold, hused⟩ := renewable?_eq_some c hrenew
    have hd : d = next _ _ _ := hperform
    obtain ⟨sent, hhistory, hsent, -, -⟩ := hnext (some (.iam fresh'))
      { s with credential := some (.iam fresh'), handed := fresh' :: s.handed }
      (past ++ ((seen ++ [now]).map .looked ++ trades))
    rw [← hd, List.append_assoc] at hhistory
    have hfound : s.refresh? = some used := by simp [ClientState.refresh?, hold, hused]
    have hevents : Turn.events ⟨o, s, past, d⟩ =
        (seen ++ [now]).map .looked ++ (trades ++ sent) := by
      rw [Turn.events, hhistory, List.drop_left, List.append_assoc]
    -- neither looks at the clock nor calls are replies of IAM
    refine ⟨used, htrade.traded c hfound hevents (fun e he => ?_) fun e he => ?_⟩
    · obtain ⟨moment, -, rfl⟩ := List.mem_map.1 he
      rfl
    · obtain ⟨call, outcome, -, rfl⟩ := hsent e he
      rfl

/-- A token of another account is got for the refresh token of the old one. -/
theorem traded_of_selected {account : String} {imsAccount : Option String} {fresh : IamToken}
    (hfresh : Turn.gained? ⟨.accountSelection account imsAccount, s, past,
      watch (c.perform b.world (.accountSelection account imsAccount)).run s past⟩ =
        some fresh) :
    ∃ used r, Turn.Traded c ⟨.accountSelection account imsAccount, s, past,
      watch (c.perform b.world (.accountSelection account imsAccount)).run s past⟩
        used r fresh := by
  obtain ⟨answer, trades, hrun, htraded, -⟩ :=
    watch_accountSelection c b s past account imsAccount
  rw [hrun] at hfresh ⊢
  cases answer with
  | error e => cases hfresh
  | ok fresh' =>
    obtain rfl := Option.some.inj hfresh
    obtain ⟨old, used, hold, hused, htrade⟩ := htraded fresh' rfl
    have hfound : s.refresh? = some used := by simp [ClientState.refresh?, hold, hused]
    refine ⟨used, htrade.traded c hfound ?_ (by simp : ∀ e ∈ [], _) (by simp : ∀ e ∈ [], _)⟩
    rw [Turn.events]
    simp [installed]

/-- Whatever a turn is for, but for a login, its IAM tokens are got for the refresh token
that it found. -/
theorem traded_of_granted (h : ∀ form, o ≠ .iamLogin form) {fresh : IamToken}
    (hfresh : fresh ∈
      Turn.granted c b ⟨o, s, past, watch (c.perform b.world o).run s past⟩) :
    ∃ used r,
      Turn.Traded c ⟨o, s, past, watch (c.perform b.world o).run s past⟩ used r fresh := by
  rw [Turn.granted, List.mem_append, Option.mem_toList, Option.mem_toList] at hfresh
  rcases hfresh with hrenewed | hgained
  · cases hauthorized : o.isAuthorized with
    | true => exact traded_of_renewed c b s past hauthorized hrenewed
    | false =>
      simp [Turn.renewed?, hauthorized] at hrenewed
  · cases o with
    | accountSelection account imsAccount => exact traded_of_selected c b s past hgained
    | iamLogin form => exact absurd rfl (h form)
    | call asked => cases hgained
    | refresh => cases hgained
    | portalLogin username password question answer => cases hgained
    | sessionRenewal userId token => cases hgained
    | adoption credential => cases hgained
    | iamAccounts => cases hgained

/-- A turn that gives the owner no credential leaves the one that it found, or a token that
it got. -/
theorem Turn.Lawful.kept_or_granted {t : Turn} (h : t.Lawful c b)
    (hquiet : ∀ credential, t.course.result ≠ .ok (some credential)) :
    (t.granted c b = [] ∧ t.held c b = t.found.credential ∧
        t.course.state.credential = t.found.credential) ∨
      ∃ fresh, t.granted c b = [fresh] ∧ t.course.state.credential = some (.iam fresh) := by
  have hgained : t.gained? = none := by
    unfold Turn.gained?
    split
    · rename_i fresh _ hresult
      exact absurd hresult (hquiet _)
    · rfl
  rw [h.left_eq_held hquiet, Turn.granted, Turn.held, hgained]
  cases t.renewed? c b with
  | none => exact .inl ⟨rfl, rfl, rfl⟩
  | some fresh => exact .inr ⟨fresh, rfl, rfl⟩

theorem result_bind_none_ne_some {α : Type} (x : ClientM Watched α) (credential : Credential) :
    (watch (do let _ ← x; return none : ClientM Watched (Option Credential)).run s past).result ≠
      .ok (some credential) := by
  rw [watch_run_bind, Course.andThen]
  cases (watch x.run s past).result with
  | error e => simp
  | ok a => simp

/-- An errand that keeps to IAM leaves the credential that it found, or a token that it got. -/
theorem kept_or_granted (h : o.keepsIam = true) :
    let t : Turn := ⟨o, s, past, watch (c.perform b.world o).run s past⟩
    (t.granted c b = [] ∧ t.held c b = s.credential ∧
        t.course.state.credential = s.credential) ∨
      ∃ fresh, t.granted c b = [fresh] ∧ t.course.state.credential = some (.iam fresh) := by
  have hlawful := lawful_perform c b s past o
  cases o with
  | call asked => exact hlawful.kept_or_granted c b (result_bind_none_ne_some s past _)
  | refresh => exact hlawful.kept_or_granted c b (result_bind_none_ne_some s past _)
  | iamAccounts => exact hlawful.kept_or_granted c b (result_bind_none_ne_some s past _)
  | accountSelection account imsAccount =>
    obtain ⟨answer, trades, hrun, -⟩ := watch_accountSelection c b s past account imsAccount
    rw [hrun] at hlawful ⊢
    cases answer with
    | error e => exact hlawful.kept_or_granted c b nofun
    | ok fresh => exact .inr ⟨fresh, rfl, rfl⟩
  | portalLogin username password question answer => cases h
  | sessionRenewal userId token => cases h
  | adoption credential => cases h
  | iamLogin form => cases h

theorem ne_iamLogin_of_keepsIam (h : o.keepsIam = true) (form : List (String × String)) :
    o ≠ .iamLogin form := by
  rintro rfl
  cases h

/-- If a turn got a token, the reply for it had a refresh token. -/
def Turn.IsReplenished (t : Turn) : Prop :=
  t.granted c b ≠ [] → ∀ reply ∈ t.replies, ∀ r ∈ Iam.record? reply, r.refresh.isSome = true

/-- A client that can replace its token still can after a turn exactly if the turn got no
token, or got one with a refresh token. -/
theorem refresh?_isSome_iff (h : o.keepsIam = true) (hs : s.refresh?.isSome = true) :
    let t : Turn := ⟨o, s, past, watch (c.perform b.world o).run s past⟩
    t.course.state.refresh?.isSome = true ↔ t.IsReplenished c b := by
  intro t
  rcases kept_or_granted c b s past h with ⟨hnone, -, hleft⟩ | ⟨fresh, hsome, hleft⟩
  · refine iff_of_true ?_ fun hgot => absurd hnone hgot
    rw [ClientState.refresh?, hleft]
    exact hs
  · obtain ⟨used, r, -, ⟨_, reply, -, -, hreply, hread⟩, hrefresh⟩ :=
      traded_of_granted c b s past (ne_iamLogin_of_keepsIam h)
        (hsome ▸ List.mem_cons_self : fresh ∈ t.granted c b)
    have hreplies : t.replies = [reply] := hreply
    have hgot : t.granted c b ≠ [] := by
      rw [show t.granted c b = [fresh] from hsome]
      nofun
    have hleft : t.course.state.refresh? = r.refresh.map Secret.mk := by
      rw [ClientState.refresh?, hleft]
      exact hrefresh
    rw [hleft, Option.isSome_map, Turn.IsReplenished, hreplies]
    constructor
    · intro hr _ reply' hreply' r' hr'
      obtain rfl := List.mem_singleton.1 hreply'
      obtain rfl := Option.some.inj (hread.symm.trans hr')
      exact hr
    · intro hall
      exact hall hgot reply List.mem_cons_self r hread

/-- A turn in which the credential stays, no token is got and calls go out with what there is. -/
structure Turn.KeepsTo (held : Option Credential) (t : Turn) : Prop where
  granted : t.granted c b = []
  left : t.course.state.credential = held
  sent : ∀ r outcome, .carried r outcome ∈ t.events → ∃ call,
    t.errand.call? = some call ∧ r = c.authorized (c.request call) held

/-- Without a refresh token nothing is replaced. -/
theorem keepsTo_of_refresh?_eq_none (h : o.keepsIam = true) (hs : s.refresh? = none) :
    Turn.KeepsTo c b s.credential ⟨o, s, past, watch (c.perform b.world o).run s past⟩ := by
  rcases kept_or_granted c b s past h with ⟨hnone, hheld, hleft⟩ | ⟨fresh, hsome, -⟩
  · refine ⟨hnone, hleft, fun r outcome hmem => ?_⟩
    obtain ⟨call, -, hcall, hr, -⟩ := (lawful_perform c b s past o).sent r outcome hmem
    rw [hheld] at hr
    exact ⟨call, hcall, hr⟩
  · obtain ⟨used, r, hfound, -⟩ := traded_of_granted c b s past (ne_iamLogin_of_keepsIam h)
      (hsome ▸ List.mem_cons_self : fresh ∈ _)
    have hfound : s.refresh? = some used := hfound
    rw [hs] at hfound
    cases hfound

end Turns

/-! ## Runs -/

section Runs

variable (c : Client) (b : Conduct) {errands : List Errand} (s : ClientState)
  (past : List Event)

theorem traded_turns (h : ∀ o ∈ errands, o.keepsIam = true) :
    ∀ t ∈ c.turns b errands s past, ∀ fresh ∈ t.granted c b, ∃ used r,
      t.Traded c used r fresh ∧ t.course.state.credential = some (.iam fresh) := by
  induction errands generalizing s past with
  | nil => exact fun t ht => absurd ht List.not_mem_nil
  | cons o rest ih =>
    obtain ⟨ho, hrest⟩ := List.forall_mem_cons.1 h
    refine List.forall_mem_cons.2 ⟨fun fresh hfresh => ?_, ih _ _ hrest⟩
    obtain ⟨used, r, htraded⟩ :=
      traded_of_granted c b s past (ne_iamLogin_of_keepsIam ho) hfresh
    refine ⟨used, r, htraded, ?_⟩
    rcases kept_or_granted c b s past ho with ⟨hnone, -⟩ | ⟨fresh', hsome, hleft⟩
    · rw [hnone] at hfresh
      cases hfresh
    · rw [hsome, List.mem_singleton] at hfresh
      rw [hfresh]
      exact hleft

theorem refresh?_isSome_turns_iff (h : ∀ o ∈ errands, o.keepsIam = true)
    (hs : s.refresh?.isSome = true) :
    (∀ t ∈ c.turns b errands s past, t.course.state.refresh?.isSome = true) ↔
      ∀ t ∈ c.turns b errands s past, t.IsReplenished c b := by
  induction errands generalizing s past with
  | nil => simp [Client.turns]
  | cons o rest ih =>
    obtain ⟨ho, hrest⟩ := List.forall_mem_cons.1 h
    rw [Client.turns, List.forall_mem_cons, List.forall_mem_cons]
    exact (and_congr_right fun hleft => ih _ _ hrest hleft).trans
      (and_congr_left' (refresh?_isSome_iff c b s past ho hs))

theorem keepsTo_turns (h : ∀ o ∈ errands, o.keepsIam = true) (hs : s.refresh? = none) :
    ∀ t ∈ c.turns b errands s past, t.KeepsTo c b s.credential := by
  induction errands generalizing s past with
  | nil => exact fun t ht => absurd ht List.not_mem_nil
  | cons o rest ih =>
    obtain ⟨ho, hrest⟩ := List.forall_mem_cons.1 h
    have hfirst := keepsTo_of_refresh?_eq_none c b s past ho hs
    refine List.forall_mem_cons.2 ⟨hfirst, ?_⟩
    -- the rest starts with the same credential
    have hleft := hfirst.left
    dsimp only at hleft
    rw [← hleft]
    refine ih _ _ hrest ?_
    rw [ClientState.refresh?, hleft]
    exact hs

theorem pairwise_turns (h : ∀ o ∈ errands, o.keepsIam = true) :
    (c.turns b errands s past).Pairwise fun t u =>
      t.course.state.refresh? = none → u.KeepsTo c b t.course.state.credential := by
  induction errands generalizing s past with
  | nil => exact .nil
  | cons o rest ih =>
    obtain ⟨-, hrest⟩ := List.forall_mem_cons.1 h
    exact .cons (fun u hu hlost => keepsTo_turns c b _ _ hrest hlost u hu) (ih _ _ hrest)

end Runs

/-- A client with an IAM token that can be replaced is called, and selects accounts.  Each
token that it gets for its refresh token is installed with the refresh token of the reply, or
without one if the reply has none.  The client stays able to replace its token exactly as long
as the replies have refresh tokens, and once it is not, it goes on with the last token, whether
that has ended or not. -/
theorem Client.refreshable_iff (c : Client) (b : Conduct) {errands : List Errand}
    (s : ClientState) (past : List Event) (h : ∀ o ∈ errands, o.keepsIam = true)
    (hs : s.refresh?.isSome = true) :
    let turns := c.turns b errands s past
    (∀ t ∈ turns, ∀ fresh ∈ t.granted c b, ∃ used r, t.Traded c used r fresh ∧
        t.course.state.credential = some (.iam fresh) ∧
        (fresh.refresh = some ((r.refresh.map Secret.mk).getD used) ↔
          r.refresh.isSome = true)) ∧
      ((∀ t ∈ turns, t.course.state.refresh?.isSome = true) ↔
        ∀ t ∈ turns, t.IsReplenished c b) ∧
      turns.Pairwise fun t u =>
        t.course.state.refresh? = none → u.KeepsTo c b t.course.state.credential := by
  intro turns
  refine ⟨fun t ht fresh hfresh => ?_, refresh?_isSome_turns_iff c b s past h hs,
    pairwise_turns c b s past h⟩
  obtain ⟨used, r, htraded, hleft⟩ := traded_turns c b s past h t ht fresh hfresh
  refine ⟨used, r, htraded, hleft, ?_⟩
  rw [htraded.refresh]
  cases r.refresh with
  | none => exact iff_of_false nofun nofun
  | some q => exact iff_of_true rfl rfl

/-- A client whose token is about to end, with an IAM that gives new refresh tokens. -/
theorem Client.refreshable_iff_chain :
    let c : Client :=
      ⟨WireFormat.rest.endpoint, .rest, 1000, none, true, "test", .standard, 60, .standard⟩
    let body := "\x7b\"access_token\":\"b\",\"refresh_token\":\"q\",\"expiration\":1000\x7d"
    let b := Iam.desk body (.ofSeconds 2000)
    let s : ClientState :=
      .start (some (.iam ⟨⟨"a"⟩, some ⟨"r"⟩, some (.ofSeconds 1000), none, none⟩)) 10
    let errands : List Errand := [.refresh, .accountSelection "acc" none]
    (∀ o ∈ errands, o.keepsIam = true) ∧ s.refresh?.isSome = true ∧
      (watch (c.performAll b.world errands) s []).state.handed.map IamToken.refresh =
        [some ⟨"q"⟩, some ⟨"q"⟩] ∧
      ((∀ t ∈ c.turns b errands s [], t.course.state.refresh?.isSome = true) ↔
        ∀ t ∈ c.turns b errands s [], t.IsReplenished c b) := by
  intro c body b s errands
  have herrands : ∀ o ∈ errands, o.keepsIam = true := by
    simp [errands, Errand.keepsIam]
  exact ⟨herrands, rfl, by decide +kernel, (refreshable_iff c b s [] herrands rfl).2.1⟩

/-- A reply without a refresh token takes the one that was used away: the token that ends
next is not replaced any more, though it has ended. -/
theorem Client.refresh_token_lost :
    let c : Client :=
      ⟨WireFormat.rest.endpoint, .rest, 1000, none, true, "test", .standard, 60, .standard⟩
    let b := Iam.desk "\x7b\"access_token\":\"b\",\"expiration\":1000\x7d" (.ofSeconds 2000)
    let s : ClientState :=
      .start (some (.iam ⟨⟨"a"⟩, some ⟨"r"⟩, some (.ofSeconds 1000), none, none⟩)) 10
    let lost : IamToken := ⟨⟨"b"⟩, none, some (.ofSeconds 1000), none, none⟩
    (watch (c.performAll b.world [.refresh]) s []).state.credential = some (.iam lost) ∧
      lost.needsRefresh (.ofSeconds 2000) c.skew = true ∧
      (watch (c.performAll b.world [.refresh, .refresh]) s []).state.credential =
        some (.iam lost) ∧
      (watch (c.performAll b.world [.refresh, .refresh]) s []).state.handed = [lost] := by
  decide +kernel

end CloudClient
