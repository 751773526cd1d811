import CloudClient.Proofs.Exchanges
import CloudClient.Proofs.Sharing
import CloudClient.Proofs.Tokens

/-!
# Custody — the credential over whole runs

An owner asks a client for one operation after the other: calls, logins, selections of an
account.  Each of them may fail at any exchange.  A run is looked at turn by turn, each
turn with what it found, what it left and everything that happened in it.

* `look_current`: the ways in which looking for the credential ends.
* `lawful_perform`: what one turn does to the credential.
* `Client.custody`: the owner gets every IAM token that is installed, a turn that fails
  takes nothing away, tokens keep their accounts, and no call goes out with a token that
  was to be replaced.
-/

namespace CloudClient

/-! ## Errands -/

/-- What an owner asks of a client. -/
inductive Errand where
  | call (call : Call)
  /-- A look for the current credential, without a call. -/
  | refresh
  | portalLogin (username : String) (password : Secret) (question : Option Int)
    (answer : Option String)
  /-- A trade of a session token for a new one. -/
  | sessionRenewal (userId : Int) (token : Secret)
  /-- A login with a credential got elsewhere, such as a session token. -/
  | adoption (credential : Credential)
  /-- A login to IAM by a form, for a password or a passcode. -/
  | iamLogin (form : List (String × String))
  | iamAccounts
  /-- A trade of the installed IAM token for one of another account. -/
  | accountSelection (account : String) (imsAccount : Option String)

namespace Errand

def call? : Errand → Option Call
  | .call asked => some asked
  | .portalLogin username password question answer =>
    some ⟨"User_Customer", "getPortalLoginToken",
      [.str username, .str password.exposed, .opt .int question, .opt .str answer],
      { CallOptions.none with id := none }⟩
  | .sessionRenewal userId token =>
    some ⟨"User_Employee", "refreshEncryptedToken", [.str token.exposed],
      { CallOptions.none with id := some userId }⟩
  | _ => none

/-- Whether an operation looks for the current credential. -/
def isAuthorized : Errand → Bool
  | .refresh => true
  | o => o.call?.isSome

/-- Whether an operation asks IAM for a token on the owner's behalf. -/
def asksIam : Errand → Bool
  | .iamLogin _ | .accountSelection .. => true
  | _ => false

end Errand

namespace Client

variable {m : Type → Type} [Monad m]

/-- Does an operation and gives the credential that the owner gets from it. -/
def perform (c : Client) (world : Surroundings m) : Errand → ClientM m (Option Credential)
  | .call call => do
    let _ ← c.exchange world call
    return none
  | .refresh => do
    let _ ← c.current world
    return none
  | .portalLogin username password question answer => do
    let (userId, token) ← c.loginToPortal world username password question answer
    return some (.session userId token)
  | .sessionRenewal userId token => do
    let fresh ← c.renewSession world userId token
    return some (.session userId fresh)
  | .adoption credential => do
    setCredential (some credential)
    return some credential
  | .iamLogin form => do
    let t ← c.loginToIam world form
    return some (.iam t)
  | .iamAccounts => do
    let _ ← c.iamAccounts world
    return none
  | .accountSelection account imsAccount => do
    let t ← c.selectAccount world account imsAccount
    return some (.iam t)

/-- Does operations one after the other, failing ones among them. -/
def performAll (c : Client) (world : Surroundings m) :
    List Errand → StateT ClientState m (List (Except Failure (Option Credential)))
  | [] => return []
  | o :: rest => do
    let result ← (c.perform world o).run
    let results ← performAll c world rest
    return result :: results

end Client

/-! ## Turns -/

def Event.moment? : Event → Option Moment
  | .looked now => some now
  | _ => none

def Event.isTrade : Event → Bool
  | .traded .. => true
  | _ => false

/-- An operation of a run, with where it started and what it came to. -/
structure Turn where
  errand : Errand
  found : ClientState
  past : List Event
  /-- What it came to. -/
  course : Course (Except Failure (Option Credential))

namespace Turn

def events (t : Turn) : List Event := t.course.history.drop t.past.length

/-- The moment at which the client judged its credential: its last look at the clock before
it did anything else. -/
def judgedAt? (t : Turn) : Option Moment :=
  (t.events.takeWhile fun e => e.moment?.isSome).getLast?.bind Event.moment?

/-- The token that the client got from IAM while it was looking for its credential. -/
def renewed? (c : Client) (b : Conduct) (t : Turn) : Option IamToken :=
  let found := watch (c.current b.world).run t.found t.past
  match t.errand.isAuthorized, found.result with
  | true, .ok (some (.iam fresh)) =>
    if (found.history.drop t.past.length).any Event.isTrade then some fresh else none
  | _, _ => none

/-- The token that the owner got from a login to IAM or from the selection of an account. -/
def gained? (t : Turn) : Option IamToken :=
  match t.errand.asksIam, t.course.result with
  | true, .ok (some (.iam fresh)) => some fresh
  | _, _ => none

/-- The IAM tokens that a turn installs, first first. -/
def granted (c : Client) (b : Conduct) (t : Turn) : List IamToken :=
  (t.renewed? c b).toList ++ t.gained?.toList

/-- The credential that the calls of a turn go out with. -/
def held (c : Client) (b : Conduct) (t : Turn) : Option Credential :=
  match t.renewed? c b with
  | some fresh => some (.iam fresh)
  | none => t.found.credential

end Turn

def Client.turns (c : Client) (b : Conduct) : List Errand → ClientState → List Event → List Turn
  | [], _, _ => []
  | o :: rest, s, past =>
    let course := watch (c.perform b.world o).run s past
    ⟨o, s, past, course⟩ :: turns c b rest course.state course.history

theorem Client.watch_performAll_cons (c : Client) (b : Conduct) (o : Errand)
    (rest : List Errand) (s : ClientState) (past : List Event) :
    let course := watch (c.perform b.world o).run s past
    let later := watch (c.performAll b.world rest) course.state course.history
    watch (c.performAll b.world (o :: rest)) s past =
      ⟨course.result :: later.result, later.state, later.history⟩ := rfl

/-! ## Looking for the credential -/

section Look

variable (c : Client) (b : Conduct) (s : ClientState) (past : List Event)

/-- The ways in which looking for the credential ends. -/
inductive Look (c : Client) (s : ClientState) (past : List Event) :
    Course (Except Failure (Option Credential)) → Prop
  /-- The credential need not be replaced, or cannot be. -/
  | kept (seen : List Moment) (now : Moment) (h : c.renewable? now s.credential = none) :
    Look c s past ⟨.ok s.credential, s, past ++ (seen ++ [now]).map .looked⟩
  /-- The token is replaced by one with the same accounts. -/
  | renewed (seen : List Moment) (now : Moment) (old : IamToken) (refresh : Secret)
    (fresh : IamToken) (trades : List Event)
    (h : c.renewable? now s.credential = some (old, refresh))
    (trade : Iam.Trade c.iam refresh old.account old.imsAccount fresh trades) :
    Look c s past ⟨.ok (some (.iam fresh)),
      { s with credential := some (.iam fresh), handed := fresh :: s.handed },
      past ++ ((seen ++ [now]).map .looked ++ trades)⟩
  /-- The token has to be replaced and is not. -/
  | failed (seen : List Moment) (now : Moment) (old : IamToken) (refresh : Secret) (e : Failure)
    (trades : List Event) (h : c.renewable? now s.credential = some (old, refresh))
    (uncarried : ∀ t ∈ trades, t.method? = none) :
    Look c s past ⟨.error e, s, past ++ ((seen ++ [now]).map .looked ++ trades)⟩

theorem Iam.Trade.any_isTrade {endpoints : IamEndpoints} {refresh : Secret}
    {account imsAccount : Option String} {fresh : IamToken} {trades : List Event}
    (h : Iam.Trade endpoints refresh account imsAccount fresh trades) :
    trades.any Event.isTrade = true := by
  cases h
  rfl

theorem Iam.Trade.head?_moment? {endpoints : IamEndpoints} {refresh : Secret}
    {account imsAccount : Option String} {fresh : IamToken} {trades : List Event}
    (h : Iam.Trade endpoints refresh account imsAccount fresh trades) :
    ∀ e ∈ trades.head?, e.moment? = none := by
  cases h
  simp [Event.moment?]

theorem renewable?_of_not_isExpiring {now : Moment} {held : Option Credential}
    (h : c.isExpiring now held = false) : c.renewable? now held = none := by
  rcases held with _ | credential
  · rfl
  · cases credential with
    | iam t =>
      have ht : t.needsRefresh now c.skew = false := h
      simp [Client.renewable?, ht]
    | basic username apiKey => rfl
    | session userId token => rfl

theorem renewable?_eq_some {now : Moment} {held : Option Credential} {old : IamToken}
    {refresh : Secret} (h : c.renewable? now held = some (old, refresh)) :
    held = some (.iam old) ∧ old.refresh = some refresh := by
  rcases held with _ | credential
  · cases h
  · cases credential with
    | iam t =>
      simp only [Client.renewable?] at h
      split at h
      · obtain ⟨_, hrefresh, hpair⟩ := Option.map_eq_some_iff.1 h
        obtain ⟨rfl, rfl⟩ := Prod.mk.inj hpair
        exact ⟨rfl, hrefresh⟩
      · cases h
    | basic username apiKey => cases h
    | session userId token => cases h

theorem look_current : Look c s past (watch (c.current b.world).run s past) := by
  rw [Shared.watch_current]
  cases hexpiring : c.isExpiring (b.clock past) s.credential with
  | false =>
    have hkept := renewable?_of_not_isExpiring c hexpiring
    exact .kept [] (b.clock past) hkept
  | true =>
    rw [if_pos rfl]
    dsimp only
    -- a credential that is about to end is judged once more
    generalize hfirst : b.clock past = first
    generalize b.clock (past ++ [.looked first]) = now
    have hlooks : past ++ [Event.looked first] ++ [.looked now] =
        past ++ ([first] ++ [now]).map .looked := by
      rw [List.append_assoc]
      rfl
    rw [hlooks]
    cases hrenew : c.renewable? now s.credential with
    | none => exact .kept [first] now hrenew
    | some found =>
      obtain ⟨old, refresh⟩ := found
      dsimp only
      rcases refreshToken_cases b (past ++ ([first] ++ [now]).map .looked) c.iam refresh
        old.account old.imsAccount with
        ⟨e, trades, hanswer, huncarried⟩ | ⟨fresh, trades, hanswer, htrade⟩
      · rw [hanswer, List.append_assoc]
        exact .failed [first] now old refresh e trades hrenew huncarried
      · rw [hanswer, List.append_assoc]
        exact .renewed [first] now old refresh fresh trades hrenew htrade

end Look

/-! ## What one turn does -/

section Perform

variable (c : Client) (b : Conduct) {o : Errand} {call : Call} (s : ClientState)
  (past : List Event)

/-- What is left of an errand after its call: the credential got from the reply is
installed. -/
def conclude (gained : Except Failure (Option Credential)) (s : ClientState)
    (past : List Event) : Course (Except Failure (Option Credential)) :=
  match gained with
  | .ok (some credential) => ⟨gained, { s with credential := some credential }, past⟩
  | _ => ⟨gained, s, past⟩

@[simp] theorem history_conclude (gained : Except Failure (Option Credential))
    (s : ClientState) (past : List Event) : (conclude gained s past).history = past := by
  rcases gained with e | _ | credential <;> rfl

@[simp] theorem handed_conclude (gained : Except Failure (Option Credential))
    (s : ClientState) (past : List Event) :
    (conclude gained s past).state.handed = s.handed := by
  rcases gained with e | _ | credential <;> rfl

theorem credential_conclude (gained : Except Failure (Option Credential)) (s : ClientState)
    (past : List Event) :
    (conclude gained s past).state.credential =
      match (conclude gained s past).result with
      | .ok (some credential) => some credential
      | _ => s.credential := by
  rcases gained with e | _ | credential <;> rfl

/-- An errand with a call makes the call, reads the reply and installs what it has read. -/
theorem watch_perform_call (h : o.call? = some call) :
    ∃ read : Response → Except Failure (Option Credential),
      watch (c.perform b.world o).run s past =
        (watch (c.exchange b.world call).run s past).andThen fun r => conclude (read r) := by
  cases o with
  | call asked =>
    obtain rfl := Option.some.inj h
    refine ⟨fun _ => .ok none, ?_⟩
    rw [Client.perform, watch_run_bind]
    rfl
  | portalLogin username password question answer =>
    obtain rfl := Option.some.inj h
    refine ⟨fun r => (Client.sessionOfReply "SoftLayer_User_Customer.getPortalLoginToken"
      r.value).map fun p => some (.session p.1 p.2), ?_⟩
    simp only [Client.perform, Client.loginToPortal, Client.callValue, map_eq_pure_bind,
      bind_assoc, pure_bind]
    rw [watch_run_bind]
    congr 1
    funext r t later
    -- the reply decides whether there is something to install
    simp only [watch_run_bind]
    cases Client.sessionOfReply "SoftLayer_User_Customer.getPortalLoginToken" r.value with
    | error e => rfl
    | ok p => rfl
  | sessionRenewal userId token =>
    obtain rfl := Option.some.inj h
    refine ⟨fun r => (Client.longestText? r.value).elim
      (.error (.malformed "SoftLayer_User_Employee.refreshEncryptedToken" "reply holds no token"))
      fun fresh => .ok (some (.session userId ⟨fresh⟩)), ?_⟩
    simp only [Client.perform, Client.renewSession, Client.callValue, map_eq_pure_bind,
      bind_assoc, pure_bind]
    rw [watch_run_bind]
    congr 1
    funext r t later
    cases Client.longestText? r.value with
    | none => rfl
    | some fresh => rfl
  | refresh => cases h
  | adoption credential => cases h
  | iamLogin form => cases h
  | iamAccounts => cases h
  | accountSelection account imsAccount => cases h

/-- What happens in an errand once its credential is known: the calls go out with it, the
owner gets nothing new, and the credential stays unless the errand got one. -/
def GoesOn (o : Errand) (next : Option Credential → ClientState → List Event →
    Course (Except Failure (Option Credential))) : Prop :=
  ∀ held s past, ∃ sent,
    (next held s past).history = past ++ sent ∧
    (∀ e ∈ sent, ∃ call outcome, o.call? = some call ∧
      e = .carried (c.authorized (c.request call) held) outcome) ∧
    (next held s past).state.handed = s.handed ∧
    (next held s past).state.credential =
      match (next held s past).result with
      | .ok (some credential) => some credential
      | _ => s.credential

theorem goesOn_send (read : Response → Except Failure (Option Credential))
    (h : o.call? = some call) :
    GoesOn c o fun held s past =>
      (watch (c.send b.world (c.authorized (c.request call) held)).run s past).andThen
        fun r => conclude (read r) := by
  intro held s past
  dsimp only
  generalize hq : c.authorized (c.request call) held = q
  obtain ⟨k, -, hsend⟩ := c.watch_send b q s past
  rw [hsend]
  -- whether the last attempt fails or not, what went out are the attempts up to it
  refine ⟨Conduct.attempts q (b.outcome q past) (k + 1), ?_, fun e he => ?_, ?_⟩
  · rw [Course.andThen]
    cases b.outcome q past k with
    | error e => rfl
    | ok r => exact history_conclude _ _ _
  · obtain ⟨i, -, rfl⟩ := List.mem_map.1 he
    exact ⟨call, _, h, by rw [hq]⟩
  · rw [Course.andThen]
    cases b.outcome q past k with
    | error e => exact ⟨rfl, rfl⟩
    | ok r => exact ⟨handed_conclude _ _ _, credential_conclude _ _ _⟩

/-- An errand with a call looks for the credential and goes on with it, and so does one
that only looks. -/
theorem watch_perform_authorized (h : o.isAuthorized = true) :
    ∃ next, GoesOn c o next ∧
      watch (c.perform b.world o).run s past =
        (watch (c.current b.world).run s past).andThen next := by
  cases hcall : o.call? with
  | some call =>
    obtain ⟨read, hperform⟩ := watch_perform_call c b s past hcall
    refine ⟨_, goesOn_send c b read hcall, ?_⟩
    rw [hperform, Client.exchange, watch_run_bind]
    simp only [Course.andThen]
    cases (watch (c.current b.world).run s past).result with
    | ok held => rfl
    | error e => rfl
  | none =>
    -- an errand that looks without a call is a look
    have hrefresh : o = .refresh := by
      cases o with
      | refresh => rfl
      | call asked => cases hcall
      | portalLogin username password question answer => cases hcall
      | sessionRenewal userId token => cases hcall
      | adoption credential => cases h
      | iamLogin form => cases h
      | iamAccounts => cases h
      | accountSelection account imsAccount => cases h
    subst hrefresh
    refine ⟨fun _ t later => ⟨.ok none, t, later⟩, fun held t later => ?_, ?_⟩
    · exact ⟨[], (List.append_nil later).symm, by simp, rfl, rfl⟩
    · rw [Client.perform, watch_run_bind]
      rfl

end Perform

/-! ## Requests with a token -/

/-- A request for a call that goes out with an IAM token: the access token stands in its last
HTTP header, and among the headers that either format prepares. -/
structure Bears (format : WireFormat) (call : Call) (token : IamToken) (r : Request) : Prop where
  httpHeaders : r.httpHeaders =
    call.options.rawHeaders ++ [("Authorization", "Bearer " ++ token.access.exposed)]
  prepared : ∀ p, format.prepare r = .ok p →
    ("Authorization", "Bearer " ++ token.access.exposed) ∈ p.headers

theorem mem_headers_of_prepare {format : WireFormat} {r : Request} {p : PreparedRequest}
    (h : format.prepare r = .ok p) {header : String × String} (hheader : header ∈ r.httpHeaders) :
    header ∈ p.headers := by
  have hbase (contentType : String) : header ∈ Http.baseHeaders r contentType :=
    List.mem_append_right _ hheader
  cases format with
  | xmlRpc =>
    rw [WireFormat.prepare, XmlRpc.prepare, Except.ok.injEq] at h
    rw [← h]
    exact hbase "application/xml"
  | rest =>
    rw [WireFormat.prepare, Rest.prepare] at h
    cases hurl : Rest.url r with
    | error e =>
      rw [hurl] at h
      cases h
    | ok u =>
      rw [hurl, Except.map, Except.ok.injEq] at h
      rw [← h]
      exact List.mem_append_left _ (hbase "application/json")

/-- An IAM token puts its access token into the requests that it authorizes. -/
theorem bears_authorized (c : Client) (call : Call) {held : Option Credential}
    (token : IamToken) (h : held = some (.iam token)) :
    Bears c.format call token (c.authorized (c.request call) held) := by
  subst h
  have hheaders : (c.authorized (c.request call) (some (.iam token))).httpHeaders =
      call.options.rawHeaders ++ [("Authorization", "Bearer " ++ token.access.exposed)] := rfl
  refine ⟨hheaders, fun p hp => mem_headers_of_prepare hp ?_⟩
  rw [hheaders]
  exact List.mem_append_right _ (List.mem_singleton_self _)

/-! ## Lawful turns -/

/-- What is promised of a turn. -/
structure Turn.Lawful (c : Client) (b : Conduct) (t : Turn) : Prop where
  /-- The owner gets the IAM tokens that the turn installs, in order, and nothing else. -/
  handed : t.course.state.handed.reverse = t.found.handed.reverse ++ t.granted c b
  /-- The credential that the turn got is installed; if it got none or failed, the one that
  calls go out with is. -/
  left : t.course.state.credential =
    match t.course.result with
    | .ok (some credential) => some credential
    | _ => t.held c b
  /-- A token is replaced by one with its accounts. -/
  renewal : ∀ fresh, t.renewed? c b = some fresh →
    ∃ old, t.found.credential = some (.iam old) ∧ fresh.account = old.account ∧
      fresh.imsAccount = old.imsAccount
  /-- A selection gives a token of the account that was asked for. -/
  selection : ∀ account imsAccount fresh, t.errand = .accountSelection account imsAccount →
    t.gained? = some fresh → fresh.account = some account ∧ fresh.imsAccount = imsAccount
  /-- Calls go out with the credential that the client held when it judged it, and with a
  new token where the old one was to be replaced. -/
  sent : ∀ r outcome, .carried r outcome ∈ t.events → ∃ call now,
    t.errand.call? = some call ∧ r = c.authorized (c.request call) (t.held c b) ∧
      c.Says call r ∧
      (∀ token, t.held c b = some (.iam token) → Bears c.format call token r) ∧
      t.judgedAt? = some now ∧
      ∀ old refresh, t.found.credential = some (.iam old) → old.refresh = some refresh →
        old.needsRefresh now c.skew = true → ∃ fresh, t.renewed? c b = some fresh

section Lawful

variable (c : Client) (b : Conduct) {o : Errand} (s : ClientState) (past : List Event)

theorem renewable?_of_needsRefresh {now : Moment} {old : IamToken} {refresh : Secret}
    (hrefresh : old.refresh = some refresh) (h : old.needsRefresh now c.skew = true) :
    c.renewable? now (some (.iam old)) = some (old, refresh) := by
  simp [Client.renewable?, h, hrefresh]

theorem asksIam_of_isAuthorized (h : o.isAuthorized = true) : o.asksIam = false := by
  cases o with
  | iamLogin form => cases h
  | accountSelection account imsAccount => cases h
  | _ => rfl

/-- A turn that starts with looks at the clock is judged at the last of them. -/
theorem judgedAt?_looks {t : Turn} {seen : List Moment} {now : Moment} {rest : List Event}
    (h : t.events = (seen ++ [now]).map .looked ++ rest)
    (hrest : ∀ e ∈ rest.head?, e.moment? = none) : t.judgedAt? = some now := by
  have hlooks : ∀ e ∈ (seen ++ [now]).map Event.looked, e.moment?.isSome = true := by
    intro e he
    obtain ⟨moment, -, rfl⟩ := List.mem_map.1 he
    rfl
  have hend : rest.takeWhile (fun e => e.moment?.isSome) = [] := by
    cases rest with
    | nil => rfl
    | cons e rest => simp [hrest e rfl]
  rw [Turn.judgedAt?, h, List.takeWhile_append_of_pos hlooks, hend]
  simp [Event.moment?]

theorem renewed?_eq (h : o.isAuthorized = true)
    (d : Course (Except Failure (Option Credential)))
    {course : Course (Except Failure (Option Credential))}
    (hcourse : watch (c.current b.world).run s past = course) :
    Turn.renewed? c b ⟨o, s, past, d⟩ =
      match course.result with
      | .ok (some (.iam fresh)) =>
        if (course.history.drop past.length).any Event.isTrade then some fresh else none
      | _ => none := by
  simp only [Turn.renewed?, h, hcourse]
  rcases course.result with e | _ | credential
  · rfl
  · rfl
  · cases credential <;> rfl

/-- A look without a trade renews nothing, even if the credential is an IAM token. -/
theorem renewed?_of_kept (h : o.isAuthorized = true)
    (d : Course (Except Failure (Option Credential))) {moments : List Moment}
    (hcourse : watch (c.current b.world).run s past =
      ⟨.ok s.credential, s, past ++ moments.map .looked⟩) :
    Turn.renewed? c b ⟨o, s, past, d⟩ = none := by
  have hno : (moments.map Event.looked).any Event.isTrade = false := by
    simp [Event.isTrade]
  rw [renewed?_eq c b s past h d hcourse, List.drop_left, hno]
  rcases s.credential with _ | credential
  · rfl
  · cases credential <;> rfl

/-- A look with a trade renews the token. -/
theorem renewed?_of_trade (h : o.isAuthorized = true)
    (d : Course (Except Failure (Option Credential))) {looks trades : List Event}
    {s' : ClientState} {refresh : Secret} {account imsAccount : Option String} {fresh : IamToken}
    (hcourse : watch (c.current b.world).run s past =
      ⟨.ok (some (.iam fresh)), s', past ++ (looks ++ trades)⟩)
    (htrade : Iam.Trade c.iam refresh account imsAccount fresh trades) :
    Turn.renewed? c b ⟨o, s, past, d⟩ = some fresh := by
  rw [renewed?_eq c b s past h d hcourse, List.drop_left]
  simp [htrade.any_isTrade]

/-- The calls of a turn are those that go out after its look, and it is judged at the last
moment of the look. -/
theorem sent_of_history {d : Course (Except Failure (Option Credential))}
    {held : Option Credential} {seen : List Moment} {now : Moment} (trades : List Event)
    {sent : List Event}
    (hhistory : d.history = past ++ ((seen ++ [now]).map .looked ++ (trades ++ sent)))
    (huncarried : ∀ t ∈ trades, t.method? = none)
    (hfirst : ∀ e ∈ trades.head?, e.moment? = none)
    (hsent : ∀ e ∈ sent, ∃ call outcome, o.call? = some call ∧
      e = .carried (c.authorized (c.request call) held) outcome) :
    let t : Turn := ⟨o, s, past, d⟩
    t.judgedAt? = some now ∧ ∀ r outcome, .carried r outcome ∈ t.events →
      ∃ call, o.call? = some call ∧ r = c.authorized (c.request call) held := by
  intro t
  have hevents : t.events = (seen ++ [now]).map .looked ++ (trades ++ sent) := by
    rw [Turn.events, hhistory, List.drop_left]
  -- a trade or a call ends the looks, and of all three only calls are carried
  refine ⟨judgedAt?_looks hevents fun e he => ?_, fun r outcome hmem => ?_⟩
  · cases trades with
    | cons trade rest => exact hfirst e he
    | nil =>
      obtain ⟨call, outcome, -, rfl⟩ := hsent e (List.mem_of_mem_head? he)
      rfl
  · rw [hevents, List.mem_append, List.mem_append] at hmem
    rcases hmem with hmem | hmem | hmem
    · obtain ⟨moment, -, hlook⟩ := List.mem_map.1 hmem
      cases hlook
    · cases huncarried _ hmem
    · obtain ⟨call, later, hcall, hcarried⟩ := hsent _ hmem
      exact ⟨call, hcall, (Event.carried.inj hcarried).1⟩

/-- A turn in which no token is replaced is lawful if its calls go out with a credential
that need not or cannot be. -/
theorem lawful_of_not_renewed {d : Course (Except Failure (Option Credential))}
    (hnone : Turn.renewed? c b ⟨o, s, past, d⟩ = none)
    (hhanded : d.state.handed.reverse =
      s.handed.reverse ++ (Turn.gained? ⟨o, s, past, d⟩).toList)
    (hleft : d.state.credential =
      match d.result with
      | .ok (some credential) => some credential
      | _ => s.credential)
    (hselection : ∀ account imsAccount fresh, o = .accountSelection account imsAccount →
      Turn.gained? ⟨o, s, past, d⟩ = some fresh →
        fresh.account = some account ∧ fresh.imsAccount = imsAccount)
    (hsent : ∀ r outcome, .carried r outcome ∈ Turn.events ⟨o, s, past, d⟩ → ∃ call now,
      o.call? = some call ∧ r = c.authorized (c.request call) s.credential ∧
        Turn.judgedAt? ⟨o, s, past, d⟩ = some now ∧ c.renewable? now s.credential = none) :
    Turn.Lawful c b ⟨o, s, past, d⟩ := by
  have hheld : Turn.held c b ⟨o, s, past, d⟩ = s.credential := by rw [Turn.held, hnone]
  refine ⟨?_, ?_, ?_, hselection, fun r outcome hmem => ?_⟩
  · rw [Turn.granted, hnone]
    exact hhanded
  · rw [hheld]
    exact hleft
  · rw [hnone]
    nofun
  · obtain ⟨call, now, hcall, hr, hjudged, hkept⟩ := hsent r outcome hmem
    rw [← hheld] at hr
    refine ⟨call, now, hcall, hr, hr ▸ c.says_authorized call _, hr ▸ bears_authorized c call,
      hjudged, fun old refresh hold href hneeds => ?_⟩
    have hold : s.credential = some (.iam old) := hold
    rw [hold, renewable?_of_needsRefresh c href hneeds] at hkept
    cases hkept

theorem lawful_authorized (h : o.isAuthorized = true) :
    Turn.Lawful c b ⟨o, s, past, watch (c.perform b.world o).run s past⟩ := by
  obtain ⟨next, hnext, hperform⟩ := watch_perform_authorized c b s past h
  have hlook := look_current c b s past
  generalize hcourse : watch (c.current b.world).run s past = course at hlook hperform
  generalize watch (c.perform b.world o).run s past = d at hperform
  have hgained : Turn.gained? ⟨o, s, past, d⟩ = none := by
    simp [Turn.gained?, asksIam_of_isAuthorized h]
  -- one case for each way in which the look ends, as the errand goes on from there
  cases hlook with
  | kept seen now hkept =>
    have hd : d = next s.credential s (past ++ (seen ++ [now]).map .looked) := hperform
    obtain ⟨sent, hhistory, hsent, hhanded, hleft⟩ :=
      hnext s.credential s (past ++ (seen ++ [now]).map .looked)
    rw [← hd] at hhistory hhanded hleft
    rw [List.append_assoc] at hhistory
    have hnone : Turn.renewed? c b ⟨o, s, past, d⟩ = none :=
      renewed?_of_kept c b s past h d hcourse
    obtain ⟨hjudged, hcalls⟩ :=
      sent_of_history c s past [] hhistory (by simp) (by simp) hsent
    refine lawful_of_not_renewed c b s past hnone ?_ hleft ?_ fun r outcome hmem => ?_
    · rw [hhanded, hgained]
      exact (List.append_nil _).symm
    · rw [hgained]
      nofun
    · obtain ⟨call, hcall, hr⟩ := hcalls r outcome hmem
      exact ⟨call, now, hcall, hr, hjudged, hkept⟩
  | renewed seen now old refresh fresh trades hrenew htrade =>
    have hd : d = next _ _ _ := hperform
    obtain ⟨sent, hhistory, hsent, hhanded, hleft⟩ := hnext (some (.iam fresh))
      { s with credential := some (.iam fresh), handed := fresh :: s.handed }
      (past ++ ((seen ++ [now]).map .looked ++ trades))
    rw [← hd] at hhistory hhanded hleft
    rw [List.append_assoc, List.append_assoc] at hhistory
    have hsome : Turn.renewed? c b ⟨o, s, past, d⟩ = some fresh :=
      renewed?_of_trade c b s past h d hcourse htrade
    have hheld : Turn.held c b ⟨o, s, past, d⟩ = some (.iam fresh) := by rw [Turn.held, hsome]
    obtain ⟨hjudged, hcalls⟩ := sent_of_history c s past trades hhistory htrade.uncarried
      htrade.head?_moment? hsent
    refine ⟨?_, ?_, fun fresh' hfresh' => ?_, ?_, fun r outcome hmem => ?_⟩
    · rw [Turn.granted, hsome, hgained, hhanded]
      exact List.reverse_cons
    · rw [hheld]
      exact hleft
    · rw [hsome] at hfresh'
      obtain rfl := Option.some.inj hfresh'
      exact ⟨old, (renewable?_eq_some c hrenew).1, htrade.account_eq, htrade.imsAccount_eq⟩
    · rw [hgained]
      nofun
    · obtain ⟨call, hcall, hr⟩ := hcalls r outcome hmem
      rw [← hheld] at hr
      exact ⟨call, now, hcall, hr, hr ▸ c.says_authorized call _, hr ▸ bears_authorized c call,
        hjudged, fun _ _ _ _ _ => ⟨fresh, hsome⟩⟩
  | failed seen now old refresh e trades _ huncarried =>
    have hd : d = ⟨.error e, s, past ++ ((seen ++ [now]).map .looked ++ trades)⟩ := hperform
    have hleft : d.state.credential =
        match d.result with
        | .ok (some credential) => some credential
        | _ => s.credential := by rw [hd]
    have hnone : Turn.renewed? c b ⟨o, s, past, d⟩ = none := renewed?_eq c b s past h d hcourse
    refine lawful_of_not_renewed c b s past hnone ?_ hleft ?_ fun r outcome hmem => ?_
    · rw [hgained, hd]
      exact (List.append_nil _).symm
    · rw [hgained]
      nofun
    · -- nothing goes out
      have hhistory : d.history = past ++ ((seen ++ [now]).map .looked ++ trades) := by rw [hd]
      rw [Turn.events, hhistory, List.drop_left, List.mem_append] at hmem
      rcases hmem with hmem | hmem
      · obtain ⟨moment, -, hlooked⟩ := List.mem_map.1 hmem
        cases hlooked
      · cases huncarried _ hmem

/-- A turn without calls that keeps the credential, or installs one that is not from IAM. -/
theorem lawful_of_not_asksIam (hauthorized : o.isAuthorized = false) (hasks : o.asksIam = false)
    {result : Except Failure (Option Credential)} {t : ClientState} {trades : List Event}
    (hhanded : t.handed = s.handed)
    (hleft : t.credential =
      match result with
      | .ok (some credential) => some credential
      | _ => s.credential)
    (huncarried : ∀ e ∈ trades, e.method? = none) :
    Turn.Lawful c b ⟨o, s, past, ⟨result, t, past ++ trades⟩⟩ := by
  have hgained : Turn.gained? ⟨o, s, past, ⟨result, t, past ++ trades⟩⟩ = none := by
    simp [Turn.gained?, hasks]
  have hnone : Turn.renewed? c b ⟨o, s, past, ⟨result, t, past ++ trades⟩⟩ = none := by
    simp [Turn.renewed?, hauthorized]
  refine lawful_of_not_renewed c b s past hnone ?_ hleft ?_ fun r outcome hmem => ?_
  · rw [hgained]
    show t.handed.reverse = _
    rw [hhanded]
    exact (List.append_nil _).symm
  · rw [hgained]
    nofun
  · rw [Turn.events, List.drop_left] at hmem
    cases huncarried _ hmem

/-- What comes of an answer of IAM: a token is handed to the owner and installed. -/
def installed (answer : Except Failure IamToken) (s : ClientState) (past : List Event) :
    Course (Except Failure (Option Credential)) :=
  match answer with
  | .ok fresh =>
    ⟨.ok (some (.iam fresh)),
      { s with credential := some (.iam fresh), handed := fresh :: s.handed }, past⟩
  | .error e => ⟨.error e, s, past⟩

theorem watch_attempt_install (act : Watched (Except Failure IamToken)) (s : ClientState)
    (past : List Event) :
    watch (do
      let t ← Client.attemptOutside act
      Client.install t
      return some (.iam t) : ClientM Watched (Option Credential)).run s past =
        installed (act past).1 s (act past).2 := by
  rw [watch_run_bind, Shared.watch_attempt, Course.andThen]
  cases (act past).1 with
  | ok t => rfl
  | error e => rfl

/-- A turn that asks IAM for a token installs the token that it gets. -/
theorem lawful_of_asksIam (hauthorized : o.isAuthorized = false) (hasks : o.asksIam = true)
    {trades : List Event} (huncarried : ∀ e ∈ trades, e.method? = none)
    (answer : Except Failure IamToken)
    (hselection : ∀ account imsAccount fresh, o = .accountSelection account imsAccount →
      answer = .ok fresh → fresh.account = some account ∧ fresh.imsAccount = imsAccount) :
    Turn.Lawful c b ⟨o, s, past, installed answer s (past ++ trades)⟩ := by
  have hnone (d : Course (Except Failure (Option Credential))) :
      Turn.renewed? c b ⟨o, s, past, d⟩ = none := by
    simp [Turn.renewed?, hauthorized]
  have huncarried' (d : Course (Except Failure (Option Credential)))
      (hd : d.history = past ++ trades) (r : Request) (outcome : CallResult) :
      .carried r outcome ∉ Turn.events ⟨o, s, past, d⟩ := by
    intro hmem
    rw [Turn.events, hd, List.drop_left] at hmem
    cases huncarried _ hmem
  cases answer with
  | error e =>
    refine lawful_of_not_renewed c b s past (hnone _) ?_ rfl ?_ fun r outcome hmem =>
      absurd hmem (huncarried' _ rfl r outcome)
    · simp [Turn.gained?, hasks, installed]
    · simp [Turn.gained?, hasks, installed]
  | ok fresh =>
    have hgained : Turn.gained? ⟨o, s, past, installed (.ok fresh) s (past ++ trades)⟩ =
        some fresh := by
      simp [Turn.gained?, hasks, installed]
    refine lawful_of_not_renewed c b s past (hnone _) ?_ rfl ?_ fun r outcome hmem =>
      absurd hmem (huncarried' _ rfl r outcome)
    · rw [hgained]
      exact List.reverse_cons
    · intro account imsAccount fresh' ho hfresh'
      rw [hgained] at hfresh'
      obtain rfl := Option.some.inj hfresh'
      exact hselection account imsAccount fresh ho rfl

theorem watch_iamToken :
    ∃ answer, watch (Client.iamToken : ClientM Watched IamToken).run s past =
      ⟨answer, s, past⟩ ∧ ∀ t, answer = .ok t → s.credential = some (.iam t) := by
  rw [Client.iamToken, watch_run_bind, Shared.watch_credential, Course.andThen]
  rcases s.credential with _ | credential
  · exact ⟨_, rfl, by simp⟩
  · cases credential with
    | iam t => exact ⟨.ok t, rfl, by simp⟩
    | basic username apiKey => exact ⟨_, rfl, by simp⟩
    | session userId token => exact ⟨_, rfl, by simp⟩

/-- A list of accounts changes nothing. -/
theorem watch_iamAccounts :
    ∃ result trades, watch (c.perform b.world .iamAccounts).run s past =
        ⟨result, s, past ++ trades⟩ ∧ (∀ credential, result ≠ .ok (some credential)) ∧
      ∀ e ∈ trades, e.method? = none := by
  simp only [Client.perform, Client.iamAccounts, bind_assoc]
  obtain ⟨answer, htoken, -⟩ := watch_iamToken s past
  rw [watch_run_bind, htoken, Course.andThen]
  cases answer with
  | error e => exact ⟨.error e, [], by rw [List.append_nil], by simp, by simp⟩
  | ok t =>
    dsimp only
    rw [watch_run_bind, Shared.watch_attempt, Course.andThen]
    rcases httpSend_cases b past Iam.accountsOperation (Iam.accountsRequest c.iam t.access) with
      ⟨e, trades, -, hsend, hnone⟩ | ⟨reply, hsend⟩
    · -- either way the list is the last thing that happens
      have hrequest : Iam.requestAccounts b.world.network c.iam t.access past =
          (.error e, past ++ trades) := by
        simp only [Iam.requestAccounts, bind, StateT.bind] at hsend ⊢
        rw [hsend]
        rfl
      rw [hrequest]
      exact ⟨.error e, trades, rfl, by simp, fun t ht => (hnone t ht).1⟩
    · have hrequest : Iam.requestAccounts b.world.network c.iam t.access past =
          (Iam.accountsOfReply reply,
            past ++ [.traded (Iam.accountsRequest c.iam t.access) (.ok reply)]) := by
        simp only [Iam.requestAccounts, bind, StateT.bind] at hsend ⊢
        rw [hsend]
        rfl
      rw [hrequest]
      cases Iam.accountsOfReply reply with
      | error e => exact ⟨.error e, _, rfl, by simp, by simp [Event.method?]⟩
      | ok accounts => exact ⟨.ok none, _, rfl, by simp, by simp [Event.method?]⟩

/-- A selection of an account needs an IAM token with a refresh token, and trades it in. -/
theorem watch_accountSelection (account : String) (imsAccount : Option String) :
    ∃ answer trades, watch (c.perform b.world (.accountSelection account imsAccount)).run s past =
        installed answer s (past ++ trades) ∧
      (∀ fresh, answer = .ok fresh → ∃ old used, s.credential = some (.iam old) ∧
        old.refresh = some used ∧
        Iam.Trade c.iam used (some account) imsAccount fresh trades) ∧
      ∀ e ∈ trades, e.method? = none := by
  simp only [Client.perform, Client.selectAccount, bind_assoc]
  obtain ⟨answer, htoken, hheld⟩ := watch_iamToken s past
  rw [watch_run_bind, htoken, Course.andThen]
  cases answer with
  | error e => exact ⟨.error e, [], by rw [List.append_nil]; rfl, by simp, by simp⟩
  | ok t =>
    dsimp only
    cases hused : t.refresh with
    | none =>
      exact ⟨.error (.argument "the IAM token has no refresh token"), [],
        by rw [List.append_nil]; rfl, by simp, by simp⟩
    | some used =>
      simp only [bind_assoc, pure_bind]
      rw [watch_attempt_install]
      rcases refreshToken_cases b past c.iam used (some account) imsAccount with
        ⟨e, trades, hanswer, huncarried⟩ | ⟨fresh, trades, hanswer, htrade⟩
      · rw [hanswer]
        exact ⟨.error e, trades, rfl, by simp, huncarried⟩
      · rw [hanswer]
        refine ⟨.ok fresh, trades, rfl, ?_, htrade.uncarried⟩
        rintro fresh' ⟨⟩
        exact ⟨t, used, hheld t rfl, hused, htrade⟩

/-- Every turn is lawful. -/
theorem lawful_perform (o : Errand) :
    Turn.Lawful c b ⟨o, s, past, watch (c.perform b.world o).run s past⟩ := by
  cases o with
  | call asked => exact lawful_authorized c b s past rfl
  | refresh => exact lawful_authorized c b s past rfl
  | portalLogin username password question answer => exact lawful_authorized c b s past rfl
  | sessionRenewal userId token => exact lawful_authorized c b s past rfl
  | adoption credential =>
    have hrun : watch (c.perform b.world (.adoption credential)).run s past =
        ⟨.ok (some credential), { s with credential := some credential }, past ++ []⟩ := by
      rw [List.append_nil]
      rfl
    rw [hrun]
    exact lawful_of_not_asksIam c b s past rfl rfl rfl rfl (by simp)
  | iamLogin form =>
    have hrun : watch (c.perform b.world (.iamLogin form)).run s past =
        let answer := Iam.requestToken b.world.network b.world.clock c.iam form past
        installed answer.1 s answer.2 := by
      simp only [Client.perform, Client.loginToIam, bind_assoc, pure_bind]
      exact watch_attempt_install _ s past
    rw [hrun]
    rcases requestToken_cases b past c.iam form with
      ⟨e, trades, -, hanswer, hnone⟩ | ⟨reply, now, hanswer⟩
    · rw [hanswer]
      exact lawful_of_asksIam c b s past rfl rfl (fun t ht => (hnone t ht).1) _ (by simp)
    · rw [hanswer]
      exact lawful_of_asksIam c b s past rfl rfl (by simp [Event.method?]) _ (by simp)
  | iamAccounts =>
    obtain ⟨result, trades, hrun, hnothing, huncarried⟩ := watch_iamAccounts c b s past
    rw [hrun]
    refine lawful_of_not_asksIam c b s past rfl rfl rfl ?_ huncarried
    rcases result with e | _ | credential
    · rfl
    · rfl
    · exact absurd rfl (hnothing credential)
  | accountSelection account imsAccount =>
    obtain ⟨answer, trades, hrun, htraded, huncarried⟩ :=
      watch_accountSelection c b s past account imsAccount
    rw [hrun]
    refine lawful_of_asksIam c b s past rfl rfl huncarried answer ?_
    intro account' imsAccount' fresh heq hanswer
    obtain ⟨rfl, rfl⟩ := Errand.accountSelection.inj heq
    obtain ⟨old, used, -, -, htrade⟩ := htraded fresh hanswer
    exact ⟨htrade.account_eq, htrade.imsAccount_eq⟩

end Lawful

/-! ## Runs -/

section Run

variable (c : Client) (b : Conduct)

/-- The owner gets the tokens of all turns, in order. -/
theorem handed_performAll (errands : List Errand) (s : ClientState) (past : List Event) :
    (watch (c.performAll b.world errands) s past).state.handed.reverse =
      s.handed.reverse ++ (c.turns b errands s past).flatMap (Turn.granted c b) := by
  induction errands generalizing s past with
  | nil => exact (List.append_nil _).symm
  | cons o rest ih =>
    have hfirst := (lawful_perform c b s past o).handed
    rw [Client.watch_performAll_cons, ih, Client.turns, List.flatMap_cons, hfirst,
      List.append_assoc]

theorem lawful_turns (errands : List Errand) (s : ClientState) (past : List Event) :
    ∀ t ∈ c.turns b errands s past, t.Lawful c b := by
  induction errands generalizing s past with
  | nil => exact fun t ht => absurd ht List.not_mem_nil
  | cons o rest ih =>
    exact List.forall_mem_cons.2 ⟨lawful_perform c b s past o, ih _ _⟩

/-- The owner is told how each turn ended. -/
theorem result_performAll (errands : List Errand) (s : ClientState) (past : List Event) :
    (watch (c.performAll b.world errands) s past).result =
      (c.turns b errands s past).map fun t => t.course.result := by
  induction errands generalizing s past with
  | nil => rfl
  | cons o rest ih => rw [Client.watch_performAll_cons, Client.turns, List.map_cons, ih]

end Run

/-- A turn that gives the owner no credential leaves the one that calls go out with. -/
theorem Turn.Lawful.left_eq_held {c : Client} {b : Conduct} {t : Turn} (h : t.Lawful c b)
    (hquiet : ∀ credential, t.course.result ≠ .ok (some credential)) :
    t.course.state.credential = t.held c b := by
  have hleft := h.left
  split at hleft
  · rename_i credential hresult
    exact absurd hresult (hquiet credential)
  · exact hleft

/-- A failing turn takes nothing away: the client is left with what it found, or with the
token that it got when it looked for its credential. -/
theorem Turn.Lawful.left_of_error {c : Client} {b : Conduct} {t : Turn} (h : t.Lawful c b)
    {e : Failure} (herror : t.course.result = .error e) :
    t.course.state.credential = t.found.credential ∨
      ∃ fresh, t.renewed? c b = some fresh ∧ t.course.state.credential = some (.iam fresh) := by
  rw [h.left_eq_held (by simp [herror]), Turn.held]
  cases t.renewed? c b with
  | none => exact .inl rfl
  | some fresh => exact .inr ⟨fresh, rfl, rfl⟩

/-- Over every run, whatever fails in it, the owner is handed the IAM tokens that turns
install, each once and in order; and every turn keeps its promises. -/
theorem Client.custody (c : Client) (b : Conduct) (errands : List Errand) (s : ClientState)
    (past : List Event) :
    let run := watch (c.performAll b.world errands) s past
    let turns := c.turns b errands s past
    run.state.handed.reverse = s.handed.reverse ++ turns.flatMap (Turn.granted c b) ∧
      run.result = turns.map (fun t => t.course.result) ∧
      ∀ t ∈ turns, t.Lawful c b ∧ ∀ e, t.course.result = .error e →
        t.course.state.credential = t.found.credential ∨
          ∃ fresh, t.renewed? c b = some fresh ∧
            t.course.state.credential = some (.iam fresh) := by
  intro run turns
  refine ⟨handed_performAll c b errands s past, result_performAll c b errands s past, ?_⟩
  intro t ht
  have hlawful : t.Lawful c b := lawful_turns c b errands s past t ht
  exact ⟨hlawful, fun e herror => hlawful.left_of_error herror⟩

end CloudClient
