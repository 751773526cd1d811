import CloudClient.Client

/-!
# Sharing — many callers, one credential

Callers that ask one client for its current credential at the same time.  Each of them
goes through the stages of `Client.current`: it looks at the credential, waits for the
lock if it has to be replaced, looks again, trades the token in, hands the new token to
the owner of the client, installs it, looks a last time, and gives the lock back.
Between two stages any other caller may move, and the credential may be set from
outside without the lock.

* `Shared.step` is one move, and `Shared.run` a sequence of moves.
* `Shared.exchanges` tells which exchanges with IAM were made, by whom, and with which
  result.
-/

namespace CloudClient

/-- Where a caller stands that asks for the current credential. -/
inductive Stage where
  | start
  /-- It has seen a credential that is about to end and waits for the lock. -/
  | waiting
  /-- It holds the lock and has not looked again. -/
  | locked
  | trading (token : IamToken) (refresh : Secret)
  /-- It holds the lock and has a new token that nobody knows of. -/
  | handing (fresh : IamToken)
  /-- It holds the lock and has handed its new token to the owner. -/
  | installing (fresh : IamToken)
  /-- It holds the lock, has installed its token and looks a last time. -/
  | looking
  | releasing (result : Except Failure (Option Credential))
  | done (result : Except Failure (Option Credential))

def Stage.result? : Stage → Option (Except Failure (Option Credential))
  | .done result => some result
  | _ => none

def Stage.holdsLock : Stage → Bool
  | .start | .waiting | .done _ => false
  | _ => true

structure Exchange where
  caller : Nat
  token : IamToken
  result : Except Failure IamToken

/-- What callers share, and where each of them stands. -/
structure Shared where
  credential : Option Credential
  holder : Option Nat
  /-- The exchanges with IAM, last first. -/
  exchanges : List Exchange
  /-- The tokens handed to the owner, last first. -/
  handed : List IamToken
  callers : List Stage

inductive Move where
  /-- A caller goes on at some moment; if it trades a token in, IAM gives `reply`. -/
  | caller (index : Nat) (now : Moment) (reply : Except Failure IamToken)
  /-- The credential is set from outside, or cleared. -/
  | setCredential (credential : Option Credential)

namespace Shared

/-- Callers that have not looked yet, and an installed credential. -/
def start (credential : Option Credential) (callers : Nat) : Shared :=
  ⟨credential, none, [], [], List.replicate callers .start⟩

def place (s : Shared) (i : Nat) (stage : Stage) : Shared :=
  { s with callers := s.callers.set i stage }

/-- The next stage of a caller that looks without the lock. -/
def look (c : Client) (now : Moment) (held : Option Credential) : Stage :=
  if c.isExpiring now held then .waiting else .done (.ok held)

/-- The next stage of a caller that looks with the lock. -/
def lookAgain (c : Client) (now : Moment) (held : Option Credential) : Stage :=
  match c.renewable? now held with
  | some (token, refresh) => .trading token refresh
  | none => .releasing (.ok held)

def traded : Except Failure IamToken → Stage
  | .ok fresh => .handing fresh
  | .error e => .releasing (.error e)

/-- A caller goes on from a stage; none if it has to wait or has returned. -/
def advance (c : Client) (s : Shared) (i : Nat) (now : Moment) (reply : Except Failure IamToken) :
    Stage → Option Shared
  | .start => some (s.place i (look c now s.credential))
  | .waiting =>
    match s.holder with
    | none => some { s.place i .locked with holder := some i }
    | some _ => none
  | .locked => some (s.place i (lookAgain c now s.credential))
  | .trading token _ =>
    some { s.place i (traded reply) with exchanges := ⟨i, token, reply⟩ :: s.exchanges }
  | .handing fresh => some { s.place i (.installing fresh) with handed := fresh :: s.handed }
  | .installing fresh => some { s.place i .looking with credential := some (.iam fresh) }
  | .looking => some (s.place i (.releasing (.ok s.credential)))
  | .releasing result => some { s.place i (.done result) with holder := none }
  | .done _ => none

/-- One move; none if it cannot be made. -/
def step (c : Client) (s : Shared) : Move → Option Shared
  | .caller i now reply =>
    match s.callers[i]? with
    | some stage => s.advance c i now reply stage
    | none => none
  | .setCredential credential => some { s with credential := credential }

def run (c : Client) (s : Shared) (moves : List Move) : Option Shared :=
  moves.foldlM (step c) s

def isFinished (s : Shared) : Bool := s.callers.all fun stage => stage.result?.isSome

/-! ## Laws -/

@[simp] theorem run_nil (c : Client) (s : Shared) : s.run c [] = some s := rfl

theorem run_cons (c : Client) (s : Shared) (move : Move) (moves : List Move) :
    s.run c (move :: moves) = (s.step c move).bind fun t => t.run c moves := by
  simp [run, List.foldlM_cons]

theorem run_append (c : Client) (s : Shared) (before after : List Move) :
    s.run c (before ++ after) = (s.run c before).bind fun t => t.run c after := by
  simp [run, List.foldlM_append]

end Shared

end CloudClient
