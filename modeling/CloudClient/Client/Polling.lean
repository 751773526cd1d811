import CloudClient.Client.Pager

/-!
# Polling — a listing whose pages take time

A consumer polls a listing for its next item.  If that item is on a page that is still on
its way, the poll gives nothing yet, and the consumer comes back later or not at all.  A
page is asked for by the first poll that needs it.

* `Consumer.step` is one poll, and `Consumer.run` a sequence of polls.
* `Outcomes.serve` gives the same pages without delay.
-/

namespace CloudClient

/-- What the fetches of a listing give, one after the other. -/
abbrev Outcomes := Nat → CallResult

/-- Gives a page at once, and writes down where it starts and its size. -/
def Outcomes.serve (outcomes : Outcomes) (offset limit : Nat) :
    StateM (List (Nat × Nat)) CallResult :=
  fun asked => (outcomes asked.length, asked ++ [(offset, limit)])

/-- Whether a listing has its next item, or its end, at hand. -/
def Pager.isReady (p : Pager) : Bool := !p.buffer.isEmpty || p.done

/-- What is at hand is given without a fetch. -/
theorem Pager.poll_of_isReady {p : Pager} (h : p.isReady = true) {m : Type → Type} [Monad m]
    (fetch : Nat → Nat → m CallResult) : p.poll fetch = pure p.shift := if_pos h

/-- With nothing at hand, the next item is on the next page. -/
theorem Pager.poll_of_not_isReady {p : Pager} (h : p.isReady = false) {m : Type → Type}
    [Monad m] (fetch : Nat → Nat → m CallResult) :
    p.poll fetch = fetch p.offset p.limit >>= fun
      | .ok r => pure (p.absorb r).shift
      | .error e => pure (some (.error e), { p with done := true }) :=
  if_neg (Bool.eq_false_iff.1 h)

/-- A consumer of a listing, who polls it for items. -/
structure Consumer where
  pager : Pager
  /-- Whether a page is on its way. -/
  waiting : Bool
  /-- The pages asked for: where each of them starts, and its size. -/
  asked : List (Nat × Nat)
  /-- What the polls gave that were answered: an item, or none at the end. -/
  given : List (Option (Except Failure Json))

namespace Consumer

def start (p : Pager) : Consumer := ⟨p, false, [], []⟩

/-- Asks for the next page, unless it is on its way. -/
def ask (c : Consumer) : Consumer :=
  if c.waiting then c
  else { c with waiting := true, asked := c.asked ++ [(c.pager.offset, c.pager.limit)] }

/-- Gives the next item; if it is not at hand, the page asked for last has arrived. -/
def answer (outcomes : Outcomes) (c : Consumer) : Consumer :=
  let (item, pager) := Id.run (c.pager.poll fun _ _ => outcomes (c.asked.length - 1))
  { c with pager := pager, given := c.given ++ [item] }

/-- One poll.  `arrived` tells whether a page that it has to wait for has arrived. -/
def step (outcomes : Outcomes) (c : Consumer) (arrived : Bool) : Consumer :=
  if c.pager.isReady then c.answer outcomes
  else if arrived then { c.ask.answer outcomes with waiting := false }
  else c.ask

def run (outcomes : Outcomes) (c : Consumer) (polls : List Bool) : Consumer :=
  polls.foldl (step outcomes) c

/-! ## Laws -/

@[simp] theorem run_nil (outcomes : Outcomes) (c : Consumer) : c.run outcomes [] = c := rfl

@[simp] theorem run_cons (outcomes : Outcomes) (c : Consumer) (arrived : Bool)
    (polls : List Bool) :
    c.run outcomes (arrived :: polls) = (c.step outcomes arrived).run outcomes polls := rfl

@[simp] theorem start_given (p : Pager) : (start p).given = [] := rfl

@[simp] theorem start_waiting (p : Pager) : (start p).waiting = false := rfl

variable (outcomes : Outcomes) (c : Consumer)

@[simp] theorem ask_pager : c.ask.pager = c.pager := by
  unfold ask
  split <;> rfl

@[simp] theorem ask_waiting : c.ask.waiting = true := by
  unfold ask
  split
  · assumption
  · rfl

@[simp] theorem ask_given : c.ask.given = c.given := by
  unfold ask
  split <;> rfl

theorem length_ask_asked : c.ask.asked.length = c.asked.length + (!c.waiting).toNat := by
  unfold ask
  split
  · simp [*]
  · simp [*]

@[simp] theorem answer_waiting : (c.answer outcomes).waiting = c.waiting := rfl

theorem step_ready {c : Consumer} (h : c.pager.isReady = true) (arrived : Bool) :
    c.step outcomes arrived = c.answer outcomes := by simp [step, h]

theorem step_arrived {c : Consumer} (h : c.pager.isReady = false) :
    c.step outcomes true = { c.ask.answer outcomes with waiting := false } := by
  simp [step, h]

theorem step_pending {c : Consumer} (h : c.pager.isReady = false) :
    c.step outcomes false = c.ask := by simp [step, h]

/-- A poll whose page has arrived is answered. -/
theorem length_step_given : (c.step outcomes true).given.length = c.given.length + 1 := by
  cases h : c.pager.isReady with
  | true => simp [step_ready outcomes h, answer]
  | false => simp [step_arrived outcomes h, answer]

end Consumer

end CloudClient
