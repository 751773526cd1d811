import CloudClient.Client

/-!
# Watch — a client whose surroundings are written down

Every theorem about runs of a client looks at them from outside: everything that the
client does outside is an event, and a conduct says how the outside answers, whatever
has happened so far.  A conduct is any function of the history, so that a theorem about
all conducts is one about every service, every IAM and every clock.

* `Conduct.world` is the surroundings that keep to a conduct and write events down.
* `watch` runs an act of a client from a state and a history on.
* `Adds` bounds the events that an act may add to a history.
-/

namespace CloudClient

/-- Something that a client does outside, with what came of it. -/
inductive Event where
  | carried (request : Request) (outcome : CallResult)
  | traded (request : WireRequest) (outcome : Except (Breakdown × String) HttpReply)
  | looked (now : Moment)

def Event.method? : Event → Option String
  | .carried r _ => some r.method
  | _ => none

/-- How the outside answers, given everything that has happened, oldest first. -/
structure Conduct where
  service : List Event → Request → CallResult
  network : List Event → WireRequest → Except (Breakdown × String) HttpReply
  clock : List Event → Moment

/-- Acts outside that leave a history. -/
abbrev Watched := StateM (List Event)

/-- Surroundings that keep to a conduct. -/
def Conduct.world (b : Conduct) : Surroundings Watched where
  transport r := fun past =>
    let outcome := b.service past r
    (outcome, past ++ [.carried r outcome])
  network w := fun past =>
    let outcome := b.network past w
    (outcome, past ++ [.traded w outcome])
  clock := fun past =>
    let now := b.clock past
    (now, past ++ [.looked now])

/-- What an act of a client comes to. -/
structure Course (α : Type) where
  result : α
  state : ClientState
  history : List Event

/-- Goes on from the result of a course, from the state and the history that it leaves; a
failure is the end. -/
def Course.andThen {α β : Type} (c : Course (Except Failure α))
    (next : α → ClientState → List Event → Course (Except Failure β)) :
    Course (Except Failure β) :=
  match c.result with
  | .ok a => next a c.state c.history
  | .error e => ⟨.error e, c.state, c.history⟩

/-- Runs an act from a state and a history on. -/
def watch {α : Type} (act : StateT ClientState Watched α) (s : ClientState)
    (past : List Event) : Course α :=
  let ((result, state), history) := act s past
  ⟨result, state, history⟩

/-! ## Laws -/

section Laws

variable {α β : Type} {s : ClientState} {past : List Event}

@[simp] theorem watch_pure (a : α) :
    watch (pure a : StateT ClientState Watched α) s past = ⟨a, s, past⟩ := rfl

@[simp] theorem watch_bind (x : StateT ClientState Watched α)
    (f : α → StateT ClientState Watched β) :
    watch (x >>= f) s past =
      watch (f (watch x s past).result) (watch x s past).state (watch x s past).history := rfl

/-- An act that may fail goes on from a result and stops at a failure. -/
theorem watch_run_bind (x : ClientM Watched α) (f : α → ClientM Watched β) :
    watch (x >>= f).run s past =
      (watch x.run s past).andThen fun a => watch (f a).run := by
  change watch (x.run >>= ExceptT.bindCont f) s past = _
  rw [watch_bind, Course.andThen]
  -- the rest of a failed act only hands the failure on
  cases (watch x.run s past).result <;> rfl

end Laws

/-! ## Events that an act adds -/

section Adds

variable {α β : Type} {P Q : Event → Prop}

/-- Every event that an act outside adds to a history is one of some kind. -/
def Leaves (P : Event → Prop) (act : Watched α) : Prop :=
  ∀ past, ∃ events, (act past).2 = past ++ events ∧ ∀ e ∈ events, P e

/-- Every event that an act of a client adds to a history is one of some kind. -/
def Adds (P : Event → Prop) (act : StateT ClientState Watched α) : Prop :=
  ∀ s, Leaves P (act s)

namespace Leaves

theorem pure (a : α) : Leaves P (pure a) :=
  fun past => ⟨[], (List.append_nil past).symm, by simp⟩

theorem bind {x : Watched α} {f : α → Watched β} (hx : Leaves P x)
    (hf : ∀ a, Leaves P (f a)) : Leaves P (x >>= f) := by
  intro past
  obtain ⟨first, hfirst, hP⟩ := hx past
  obtain ⟨rest, hrest, hQ⟩ := hf (x past).1 (x past).2
  refine ⟨first ++ rest, ?_, fun e he => ?_⟩
  · change (f (x past).1 (x past).2).2 = _
    rw [hrest, hfirst, List.append_assoc]
  · exact (List.mem_append.1 he).elim (hP e) (hQ e)

theorem one {act : Watched α} (e : List Event → Event) (h : ∀ past, P (e past))
    (hact : ∀ past, (act past).2 = past ++ [e past]) : Leaves P act :=
  fun past => ⟨[e past], hact past, by simpa using h past⟩

end Leaves

namespace Adds

theorem pure (a : α) : Adds P (pure a) := fun _ => Leaves.pure _

theorem bind {x : StateT ClientState Watched α} {f : α → StateT ClientState Watched β}
    (hx : Adds P x) (hf : ∀ a, Adds P (f a)) : Adds P (x >>= f) := by
  intro s
  change Leaves P (x s >>= fun p => f p.1 p.2)
  exact (hx s).bind fun p => hf p.1 p.2

theorem lift {act : Watched α} (h : Leaves P act) : Adds P (StateT.lift act) :=
  fun _ => h.bind fun _ => Leaves.pure _

/-- The same as `bind` for acts that may fail. -/
theorem run_bind {x : ClientM Watched α} {f : α → ClientM Watched β} (hx : Adds P x.run)
    (hf : ∀ a, Adds P (f a).run) : Adds P (x >>= f).run := by
  change Adds P (x.run >>= ExceptT.bindCont f)
  refine hx.bind fun outcome => ?_
  cases outcome with
  | ok a => exact hf a
  | error e => exact Adds.pure _

theorem change (f : ClientState → ClientState) :
    Adds P (Client.change f : ClientM Watched Unit).run :=
  fun _ => Leaves.pure _

theorem mono {x : StateT ClientState Watched α} (hx : Adds P x) (h : ∀ e, P e → Q e) :
    Adds Q x := by
  intro s past
  obtain ⟨events, hevents, hP⟩ := hx s past
  exact ⟨events, hevents, fun e he => h e (hP e he)⟩

theorem history {x : StateT ClientState Watched α} (hx : Adds P x) (s : ClientState)
    (past : List Event) :
    ∃ events, (watch x s past).history = past ++ events ∧ ∀ e ∈ events, P e :=
  hx s past

end Adds

end Adds

end CloudClient
