import CloudClient.Proofs.Polling
import Mathlib.Algebra.Order.Floor.Div
import Mathlib.Data.List.Chain
import Mathlib.Data.List.Range
import Mathlib.Data.List.Sort

/-!
# Progress — where the pages of a listing start

A page starts as many items behind the one before it as that one held, so that a listing never
asks for a page twice, whatever it gets.  Offsets have 32 bits, though.  A listing that reaches
the largest of them and gets a full page there asks for the same page again, and goes on so
until a page ends it.

* `Pager.Climbs` says how far the starts of pages climb, and `Pager.climbs_of_isChain` derives
  it from what holds between two pages in a row.
* `Pager.isChain_starts`: the pages that a plan asks for.
* `Consumer.Paced` is what every poll keeps.
* `Consumer.advances_iff`: which listings make progress, and which of them end.
-/

namespace CloudClient

namespace Pager

/-! ## Starts of pages -/

/-- Where a page can start behind a full page that starts at `x`. -/
def Behind (limit x y : Nat) : Prop := min (x + limit) Text.maxU32 ≤ y ∧ y ≤ Text.maxU32

/-- The starts of pages climb from an offset to the largest offset, in no more steps than pages
of one size take, and stay there.  So they increase for good exactly if the largest offset is not
repeated. -/
def Climbs (limit offset : Nat) (starts : List Nat) : Prop :=
  ∃ below repeats, starts = below ++ List.replicate repeats Text.maxU32 ∧
    (below ++ [Text.maxU32]).SortedLT ∧
    below.length ≤ (Text.maxU32 - offset) ⌈/⌉ limit ∧
    (starts.SortedLT ↔ repeats ≤ 1)

/-- A listing of pages that hold items starts at its offset. -/
theorem start_eq {limit : Nat} (hlimit : 0 < limit) (offset : Nat) :
    start limit offset = .ok (between limit offset 0) :=
  if_neg (Nat.pos_iff_ne_zero.1 hlimit)

section Climbs

variable {limit offset : Nat} {starts : List Nat}

theorem Behind.lt {x y : Nat} (h : Behind limit x y) (hlimit : 0 < limit)
    (hx : x < Text.maxU32) : x < y := by
  have hstep := h.1
  omega

theorem Behind.eq_top {y : Nat} (h : Behind limit Text.maxU32 y) : y = Text.maxU32 := by
  obtain ⟨hstep, htop⟩ := h
  omega

/-- A page below the top leaves room for one page more than the next one does. -/
theorem Behind.mul_succ_lt {x y n : Nat} (h : Behind limit x y) (hx : x < Text.maxU32)
    (hn : limit * n < Text.maxU32 - y + limit) :
    limit * (n + 1) < Text.maxU32 - x + limit := by
  obtain ⟨hstep, htop⟩ := h
  rw [Nat.mul_succ]
  rcases Nat.le_total (x + limit) Text.maxU32 with hroom | hroom
  · omega
  · -- the next page starts at the top, and no page has room behind it
    have hnone : limit * n < limit * 1 := by omega
    obtain rfl := Nat.lt_one_iff.1 (Nat.lt_of_mul_lt_mul_left hnone)
    omega

theorem le_ceilDiv_of_mul_lt {n room : Nat} (hlimit : 0 < limit)
    (h : limit * n < room + limit) : n ≤ room ⌈/⌉ limit := by
  rw [Nat.ceilDiv_eq_add_pred_div, Nat.le_div_iff_mul_le hlimit, Nat.mul_comm]
  omega

theorem sortedLT_append_replicate_iff {below : List Nat} {repeats top : Nat}
    (h : (below ++ [top]).SortedLT) :
    (below ++ List.replicate repeats top).SortedLT ↔ repeats ≤ 1 := by
  constructor
  · intro hsorted
    have hnodup := (List.nodup_append.1 hsorted.nodup).2.1
    exact List.nodup_replicate.1 hnodup
  · intro hrepeats
    have hsub : List.Sublist (List.replicate repeats top) [top] :=
      (List.replicate_sublist_replicate top).2 hrepeats
    exact (h.pairwise.sublist (hsub.append_left below)).sortedLT

/-- Behind the top there is only the top. -/
theorem eq_replicate_of_isChain {rest : List Nat}
    (h : (Text.maxU32 :: rest).IsChain (Behind limit)) :
    rest = List.replicate rest.length Text.maxU32 := by
  induction rest with
  | nil => rfl
  | cons next rest ih =>
    obtain ⟨hbehind, hrest⟩ := List.isChain_cons_cons.1 h
    obtain rfl := hbehind.eq_top
    rw [List.length_cons, List.replicate_succ, ← ih hrest]

theorem exists_below_of_isChain (hlimit : 0 < limit) (hoffset : offset ≤ Text.maxU32)
    {rest : List Nat} (h : (offset :: rest).IsChain (Behind limit)) :
    ∃ below repeats, offset :: rest = below ++ List.replicate repeats Text.maxU32 ∧
      (below ++ [Text.maxU32]).SortedLT ∧
      limit * below.length < Text.maxU32 - offset + limit := by
  -- below the top each start adds to those behind it
  induction rest generalizing offset with
  | nil =>
    rcases Nat.lt_or_eq_of_le hoffset with hlt | rfl
    · refine ⟨[offset], 0, rfl, by simpa [List.sortedLT_iff_pairwise] using hlt, ?_⟩
      rw [List.length_singleton]
      omega
    · exact ⟨[], 1, rfl, by simp [List.sortedLT_iff_pairwise], by simpa using hlimit⟩
  | cons next rest ih =>
    rcases Nat.lt_or_eq_of_le hoffset with hlt | rfl
    · obtain ⟨hbehind, hrest⟩ := List.isChain_cons_cons.1 h
      obtain ⟨below, repeats, hstarts, hsorted, hlength⟩ := ih hbehind.2 hrest
      have hhead : ∀ x ∈ (below ++ [Text.maxU32]).head?, next ≤ x := by
        cases below with
        | nil => simpa using hbehind.2
        | cons x below =>
          obtain rfl := (List.cons.inj hstarts).1
          simp
      have hroom := hbehind.mul_succ_lt hlt hlength
      refine ⟨offset :: below, repeats, by rw [hstarts]; rfl, ?_, hroom⟩
      rw [List.cons_append, List.sortedLT_iff_isChain, List.isChain_cons]
      exact ⟨fun x hx => Nat.lt_of_lt_of_le (hbehind.lt hlimit hlt) (hhead x hx),
        hsorted.isChain⟩
    · have htop : ([] ++ [Text.maxU32]).SortedLT := by simp [List.sortedLT_iff_pairwise]
      refine ⟨[], rest.length + 2, ?_, htop, by simpa using hlimit⟩
      rw [eq_replicate_of_isChain h]
      simp [List.replicate_succ]

theorem climbs_of_isChain (hlimit : 0 < limit) (hoffset : offset ≤ Text.maxU32)
    (hhead : ∀ x ∈ starts.head?, x = offset) (h : starts.IsChain (Behind limit)) :
    Climbs limit offset starts := by
  cases starts with
  | nil =>
    refine ⟨[], 0, rfl, by simp [List.sortedLT_iff_pairwise], Nat.zero_le _, ?_⟩
    simp [List.sortedLT_iff_pairwise]
  | cons x rest =>
    obtain rfl := hhead x rfl
    obtain ⟨below, repeats, hstarts, hsorted, hlength⟩ :=
      exists_below_of_isChain hlimit hoffset h
    refine ⟨below, repeats, hstarts, hsorted, le_ceilDiv_of_mul_lt hlimit hlength, ?_⟩
    rw [hstarts]
    exact sortedLT_append_replicate_iff hsorted

/-- Pages whose starts increase for good are few. -/
theorem Climbs.length_le (h : Climbs limit offset starts) (hsorted : starts.SortedLT) :
    starts.length ≤ (Text.maxU32 - offset) ⌈/⌉ limit + 1 := by
  obtain ⟨below, repeats, rfl, -, hlength, hiff⟩ := h
  rw [List.length_append, List.length_replicate]
  exact Nat.add_le_add hlength (hiff.1 hsorted)

end Climbs

/-! ## One page -/

section Page

variable {p : Pager}

/-- The next item of a listing and what is left of it, when its next page has arrived. -/
def arrive (p : Pager) : CallResult → Option (Except Failure Json) × Pager
  | .ok r => (p.absorb r).shift
  | .error e => (some (.error e), { p with done := true })

theorem poll_eq_arrive (h : p.isReady = false) {m : Type → Type} [Monad m]
    (fetch : Nat → Nat → m CallResult) :
    p.poll fetch = fetch p.offset p.limit >>= fun r => pure (p.arrive r) := by
  rw [poll_of_not_isReady h]
  congr 1
  funext r
  cases r <;> rfl

/-- Taking an item out of the buffer does not change where a listing stands. -/
theorem exists_shift_snd (p : Pager) : ∃ buffer, p.shift.2 = { p with buffer := buffer } := by
  unfold shift
  split
  · exact ⟨_, rfl⟩
  · exact ⟨_, rfl⟩

theorem limit_absorb (p : Pager) (r : Response) : (p.absorb r).limit = p.limit := by
  unfold absorb
  split <;> rfl

theorem offset_absorb (hoffset : p.offset ≤ Text.maxU32) (r : Response) :
    (p.absorb r).offset = min (p.offset + countOf (.ok r)) Text.maxU32 := by
  obtain ⟨value, status, total⟩ := r
  cases value with
  | arr items =>
    show min (p.offset + min items.length Text.maxU32) Text.maxU32 =
      min (p.offset + items.length) Text.maxU32
    omega
  | _ => exact (Nat.min_eq_left hoffset).symm

@[simp] theorem limit_arrive (p : Pager) (r : CallResult) :
    (p.arrive r).2.limit = p.limit := by
  cases r with
  | error e => rfl
  | ok r =>
    obtain ⟨buffer, hshift⟩ := (p.absorb r).exists_shift_snd
    rw [arrive, hshift]
    exact limit_absorb p r

/-- The next page starts behind the items of this one, or at the top. -/
theorem offset_arrive (hoffset : p.offset ≤ Text.maxU32) (r : CallResult) :
    (p.arrive r).2.offset = min (p.offset + countOf r) Text.maxU32 := by
  cases r with
  | error e => exact (Nat.min_eq_left hoffset).symm
  | ok r =>
    obtain ⟨buffer, hshift⟩ := (p.absorb r).exists_shift_snd
    rw [arrive, hshift]
    exact offset_absorb hoffset r

/-- A listing goes on only behind a full page. -/
theorem limit_le_countOf {r : CallResult} (h : (p.arrive r).2.done = false) :
    p.limit ≤ countOf r := by
  rcases r with e | ⟨value, status, total⟩
  · cases h
  · obtain ⟨buffer, hshift⟩ := (p.absorb ⟨value, status, total⟩).exists_shift_snd
    rw [arrive, hshift] at h
    cases value with
    | arr items =>
      simp only [absorb, isLast, Bool.or_eq_false_iff, decide_eq_false_iff_not, Nat.not_lt] at h
      exact Nat.le_trans h.2.1 (Nat.min_le_left ..)
    | _ => cases h

theorem behind_arrive (hoffset : p.offset ≤ Text.maxU32) {r : CallResult}
    (h : (p.arrive r).2.done = false) : Behind p.limit p.offset (p.arrive r).2.offset := by
  have hfull := limit_le_countOf h
  rw [offset_arrive hoffset, Behind]
  omega

/-- Polling for an item asks for no page, or for the next one. -/
theorem runs_poll {call : Call} {made : List (Call × CallResult)}
    {a : Option (Except Failure Json) × Pager}
    (h : (p.poll fun offset limit => Plan.call (call.page offset limit)).Runs made a) :
    (made = [] ∧ ∃ buffer, a.2 = { p with buffer := buffer }) ∨
      p.done = false ∧ ∃ r, made = [(call.page p.offset p.limit, r)] ∧ a = p.arrive r := by
  cases hready : p.isReady with
  | true =>
    rw [poll_of_isReady hready] at h
    obtain ⟨rfl, rfl⟩ := Plan.runs_done.1 h
    exact .inl ⟨rfl, p.exists_shift_snd⟩
  | false =>
    rw [poll_eq_arrive hready] at h
    rw [isReady, Bool.or_eq_false_iff] at hready
    obtain ⟨r, rest, rfl, hrest⟩ := Plan.runs_ask.1 h
    obtain ⟨rfl, rfl⟩ := Plan.runs_done.1 hrest
    exact .inr ⟨hready.2, r, rfl, rfl⟩

end Page

/-! ## Pages of a plan -/

/-- A listing asks for its next page first, and for each other page behind the one before; one
that has ended asks for none. -/
theorem isChain_starts {call : Call} {n : Nat} {p : Pager} (hoffset : p.offset ≤ Text.maxU32)
    {made : List (Call × CallResult)} {out : List (Except Failure Json)}
    (hrun : (plan call n p).Runs made out) :
    let starts := made.map fun x => x.1.window.1
    (p.done = true → starts = []) ∧ (∀ x ∈ starts.head?, x = p.offset) ∧
      starts.IsChain (Behind p.limit) := by
  intro starts
  induction n generalizing p made out with
  | zero =>
    obtain ⟨rfl, rfl⟩ := Plan.runs_done.1 hrun
    simp [starts]
  | succ n ih =>
    rw [plan, items, Plan.bind_eq, Plan.runs_bind] at hrun
    obtain ⟨first, ⟨item, q⟩, later, rfl, hpoll, hlater⟩ := hrun
    -- behind the poll, pages are asked for by the listing that it leaves, or none are
    have hq (hoffset : q.offset ≤ Text.maxU32) :
        let starts := later.map fun x => x.1.window.1
        (q.done = true → starts = []) ∧ (∀ x ∈ starts.head?, x = q.offset) ∧
          starts.IsChain (Behind q.limit) := by
      cases item with
      | none =>
        obtain ⟨rfl, rfl⟩ := Plan.runs_done.1 hlater
        simp
      | some item =>
        obtain ⟨rest, hrest, -⟩ := Plan.runs_map.1 hlater
        exact ih hoffset hrest
    rcases runs_poll hpoll with ⟨rfl, buffer, rfl⟩ | ⟨hgoes, r, rfl, hleft⟩
    · exact hq hoffset
    · obtain rfl : q = (p.arrive r).2 := congrArg Prod.snd hleft
      have hnext : (p.arrive r).2.offset ≤ Text.maxU32 := by
        rw [offset_arrive hoffset]
        exact Nat.min_le_right ..
      obtain ⟨hended, hhead, hchain⟩ := hq hnext
      rw [limit_arrive] at hchain
      refine ⟨fun hdone => ?_, fun x hx => (Option.some.inj hx).symm, ?_⟩
      · rw [hgoes] at hdone
        cases hdone
      · show (p.offset :: later.map fun x => x.1.window.1).IsChain (Behind p.limit)
        refine List.isChain_cons.2 ⟨fun x hx => ?_, hchain⟩
        -- a page that ends the listing has none behind it
        cases hdone : (p.arrive r).2.done with
        | true =>
          rw [hended hdone] at hx
          cases hx
        | false =>
          rw [hhead x hx]
          exact behind_arrive hoffset hdone

/-- The pages that a call for a listing leads to, whatever its service answers. -/
theorem climbs_made (c : Client) (b : Conduct) (call : Call) (s : ClientState)
    (past : List Event) (n : Nat) {limit offset : Nat} (hwindow : call.window = (offset, limit))
    (hlimit : 0 < limit) (hoffset : offset ≤ Text.maxU32) :
    Climbs limit offset
      ((c.made b (Procedure.items call n) s past).map fun x => x.1.window.1) := by
  have hpager : call.pager = .ok (between limit offset 0) := by
    rw [← start_eq hlimit, Call.pager]
    exact congrArg (fun w : Nat × Nat => start w.2 w.1) hwindow
  have hrun := c.runs_made b (Procedure.items call n) s past
  obtain ⟨out, hplan, -⟩ := Procedure.runs_items hpager hrun
  obtain ⟨-, hhead, hchain⟩ := isChain_starts (p := between limit offset 0) hoffset hplan
  exact climbs_of_isChain hlimit hoffset hhead hchain

end Pager

/-! ## Pages of a consumer -/

namespace Outcomes

variable {outcomes : Outcomes} {limit : Nat}

/-- Where a page starts: behind the items of all pages before it, or at the top. -/
def page (outcomes : Outcomes) (limit offset k : Nat) : Nat × Nat :=
  (min (offset + outcomes.fetched k) Text.maxU32, limit)

/-- Pages with others behind them are full. -/
theorem limit_le_countOf {k : Nat} (h : outcomes.reaches limit (k + 1) = true) :
    limit ≤ Pager.countOf (outcomes k) := by
  rw [reaches_succ, Bool.and_eq_true, Bool.not_eq_true', endsAt] at h
  rcases hr : outcomes k with e | ⟨value, status, total⟩
  · rw [hr] at h
    cases h.2
  · rw [hr] at h
    cases value with
    | arr items =>
      simp only [Pager.endsWith, Bool.or_eq_false_iff, decide_eq_false_iff_not, Nat.not_lt] at h
      exact h.2.1
    | _ => cases h.2

theorem behind_page {offset k : Nat} (h : outcomes.reaches limit (k + 1) = true) :
    Pager.Behind limit (outcomes.page limit offset k).1 (outcomes.page limit offset (k + 1)).1 := by
  have hfull := limit_le_countOf h
  rw [page, page, fetched_succ, Pager.Behind]
  omega

/-- A page starts behind a full one exactly if that one is not at the top. -/
theorem page_lt_page_iff {offset k : Nat} (hlimit : 0 < limit)
    (h : outcomes.reaches limit (k + 1) = true) :
    (outcomes.page limit offset k).1 < (outcomes.page limit offset (k + 1)).1 ↔
      offset + outcomes.fetched k < Text.maxU32 := by
  have hfull := limit_le_countOf h
  rw [page, page, fetched_succ]
  omega

end Outcomes

namespace Consumer

variable {outcomes : Outcomes} {limit offset : Nat} {c : Consumer} {arrived : Nat}

/-- What is the case for the offsets of a consumer when some pages have arrived. -/
structure Paced (outcomes : Outcomes) (limit offset : Nat) (c : Consumer) (arrived : Nat) :
    Prop where
  next : (c.pager.offset, c.pager.limit) = outcomes.page limit offset arrived
  asked : c.asked = (List.range (arrived + c.waiting.toNat)).map (outcomes.page limit offset)

namespace Paced

theorem start (hoffset : offset ≤ Text.maxU32) :
    (start (Pager.between limit offset 0)).Paced outcomes limit offset 0 where
  next := Prod.ext (Nat.min_eq_left hoffset).symm rfl
  asked := rfl

theorem ask (h : c.Paced outcomes limit offset arrived) :
    c.ask.Paced outcomes limit offset arrived := by
  refine ⟨by simpa using h.next, ?_⟩
  rw [ask_waiting]
  unfold Consumer.ask
  split
  next hwaiting => rw [h.asked, hwaiting]
  next hwaiting =>
    rw [Bool.not_eq_true] at hwaiting
    simp [h.asked, hwaiting, h.next, List.range_succ]

/-- An item at hand changes no offset. -/
theorem answer_of_isReady (h : c.Paced outcomes limit offset arrived)
    (hready : c.pager.isReady = true) :
    (c.answer outcomes).Paced outcomes limit offset arrived := by
  obtain ⟨buffer, hshift⟩ := c.pager.exists_shift_snd
  have hanswer : (c.answer outcomes).pager = { c.pager with buffer := buffer } := by
    rw [answer, Pager.poll_of_isReady hready, ← hshift]
    rfl
  refine ⟨?_, h.asked⟩
  rw [hanswer]
  exact h.next

/-- Behind a page that has arrived, the next one starts behind its items. -/
theorem answer_arrived (h : c.Paced outcomes limit offset arrived) (hwaiting : c.waiting = true)
    (hready : c.pager.isReady = false) :
    Paced outcomes limit offset { c.answer outcomes with waiting := false } (arrived + 1) := by
  have hlength : c.asked.length - 1 = arrived := by
    rw [h.asked, hwaiting, List.length_map, List.length_range]
    rfl
  have hanswer : (c.answer outcomes).pager = (c.pager.arrive (outcomes arrived)).2 := by
    rw [answer, Pager.poll_eq_arrive hready, hlength]
    rfl
  have hstart : c.pager.offset = min (offset + outcomes.fetched arrived) Text.maxU32 :=
    congrArg Prod.fst h.next
  have hoffset : c.pager.offset ≤ Text.maxU32 := by
    rw [hstart]
    exact Nat.min_le_right ..
  constructor
  case next =>
    show ((c.answer outcomes).pager.offset, (c.answer outcomes).pager.limit) = _
    rw [hanswer, Pager.offset_arrive hoffset, Pager.limit_arrive]
    have hlimit : c.pager.limit = limit := congrArg Prod.snd h.next
    rw [hlimit, hstart, Outcomes.page, Outcomes.fetched_succ]
    refine Prod.ext ?_ rfl
    show min (min (offset + outcomes.fetched arrived) Text.maxU32 + _) Text.maxU32 =
      min (offset + (outcomes.fetched arrived + _)) Text.maxU32
    omega
  case asked =>
    show c.asked = _
    rw [h.asked, hwaiting]
    rfl

end Paced

/-- One poll: the next item is at hand, or its page arrives, or it is on its way. -/
theorem paced_step (h : c.Paced outcomes limit offset arrived) (hasArrived : Bool) :
    ∃ now, (c.step outcomes hasArrived).Paced outcomes limit offset now := by
  cases hready : c.pager.isReady with
  | true =>
    rw [step_ready outcomes hready]
    exact ⟨arrived, h.answer_of_isReady hready⟩
  | false =>
    cases hasArrived with
    | false => exact ⟨arrived, by rw [step_pending outcomes hready]; exact h.ask⟩
    | true =>
      refine ⟨arrived + 1, ?_⟩
      rw [step_arrived outcomes hready]
      exact h.ask.answer_arrived (ask_waiting c) (by rwa [ask_pager])

theorem paced_run (h : c.Paced outcomes limit offset arrived) (polls : List Bool) :
    ∃ now, (c.run outcomes polls).Paced outcomes limit offset now := by
  induction polls generalizing c arrived with
  | nil => exact ⟨arrived, h⟩
  | cons hasArrived polls ih =>
    obtain ⟨now, hnow⟩ := paced_step h hasArrived
    exact ih hnow

/-! ## Listings -/

/-- The pages that polls of a listing from an offset lead to. -/
def asking (outcomes : Outcomes) (limit offset : Nat) (polls : List Bool) : List (Nat × Nat) :=
  ((start (Pager.between limit offset 0)).run outcomes polls).asked

theorem asking_eq (hoffset : offset ≤ Text.maxU32) (polls : List Bool) :
    asking outcomes limit offset polls =
      (List.range (asking outcomes limit offset polls).length).map
        (outcomes.page limit offset) := by
  obtain ⟨now, hnow⟩ := paced_run (Paced.start hoffset) polls
  have hasked : asking outcomes limit offset polls = _ := hnow.asked
  rw [hasked, List.length_map, List.length_range]

/-- What holds between the starts of two pages in a row. -/
theorem isChain_starts_iff (hoffset : offset ≤ Text.maxU32) (polls : List Bool)
    (R : Nat → Nat → Prop) :
    ((asking outcomes limit offset polls).map Prod.fst).IsChain R ↔
      ∀ k, k + 1 < (asking outcomes limit offset polls).length →
        R (outcomes.page limit offset k).1 (outcomes.page limit offset (k + 1)).1 := by
  rw [asking_eq hoffset, List.isChain_map, List.isChain_map, List.isChain_range,
    List.length_map, List.length_range]
  exact forall_congr' fun k => by rw [Nat.lt_sub_iff_add_lt]

section Reached

variable (hpositive : 0 < limit) (hlimit : limit ≤ Text.maxU32) (hfits : outcomes.Fits)

include hpositive hlimit hfits

theorem reaches_of_lt_length {k : Nat} {polls : List Bool}
    (hk : k < (asking outcomes limit offset polls).length) : outcomes.reaches limit k = true := by
  obtain ⟨now, hnow⟩ := sound_run hpositive hlimit hfits (Sound.start offset) polls
  exact ((hnow.lt_length_asked_iff hpositive k).1 hk).1

/-- A consumer that takes all items of the pages before asks for the page that they lead to. -/
theorem exists_lt_length_asking (offset : Nat) {k : Nat}
    (hreaches : outcomes.reaches limit k = true) :
    ∃ polls, k < (asking outcomes limit offset polls).length := by
  let polls := List.replicate ((outcomes.listing limit k).length + 1) true
  refine ⟨polls, ?_⟩
  obtain ⟨now, hnow⟩ := sound_run hpositive hlimit hfits (Sound.start offset) polls
  refine (hnow.lt_length_asked_iff hpositive k).2 ⟨hreaches, ?_⟩
  have hgiven := (start (Pager.between limit offset 0)).count_le_length_given outcomes polls
  rw [List.count_replicate_self] at hgiven
  omega

theorem climbs_asking (hoffset : offset ≤ Text.maxU32) (polls : List Bool) :
    Pager.Climbs limit offset ((asking outcomes limit offset polls).map Prod.fst) := by
  refine Pager.climbs_of_isChain hpositive hoffset ?_ ?_
  · -- the first page starts at the offset, since no items are before it
    rw [asking_eq hoffset]
    intro x hx
    cases hlength : (asking outcomes limit offset polls).length with
    | zero => simp [hlength] at hx
    | succ n =>
      rw [hlength, List.range_succ_eq_map] at hx
      obtain rfl := Option.some.inj hx
      exact Nat.min_eq_left hoffset
  · rw [isChain_starts_iff hoffset]
    exact fun k hk => Outcomes.behind_page (reaches_of_lt_length hpositive hlimit hfits hk)

/-- The starts of the pages asked for increase exactly if only the last of them is at the top. -/
theorem sortedLT_starts_iff (hoffset : offset ≤ Text.maxU32) (polls : List Bool) :
    ((asking outcomes limit offset polls).map Prod.fst).SortedLT ↔
      ∀ k, k + 1 < (asking outcomes limit offset polls).length →
        offset + outcomes.fetched k < Text.maxU32 := by
  rw [List.sortedLT_iff_isChain, isChain_starts_iff hoffset]
  refine forall_congr' fun k => imp_congr_right fun hk => ?_
  exact Outcomes.page_lt_page_iff hpositive (reaches_of_lt_length hpositive hlimit hfits hk)

/-- They increase in all runs exactly if no page at the top has another behind it. -/
theorem forall_sortedLT_starts_iff (hoffset : offset ≤ Text.maxU32) :
    (∀ polls, ((asking outcomes limit offset polls).map Prod.fst).SortedLT) ↔
      ∀ k, outcomes.reaches limit (k + 1) = true →
        offset + outcomes.fetched k < Text.maxU32 := by
  simp only [sortedLT_starts_iff hpositive hlimit hfits hoffset]
  constructor
  · intro h k hreaches
    obtain ⟨polls, hk⟩ := exists_lt_length_asking hpositive hlimit hfits offset hreaches
    exact h polls k hk
  · exact fun h polls k hk => h k (reaches_of_lt_length hpositive hlimit hfits hk)

/-- Only a listing that a page ends asks for finitely many pages. -/
theorem bounded_asking_iff (offset : Nat) :
    (∃ most, ∀ polls, (asking outcomes limit offset polls).length ≤ most) ↔
      ∃ k, outcomes.endsAt limit k = true := by
  constructor
  · rintro ⟨most, hmost⟩
    by_contra hends
    -- if no page ends the listing, each page is asked for in some run
    have hreaches : outcomes.reaches limit most = true := by
      rw [Outcomes.reaches, List.all_eq_true]
      exact fun k _ => by simpa using fun hk => hends ⟨k, hk⟩
    obtain ⟨polls, hpolls⟩ := exists_lt_length_asking hpositive hlimit hfits offset hreaches
    exact Nat.not_le_of_lt hpolls (hmost polls)
  · rintro ⟨k, hk⟩
    -- pages behind one that ends the listing are never asked for
    refine ⟨k + 1, fun polls => Nat.le_of_not_lt fun hlonger => ?_⟩
    have hreaches := reaches_of_lt_length hpositive hlimit hfits hlonger
    rw [Outcomes.reaches_succ, hk, Bool.not_true, Bool.and_false] at hreaches
    cases hreaches

end Reached

/-- A listing from an offset on, in pages of at least one item, whatever these hold and whenever
they arrive.  Each page starts behind the items of all pages before it, as far as offsets go, so
that the starts climb to the largest offset and stay there.  They increase in all runs exactly if
no page at the top has another behind it, and then the pages are few.  Finitely many pages are
asked for exactly if one of them ends the listing.  The last part is about the pages that a
client asks a service for. -/
theorem advances_iff (limit offset : Nat) (hpositive : 1 ≤ limit) (hlimit : limit ≤ Text.maxU32)
    (hoffset : offset ≤ Text.maxU32) :
    (∃ p, Pager.start limit offset = .ok p ∧ ∀ outcomes : Outcomes, outcomes.Fits →
      let asked (polls : List Bool) := ((start p).run outcomes polls).asked
      (∀ polls,
        asked polls = (List.range (asked polls).length).map (fun k =>
          (min (offset + outcomes.fetched k) Text.maxU32, limit)) ∧
        Pager.Climbs limit offset ((asked polls).map Prod.fst)) ∧
      ((∀ k, outcomes.reaches limit (k + 1) = true →
          offset + outcomes.fetched k < Text.maxU32) ↔
        ∀ polls, ((asked polls).map Prod.fst).SortedLT ∧
          (asked polls).length ≤ (Text.maxU32 - offset) ⌈/⌉ limit + 1) ∧
      ((∃ most, ∀ polls, (asked polls).length ≤ most) ↔
        ∃ k, outcomes.endsAt limit k = true)) ∧
    ∀ (c : Client) (b : Conduct) (call : Call) (s : ClientState) (past : List Event) (n : Nat),
      call.window = (offset, limit) →
      Pager.Climbs limit offset
        ((c.made b (Procedure.items call n) s past).map fun x => x.1.window.1) := by
  refine ⟨⟨_, Pager.start_eq hpositive offset, fun outcomes hfits =>
    ⟨fun polls => ⟨?_, ?_⟩, ?_, ?_⟩⟩, ?_⟩
  · exact asking_eq hoffset polls
  · exact climbs_asking hpositive hlimit hfits hoffset polls
  · -- the number of pages adds nothing: starts that increase are few anyway
    rw [← forall_sortedLT_starts_iff hpositive hlimit hfits hoffset]
    refine forall_congr' fun polls => ⟨fun hsorted => ⟨hsorted, ?_⟩, And.left⟩
    have hlength := (climbs_asking hpositive hlimit hfits hoffset polls).length_le hsorted
    rwa [List.length_map] at hlength
  · exact bounded_asking_iff hpositive hlimit hfits offset
  · exact fun c b call s past n hwindow =>
      Pager.climbs_made c b call s past n hwindow hpositive hoffset

/-- Two pages, the second at the top. -/
theorem advances_iff_failing :
    let c : Client :=
      ⟨WireFormat.rest.endpoint, .rest, 1000, none, true, "test", .standard, 60, .standard⟩
    let call : Call := ⟨"Account", "getHardware", [],
      { CallOptions.none with limit := some 2, offset := Text.maxU32 - 2 }⟩
    1 ≤ 2 ∧ 2 ≤ Text.maxU32 ∧ Text.maxU32 - 2 ≤ Text.maxU32 ∧ failing.Fits ∧
      (∃ p, Pager.start 2 (Text.maxU32 - 2) = .ok p ∧
        ∀ polls, (((start p).run failing polls).asked.map Prod.fst).SortedLT ∧
          ((start p).run failing polls).asked.length ≤ 2) ∧
      call.window = (Text.maxU32 - 2, 2) ∧
      Pager.Climbs 2 (Text.maxU32 - 2)
        ((c.made (Pager.shelf []) (Procedure.items call 4) ⟨none, [], .empty 10⟩ []).map
          fun x => x.1.window.1) := by
  intro c call
  have hlimit : 2 ≤ Text.maxU32 := by decide
  have hoffset : Text.maxU32 - 2 ≤ Text.maxU32 := Nat.sub_le ..
  obtain ⟨⟨p, hstart, hlisting⟩, hclient⟩ :=
    advances_iff 2 (Text.maxU32 - 2) (by decide) hlimit hoffset
  obtain ⟨-, hclimb, -⟩ := hlisting failing fits_failing
  refine ⟨by decide, hlimit, hoffset, fits_failing, ⟨p, hstart, ?_⟩, rfl, ?_⟩
  · refine hclimb.1 fun k hreaches => ?_
    cases k with
    | zero => decide
    | succ k =>
      -- the second page ends the listing
      have htwo := Outcomes.reaches_of_le (Nat.le_add_left 2 k) hreaches
      exact Bool.noConfusion htwo
  · exact hclient c (Pager.shelf []) call ⟨none, [], .empty 10⟩ [] 4 rfl

/-- A service that gives one item for every page. -/
def endless : Outcomes := fun _ => .ok ⟨.arr [.bool true], 200, none⟩

/-- At the top, one page is asked for again and again. -/
theorem top_asked_again :
    ∃ p, Pager.start 1 Text.maxU32 = .ok p ∧
      ((start p).run endless [true, true]).asked = [(Text.maxU32, 1), (Text.maxU32, 1)] ∧
      ¬ (((start p).run endless [true, true]).asked.map Prod.fst).SortedLT ∧
      ¬ ∃ most, ∀ polls, ((start p).run endless polls).asked.length ≤ most := by
  have hfits : endless.Fits := by
    intro k r hr t ht
    cases hr
    cases ht
  have hasked : ((start (Pager.between 1 Text.maxU32 0)).run endless [true, true]).asked =
      [(Text.maxU32, 1), (Text.maxU32, 1)] := by decide
  refine ⟨Pager.between 1 Text.maxU32 0, rfl, hasked, ?_, fun hbounded => ?_⟩
  · rw [hasked]
    decide
  · -- no page ends this listing
    obtain ⟨k, hk⟩ := (bounded_asking_iff (by decide) (by decide) hfits Text.maxU32).1 hbounded
    cases hk

end Consumer

end CloudClient
