import CloudClient.Proofs.Exchanges
import Mathlib.Tactic.Ring

/-!
# Pages — a listing gives every item once

A service that answers each request for a page with the part of one list that the page
covers is listed completely: the items come in the order of the list, none is lost and none
comes twice, and no page is asked for after the last one.

* `Pager.slice` is the part of a list that a page covers.
* `Pager.items_fetch`: one page is fetched, then its items are handed on.
* `Pager.runs_items`: the pages that a listing asks for, and what it gives.
* `Pager.drained`: listings from the start to the end.
-/

namespace CloudClient

/-- Where the page that a call asks for starts, and how many items it holds. -/
def Call.window (c : Call) : Nat × Nat :=
  (c.options.offset, c.options.limit.getD Pager.standardLimit)

namespace Pager

/-! ## One page after the other -/

section Steps

variable {m : Type → Type} [Monad m] [LawfulMonad m] (fetch : Nat → Nat → m CallResult)
  (p : Pager)

/-- A listing that is used up gives no more items. -/
theorem items_done (n : Nat) (hbuffer : p.buffer = []) (hdone : p.done = true) :
    items fetch n p = pure [] := by
  cases n with
  | zero => rfl
  | succ n => simp [items, poll, shift, hbuffer, hdone]

/-- Items in the buffer are handed on first, and nothing is fetched for them. -/
theorem items_append (buffer : List Json) (n : Nat) :
    items fetch (buffer.length + n) { p with buffer := buffer } =
      (buffer.map .ok ++ ·) <$> items fetch n { p with buffer := [] } := by
  induction buffer with
  | nil => simp
  | cons v rest ih =>
    rw [List.length_cons, Nat.add_right_comm, items]
    simp [poll, shift, ih]

/-- A page leaves an item to hand on, unless it is the last one. -/
theorem absorb_progress (r : Response) (hlimit : 0 < p.limit) :
    (p.absorb r).buffer ≠ [] ∨ (p.absorb r).done = true := by
  cases hv : r.value with
  | arr items =>
    cases items with
    | nil => right; simp [absorb, hv, isLast, hlimit]
    | cons v rest => left; simp [absorb, hv]
  | null => right; simp [absorb, hv]
  | bool b => right; simp [absorb, hv]
  | num n => right; simp [absorb, hv]
  | str s => right; simp [absorb, hv]
  | obj members => right; simp [absorb, hv]

/-- With nothing to hand on a page is fetched, and the listing goes on with it; a page that
cannot be fetched is the end. -/
theorem items_fetch (n : Nat) (hlimit : 0 < p.limit) (hbuffer : p.buffer = [])
    (hdone : p.done = false) :
    items fetch (n + 1) p = fetch p.offset p.limit >>= fun
      | .ok r => items fetch (n + 1) (p.absorb r)
      | .error e => pure [.error e] := by
  rw [items, poll, hbuffer, hdone]
  simp only [List.isEmpty_nil, Bool.not_true, Bool.or_self, Bool.false_eq_true, ite_false,
    bind_assoc]
  congr 1
  funext outcome
  cases outcome with
  | error e =>
    have hend := items_done fetch { p with buffer := [], done := true } n rfl rfl
    simp [hend]
  | ok r =>
    have hready : (!(p.absorb r).buffer.isEmpty || (p.absorb r).done) = true := by
      rcases p.absorb_progress r hlimit with h | h
      · simp [h]
      · simp [h]
    simp only [pure_bind, items]
    rw [poll, if_pos hready, pure_bind]

end Steps

/-! ## Pages of one list -/

def slice (L : List Json) (offset limit : Nat) : List Json := (L.drop offset).take limit

theorem length_slice (L : List Json) (offset limit : Nat) :
    (slice L offset limit).length = min limit (L.length - offset) := by
  rw [slice, List.length_take, List.length_drop]

theorem slice_append (L : List Json) (offset limit n : Nat) :
    slice L offset limit ++ slice L (offset + limit) n = slice L offset (limit + n) := by
  rw [slice, slice, slice, List.take_add, List.drop_drop]

/-- Whether page `i` of a listing is the last one that is fetched, after `fetched` items:
it is short, or as many items are there as the replies say there are. -/
def IsEnd (L : List Json) (total : Option Nat) (limit offset fetched i : Nat) : Prop :=
  (slice L (offset + i * limit) limit).length < limit ∨
    ∃ t, total = some t ∧ t ≤ fetched + (i + 1) * limit

theorem isEnd_succ (L : List Json) (total : Option Nat) (limit offset fetched i : Nat) :
    IsEnd L total limit offset fetched (i + 1) ↔
      IsEnd L total limit (offset + limit) (fetched + limit) i := by
  have hoffset : offset + (i + 1) * limit = offset + limit + i * limit := by ring
  have hfetched : fetched + (i + 1 + 1) * limit = fetched + limit + (i + 1) * limit := by ring
  rw [IsEnd, IsEnd, hoffset, hfetched]

/-- The reply with a page, whatever its status. -/
def reply (L : List Json) (total : Option Nat) (status offset limit : Nat) : Response :=
  ⟨.arr (slice L offset limit), status, total⟩

theorem isLast_iff {limit count fetched : Nat} {total : Option Nat} :
    isLast limit count fetched total = true ↔
      count < limit ∨ ∃ t, total = some t ∧ t ≤ fetched := by
  cases total <;> simp [isLast]

section Absorb

variable {L : List Json} {total : Option Nat} {limit offset fetched : Nat}

/-- Where a listing stands between two pages. -/
def between (limit offset fetched : Nat) : Pager := ⟨limit, offset, fetched, [], false⟩

theorem absorb_reply_of_isEnd (status : Nat) (hfetched : fetched ≤ L.length)
    (hL : L.length ≤ Text.maxU32) (hend : IsEnd L total limit offset fetched 0) :
    ∃ p : Pager, p.done = true ∧
      (between limit offset fetched).absorb (reply L total status offset limit) =
        { p with buffer := slice L offset limit } := by
  refine ⟨(between limit offset fetched).absorb (reply L total status offset limit), ?_, rfl⟩
  have hlength := length_slice L offset limit
  have hwide : Text.maxU32 + Text.maxU32 ≤ Text.maxU64 := by decide
  show (false || isLast limit (min (slice L offset limit).length Text.maxU32)
    (min (fetched + (slice L offset limit).length) Text.maxU64) total) = true
  rw [Bool.false_or, isLast_iff]
  -- neither count is cut off, since the list is shorter than the widths allow
  by_cases hshort : (slice L offset limit).length < limit
  · left
    omega
  · right
    rw [IsEnd, Nat.zero_mul, Nat.add_zero] at hend
    obtain ⟨t, htotal, ht⟩ := hend.resolve_left hshort
    exact ⟨t, htotal, by omega⟩

theorem absorb_reply_of_not_isEnd (status : Nat) (hfetched : fetched ≤ L.length)
    (hL : L.length ≤ Text.maxU32) (hlimit : 0 < limit)
    (hend : ¬ IsEnd L total limit offset fetched 0) :
    offset + limit ≤ L.length ∧
      (between limit offset fetched).absorb (reply L total status offset limit) =
        { between limit (offset + limit) (fetched + limit) with
          buffer := slice L offset limit } := by
  have hlength := length_slice L offset limit
  have hwide : Text.maxU32 + Text.maxU32 ≤ Text.maxU64 := by decide
  rw [IsEnd, not_or, Nat.zero_mul, Nat.add_zero, Nat.not_lt] at hend
  obtain ⟨hfull, htotal⟩ := hend
  have hcount : (slice L offset limit).length = limit := by omega
  have hnext : offset + limit ≤ L.length := by omega
  refine ⟨hnext, ?_⟩
  have hmore : isLast limit limit (fetched + limit) total = false := by
    rw [← Bool.not_eq_true, isLast_iff]
    rintro (h | ⟨t, ht, h⟩)
    · omega
    · exact htotal ⟨t, ht, by omega⟩
  have hsum : fetched + limit ≤ Text.maxU64 := by omega
  have hsumOffset : offset + limit ≤ Text.maxU32 := by omega
  have hsmall : limit ≤ Text.maxU32 := by omega
  simp only [absorb, between, reply, saturatingAdd, hcount, Nat.min_eq_left hsmall,
    Nat.min_eq_left hsum, Nat.min_eq_left hsumOffset, hmore, Bool.or_self, List.nil_append]

end Absorb

/-! ## Listings -/

section Listing

variable {L : List Json} {total : Option Nat} {limit : Nat}

/-- A request for a page has been answered with that page. -/
def Answered (L : List Json) (total : Option Nat) (x : Call × CallResult) : Prop :=
  ∃ status, x.2 = .ok (reply L total status x.1.window.1 x.1.window.2)

def plan (call : Call) (n : Nat) (p : Pager) : Plan (List (Except Failure Json)) :=
  items (fun offset limit => Plan.call (call.page offset limit)) n p

theorem runs_plan_between (call : Call) {offset fetched n : Nat} (hlimit : 0 < limit)
    {made : List (Call × CallResult)} {out : List (Except Failure Json)}
    (hrun : (plan call (n + 1) (between limit offset fetched)).Runs made out)
    (hmade : ∀ x ∈ made, Answered L total x) :
    ∃ status rest,
      made = (call.page offset limit, .ok (reply L total status offset limit)) :: rest ∧
      (plan call (n + 1) ((between limit offset fetched).absorb
        (reply L total status offset limit))).Runs rest out := by
  rw [plan, items_fetch _ _ n hlimit rfl rfl] at hrun
  obtain ⟨r, rest, rfl, hrest⟩ := Plan.runs_ask.1 hrun
  obtain ⟨status, hstatus⟩ := hmade _ (List.mem_cons_self ..)
  obtain rfl : r = .ok (reply L total status offset limit) := hstatus
  exact ⟨status, rest, rfl, hrest⟩

/-- The items of a page come before everything that is asked for after it. -/
theorem runs_plan_buffered (call : Call) {p : Pager} {buffer : List Json} {n : Nat}
    (hn : buffer.length < n) {made : List (Call × CallResult)}
    {out : List (Except Failure Json)}
    (hrun : (plan call n { p with buffer := buffer }).Runs made out) :
    ∃ rest, (plan call (n - buffer.length) { p with buffer := [] }).Runs made rest ∧
      out = buffer.map .ok ++ rest := by
  obtain ⟨d, rfl⟩ := Nat.exists_eq_add_of_le (Nat.le_of_lt hn)
  rw [plan, items_append] at hrun
  rw [Nat.add_sub_cancel_left]
  exact Plan.runs_map.1 hrun

/-- A listing whose pages are answered asks for them in turn, up to and with the first
that is the last one, and gives the items that they cover. -/
theorem runs_items (call : Call) (hL : L.length ≤ Text.maxU32) (hlimit : 0 < limit)
    {offset fetched n : Nat} (hbelow : fetched ≤ offset) (hfetched : fetched ≤ L.length)
    (hn : L.length - offset < n) {made : List (Call × CallResult)}
    {out : List (Except Failure Json)}
    (hrun : (plan call n (between limit offset fetched)).Runs made out)
    (hmade : ∀ x ∈ made, Answered L total x) :
    ∃ k, IsLeast {i | IsEnd L total limit offset fetched i} k ∧
      made.map Prod.fst =
        (List.range (k + 1)).map (fun i => call.page (offset + i * limit) limit) ∧
      out = (slice L offset ((k + 1) * limit)).map .ok := by
  -- each full page leaves less of the list
  induction hleft : L.length - offset using Nat.strong_induction_on
    generalizing offset fetched n made out with
  | _ left ih =>
    obtain ⟨n, rfl⟩ : ∃ d, n = d + 1 := ⟨n - 1, by omega⟩
    obtain ⟨status, rest, rfl, hrest⟩ := runs_plan_between call hlimit hrun hmade
    have hlength := length_slice L offset limit
    have hroom : (slice L offset limit).length < n + 1 := by omega
    by_cases hend : IsEnd L total limit offset fetched 0
    · -- the last page: its items are handed on, then nothing
      obtain ⟨p, hdone, habsorb⟩ := absorb_reply_of_isEnd status hfetched hL hend
      rw [habsorb] at hrest
      obtain ⟨out, hlast, rfl⟩ := runs_plan_buffered call hroom hrest
      rw [plan, items_done _ { p with buffer := [] } _ rfl hdone] at hlast
      obtain ⟨rfl, rfl⟩ := Plan.runs_done.1 hlast
      refine ⟨0, isLeast_zero hend, ?_, ?_⟩
      · simp
      · simp
    · -- a full page: the listing goes on behind it
      obtain ⟨hnext, habsorb⟩ := absorb_reply_of_not_isEnd status hfetched hL hlimit hend
      rw [habsorb] at hrest
      obtain ⟨out, hlater, rfl⟩ := runs_plan_buffered call hroom hrest
      change (plan call _ (between limit (offset + limit) (fetched + limit))).Runs rest out
        at hlater
      obtain ⟨k, hk, hpages, rfl⟩ := ih (L.length - (offset + limit)) (by omega)
        (by omega) (by omega) (by omega) hlater
        (fun x hx => hmade x (List.mem_cons_of_mem _ hx)) rfl
      refine ⟨k + 1, isLeast_succ hend ?_, ?_, ?_⟩
      · simpa only [isEnd_succ] using hk
      · have hshift (i : Nat) : offset + limit + i * limit = offset + (i + 1) * limit := by
          ring
        rw [List.map_cons, hpages, @List.range_succ_eq_map (k + 1), List.map_cons, List.map_map,
          Nat.zero_mul, Nat.add_zero]
        simp only [hshift]
        rfl
      · rw [← List.map_append, slice_append]
        congr 2
        ring

end Listing

/-! ## Listings by a recorder and by a client -/

section Carried

variable {m : Type → Type} [Monad m]

theorem run_poll (exchange : Call → m CallResult) (call : Call) (p : Pager) :
    Plan.run exchange (p.poll fun offset limit => Plan.call (call.page offset limit)) =
      p.poll fun offset limit => exchange (call.page offset limit) := by
  unfold poll
  by_cases hready : (!p.buffer.isEmpty || p.done) = true
  · rw [if_pos hready, if_pos hready]
    rfl
  · rw [if_neg hready, if_neg hready]
    show exchange (call.page p.offset p.limit) >>= _ = _
    congr 1
    funext outcome
    cases outcome <;> rfl

/-- The plan of a listing, carried out, is the listing over what carries it out. -/
theorem run_plan [LawfulMonad m] (exchange : Call → m CallResult) (call : Call) (n : Nat)
    (p : Pager) :
    (plan call n p).run exchange =
      items (fun offset limit => exchange (call.page offset limit)) n p := by
  induction n generalizing p with
  | zero => rfl
  | succ n ih =>
    rw [items, ← run_poll]
    unfold plan
    rw [items, Plan.bind_eq, Plan.run_bind]
    congr 1
    funext next
    rcases next with ⟨item, p⟩
    cases item with
    | none => rfl
    | some item =>
      show Plan.run exchange ((plan call n p).bind _) = _
      rw [Plan.run_bind, ih]
      rfl

/-- A service that answers with the pages of a list and writes down what is asked of it. -/
def recorded (L : List Json) (total : Option Nat) (offset limit : Nat) :
    StateM (List (Nat × Nat)) CallResult :=
  fun asked => (.ok (reply L total 200 offset limit), asked ++ [(offset, limit)])

theorem runs_recorded {α : Type} (L : List Json) (total : Option Nat) (q : Plan α)
    (asked : List (Nat × Nat)) :
    ∃ made out, q.Runs made out ∧ (∀ x ∈ made, Answered L total x) ∧
      q.run (fun c => recorded L total c.window.1 c.window.2) asked =
        (out, asked ++ made.map fun x => x.1.window) := by
  induction q generalizing asked with
  | done a => exact ⟨[], a, .done a, by simp, by simp [Plan.run]; rfl⟩
  | ask c next ih =>
    obtain ⟨made, out, hruns, hanswered, hrun⟩ :=
      ih (.ok (reply L total 200 c.window.1 c.window.2)) (asked ++ [c.window])
    refine ⟨(c, _) :: made, out, .ask _ hruns, ?_, ?_⟩
    · exact List.forall_mem_cons.2 ⟨⟨200, rfl⟩, hanswered⟩
    · rw [List.map_cons, List.append_cons]
      exact hrun

end Carried

end Pager

/-- Up to a number of items of the listing that a call asks for, failures among them. -/
def Procedure.items (call : Call) (count : Nat) : Procedure (List (Except Failure Json)) := do
  let p ← Procedure.listing.liftExcept call.pager
  ExceptT.lift (Pager.plan call count p)

theorem Procedure.runs_items {call : Call} {count : Nat} {p : Pager} (hp : call.pager = .ok p)
    {made : List (Call × CallResult)} {result : Except Failure (List (Except Failure Json))}
    (h : (Procedure.items call count).Runs made result) :
    ∃ out, (Pager.plan call count p).Runs made out ∧ result = .ok out := by
  rw [Procedure.items, hp] at h
  exact Plan.runs_map.1 h

theorem Client.carryOut_items {m : Type → Type} [Monad m] [LawfulMonad m] (c : Client)
    (world : Surroundings m) (call : Call) (count : Nat) :
    c.carryOut world (Procedure.items call count) = c.items world call count := by
  rw [Client.items, Procedure.items]
  cases call.pager with
  | error e =>
    change _ = ExceptT.mk (pure (Except.error e) >>= _)
    rw [pure_bind]
    rfl
  | ok p =>
    change ExceptT.mk (Plan.run _ ((Pager.plan call count p).bind fun out => .done (.ok out))) =
      ExceptT.mk (pure (Except.ok p) >>= _)
    rw [Plan.run_bind, Pager.run_plan, pure_bind]
    rfl

namespace Pager

/-- The condition under which a listing that has fetched nothing yet ends with a page; the
size of the list counts only from its start. -/
theorem isEnd_iff {L : List Json} {total : Option Nat} {limit offset i : Nat}
    (hlimit : 0 < limit) (htotal : total = none ∨ total = some L.length) :
    IsEnd L total limit offset 0 i ↔
      (slice L (offset + i * limit) limit).length < limit ∨
        (offset = 0 ∧ total.isSome ∧ L.length ≤ (i + 1) * limit) := by
  have hlength := length_slice L (offset + i * limit) limit
  have hnext : (i + 1) * limit = i * limit + limit := by ring
  rw [IsEnd, Nat.zero_add]
  constructor
  · rintro (hshort | ⟨t, rfl, ht⟩)
    · exact .inl hshort
    · obtain rfl := Option.some.inj (htotal.resolve_left (Option.some_ne_none t))
      -- away from the start fewer items are left than the size says, and the page is short
      by_cases hstart : offset = 0
      · exact .inr ⟨hstart, rfl, ht⟩
      · left
        omega
  · rintro (hshort | ⟨-, hsome, ht⟩)
    · exact .inl hshort
    · obtain ⟨t, rfl⟩ := Option.isSome_iff_exists.1 hsome
      obtain rfl := Option.some.inj (htotal.resolve_left (Option.some_ne_none t))
      exact .inr ⟨_, rfl, ht⟩

/-- A listing that has ended has given everything from its start on. -/
theorem slice_eq_drop {L : List Json} {total : Option Nat} {limit offset k : Nat}
    (hlimit : 0 < limit) (htotal : total = none ∨ total = some L.length)
    (hend : IsEnd L total limit offset 0 k) :
    slice L offset ((k + 1) * limit) = L.drop offset := by
  have hlength := length_slice L (offset + k * limit) limit
  have hnext : (k + 1) * limit = k * limit + limit := by ring
  rw [slice, List.take_of_length_le]
  rw [List.length_drop]
  rcases (isEnd_iff hlimit htotal).1 hend with hshort | ⟨-, -, hall⟩
  · omega
  · omega

/-- Pages beyond the end of a list are short. -/
theorem exists_isLeast_isEnd (L : List Json) (total : Option Nat) (limit offset : Nat)
    (hlimit : 0 < limit) : ∃ k, IsLeast {i | IsEnd L total limit offset 0 i} k := by
  have hend : ∃ i, IsEnd L total limit offset 0 i := by
    refine ⟨L.length, .inl ?_⟩
    have hfar : L.length ≤ L.length * limit := Nat.le_mul_of_pos_right _ hlimit
    rw [length_slice]
    omega
  classical
  exact ⟨Nat.find hend, Nat.isLeast_find hend⟩

/-- A service that answers every call with a page of one list. -/
def shelf (L : List Json) : Conduct where
  service _ r := .ok (reply L (some L.length) 200 r.offset (r.limit.getD standardLimit))
  network _ _ := .error (.connect, "no connection")
  clock _ := ⟨0⟩

theorem answered_shelf {α : Type} (L : List Json) (c : Client) (x : Procedure α)
    (s : ClientState) (past : List Event) (hs : s.credential = none) :
    ∀ y ∈ c.made (shelf L) x s past, Answered L (some L.length) y := by
  refine Plan.forall_trace (I := fun s => s.credential = none) _ _ s past ?_ hs
  intro call s past hs
  obtain ⟨k, -, hsend⟩ := c.watch_send (shelf L) (c.request call) s (past ++ [.looked ⟨0⟩])
  have hexchange : watch (c.exchangeResult (shelf L).world call) s past =
      watch (c.send (shelf L).world (c.request call)).run s (past ++ [.looked ⟨0⟩]) := by
    rcases s with ⟨credential, handed, journal⟩
    obtain rfl : credential = none := hs
    rfl
  rw [hexchange, hsend]
  -- attempts leave records and no credential
  exact ⟨⟨200, rfl⟩, hs⟩

/-- A listing of `L` from an offset on, in pages of at least one item, by a service that
answers with the pages of `L` and names the size of `L` always or never.  It gives the items
of `L` from the offset on, in order, and asks for one page after the other until the first
that is short, or, from the start of `L` and with the size named, until all items are there.
The first part is a listing by itself; the second is one that a client makes for a call,
with everything but the window of the page as in the call. -/
theorem drained (L : List Json) (hL : L.length ≤ Text.maxU32) (total : Option Nat)
    (htotal : total = none ∨ total = some L.length) (limit offset : Nat)
    (hlimit : 1 ≤ limit) :
    ∃ k, IsLeast {i | (slice L (offset + i * limit) limit).length < limit ∨
          (offset = 0 ∧ total.isSome ∧ L.length ≤ (i + 1) * limit)} k ∧
      (∃ p, Pager.start limit offset = .ok p ∧ ∀ n, L.length < n → ∀ asked,
        p.items (recorded L total) n asked =
          ((L.drop offset).map .ok,
            asked ++ (List.range (k + 1)).map fun i => (offset + i * limit, limit))) ∧
      (∀ (c : Client) (b : Conduct) (call : Call) (s : ClientState) (past : List Event)
          (n : Nat), call.window = (offset, limit) → L.length < n →
        (∀ x ∈ c.made b (Procedure.items call n) s past, Answered L total x) →
        (watch (c.items b.world call n).run s past).result = .ok ((L.drop offset).map .ok) ∧
        (c.made b (Procedure.items call n) s past).map Prod.fst =
          (List.range (k + 1)).map (fun i => call.page (offset + i * limit) limit) ∧
        ∀ x ∈ c.made b (Procedure.items call n) s past,
          x.1.service = call.service ∧ x.1.method = call.method ∧ x.1.args = call.args ∧
          x.1.options.mask = call.options.mask ∧
          x.1.options.filter =
            some (Filter.ordered call.options.filter (Naming.listingScope call.method))) := by
  have hset : {i | IsEnd L total limit offset 0 i} =
      {i | (slice L (offset + i * limit) limit).length < limit ∨
        (offset = 0 ∧ total.isSome ∧ L.length ≤ (i + 1) * limit)} := by
    ext i
    exact isEnd_iff hlimit htotal
  rw [← hset]
  obtain ⟨k, hk⟩ := exists_isLeast_isEnd L total limit offset hlimit
  have hstart : Pager.start limit offset = .ok (between limit offset 0) :=
    if_neg (Nat.pos_iff_ne_zero.1 hlimit)
  have hruns {call : Call} {n : Nat} (hn : L.length < n) {made : List (Call × CallResult)}
      {out : List (Except Failure Json)}
      (hrun : (plan call n (between limit offset 0)).Runs made out)
      (hmade : ∀ x ∈ made, Answered L total x) :
      made.map Prod.fst =
          (List.range (k + 1)).map (fun i => call.page (offset + i * limit) limit) ∧
        out = (L.drop offset).map .ok := by
    -- the last page does not depend on the call or on who carries it
    obtain ⟨k', hk', hpages, hout⟩ := runs_items call hL hlimit (Nat.zero_le _)
      (Nat.zero_le _) (by omega) hrun hmade
    obtain rfl := hk.unique hk'
    rw [slice_eq_drop hlimit htotal hk.1] at hout
    exact ⟨hpages, hout⟩
  refine ⟨k, hk, ⟨_, hstart, ?_⟩, ?_⟩
  · intro n hn asked
    -- any call stands for the pages, since only their windows are written down
    let call : Call := ⟨"", "", [], CallOptions.none⟩
    obtain ⟨made, out, hrun, hanswered, hrecord⟩ :=
      runs_recorded L total (plan call n (between limit offset 0)) asked
    obtain ⟨hpages, rfl⟩ := hruns hn hrun hanswered
    rw [run_plan] at hrecord
    refine Eq.trans hrecord ?_
    have hwindows := congrArg (List.map Call.window) hpages
    rw [List.map_map, List.map_map] at hwindows
    exact congrArg (fun rest => (_, asked ++ rest)) hwindows
  · intro c b call s past n hwindow hn hmade
    have hpager : call.pager = .ok (between limit offset 0) := by
      rw [← hstart, Call.pager]
      exact congrArg (fun w : Nat × Nat => Pager.start w.2 w.1) hwindow
    have hrun := c.runs_made b (Procedure.items call n) s past
    rw [Client.carryOut_items] at hrun
    obtain ⟨out, hplan, hresult⟩ := Procedure.runs_items hpager hrun
    obtain ⟨hpages, rfl⟩ := hruns hn hplan hmade
    refine ⟨hresult, hpages, fun x hx => ?_⟩
    obtain ⟨i, -, hi⟩ := List.mem_map.1 (hpages ▸ List.mem_map_of_mem hx)
    rw [← hi]
    exact ⟨rfl, rfl, rfl, rfl, rfl⟩

theorem drained_three :
    let L : List Json := [.int 5, .int 6, .int 7]
    let c : Client :=
      ⟨WireFormat.rest.endpoint, .rest, 1000, none, true, "test", .standard, 60, .standard⟩
    let call : Call := ⟨"Account", "getHardware", [], { CallOptions.none with limit := some 2 }⟩
    L.length ≤ Text.maxU32 ∧ some 3 = some L.length ∧ 1 ≤ 2 ∧
      (watch (c.items (shelf L).world call 4).run ⟨none, [], .empty 10⟩ []).result =
        .ok (L.map .ok) := by
  intro L c call
  have hL : L.length ≤ Text.maxU32 := by decide
  obtain ⟨k, -, -, hclient⟩ := drained L hL (some 3) (.inr rfl) 2 0 (by omega)
  obtain ⟨hresult, -⟩ := hclient c (shelf L) call ⟨none, [], .empty 10⟩ [] 4 rfl (by decide)
    (answered_shelf L c _ _ _ rfl)
  exact ⟨hL, rfl, by omega, hresult⟩

end Pager

end CloudClient
