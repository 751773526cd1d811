import CloudClient.Client.Polling
import CloudClient.Proofs.Pages
import Mathlib.Data.List.ReduceOption

/-!
# Polling — a listing gives what its pages hold

Whatever the fetches of a listing give, its consumer gets the items of the pages in order,
up to the first page that ends the listing, and nothing afterwards.  A page is fetched only
once all items before it are given and one more is asked for.

* `Outcomes.listing` is what pages hold, `Outcomes.reaches` tells which of them are fetched.
* `Pager.Stands` says what a listing has left to give.
* `Consumer.Sound` is what every poll keeps.
* `Consumer.items_serve`: taking items one by one is polling.
* `Consumer.polled` puts it together.
-/

namespace CloudClient

/-! ## What pages hold -/

namespace Pager

/-- The items in the result of a page: those of a list, none for null, and any other value
itself. -/
def valuesOf : Json → List Json
  | .arr items => items
  | .null => []
  | v => [v]

/-- What a consumer gets from a page.  A failure is an item, too. -/
def itemsOf : CallResult → List (Except Failure Json)
  | .ok r => (valuesOf r.value).map .ok
  | .error e => [.error e]

/-- How many items a page adds to those fetched: only lists count. -/
def countOf : CallResult → Nat
  | .ok ⟨.arr items, _, _⟩ => items.length
  | _ => 0

/-- Whether a page that brings the items fetched to `fetched` ends the listing.  A list does
if it is short or nothing is left behind it, all else always. -/
def endsWith (limit fetched : Nat) : CallResult → Bool
  | .ok ⟨.arr items, _, total⟩ => items.length < limit || total.any (· ≤ fetched)
  | _ => true

/-- A list that goes on has an item. -/
theorem length_itemsOf_pos {limit fetched : Nat} {r : CallResult} (hlimit : 0 < limit)
    (h : endsWith limit fetched r = false) : 0 < (itemsOf r).length := by
  rcases r with e | ⟨value, status, total⟩
  · cases h
  · cases value with
    | arr items =>
      simp only [endsWith, Bool.or_eq_false_iff, decide_eq_false_iff_not, Nat.not_lt] at h
      simpa [itemsOf, valuesOf] using Nat.lt_of_lt_of_le hlimit h.1
    | _ => cases h

end Pager

namespace Outcomes

variable (outcomes : Outcomes) (limit : Nat)

/-- The sizes that replies report are numbers of 64 bits. -/
def Fits : Prop := ∀ k r, outcomes k = .ok r → ∀ t, r.total = some t → t ≤ Text.maxU64

/-- How many items the first `k` pages bring. -/
def fetched (k : Nat) : Nat := ((List.range k).map fun i => Pager.countOf (outcomes i)).sum

def endsAt (k : Nat) : Bool := Pager.endsWith limit (outcomes.fetched (k + 1)) (outcomes k)

/-- Whether no page before page `k` ends the listing. -/
def reaches (k : Nat) : Bool := (List.range k).all fun i => !outcomes.endsAt limit i

/-- What a consumer gets from the first `n` pages. -/
def listing (n : Nat) : List (Except Failure Json) :=
  (List.range n).flatMap fun k =>
    if outcomes.reaches limit k then Pager.itemsOf (outcomes k) else []

theorem fetched_succ (k : Nat) :
    outcomes.fetched (k + 1) = outcomes.fetched k + Pager.countOf (outcomes k) := by
  simp [fetched, List.range_succ]

theorem reaches_succ (k : Nat) :
    outcomes.reaches limit (k + 1) = (outcomes.reaches limit k && !outcomes.endsAt limit k) := by
  simp [reaches, List.range_succ]

theorem listing_succ (n : Nat) :
    outcomes.listing limit (n + 1) = outcomes.listing limit n ++
      if outcomes.reaches limit n then Pager.itemsOf (outcomes n) else [] := by
  simp [listing, List.range_succ]

variable {outcomes limit}

theorem reaches_of_le {m n : Nat} (hmn : m ≤ n) (h : outcomes.reaches limit n = true) :
    outcomes.reaches limit m = true := by
  rw [reaches, List.all_eq_true] at h ⊢
  exact fun i hi => h i (List.mem_range.2 (Nat.lt_of_lt_of_le (List.mem_range.1 hi) hmn))

theorem listing_prefix {m n : Nat} (hmn : m ≤ n) :
    outcomes.listing limit m <+: outcomes.listing limit n := by
  induction n, hmn using Nat.le_induction with
  | base => exact List.prefix_rfl
  | succ n _ ih =>
    rw [listing_succ]
    exact ih.trans (List.prefix_append ..)

/-- Pages behind the end hold nothing. -/
theorem listing_of_not_reaches {m n : Nat} (hmn : m ≤ n)
    (h : outcomes.reaches limit m = false) :
    outcomes.listing limit n = outcomes.listing limit m := by
  induction n, hmn using Nat.le_induction with
  | base => rfl
  | succ n hmn ih =>
    have hn : outcomes.reaches limit n ≠ true := fun hn => by
      rw [reaches_of_le hmn hn] at h
      cases h
    rw [listing_succ, if_neg hn, List.append_nil, ih]

/-- Every page but the last has an item. -/
theorem length_listing_add {m d : Nat} (hlimit : 0 < limit)
    (h : outcomes.reaches limit (m + d) = true) :
    (outcomes.listing limit m).length + d ≤ (outcomes.listing limit (m + d)).length := by
  induction d with
  | zero => exact Nat.le_refl _
  | succ d ih =>
    rw [← Nat.add_assoc, reaches_succ, Bool.and_eq_true, Bool.not_eq_true'] at h
    have hitem := Pager.length_itemsOf_pos hlimit h.2
    have hbefore := ih h.1
    rw [← Nat.add_assoc m, listing_succ, if_pos h.1, List.length_append]
    omega

/-- More pages do not change an item that is on fewer of them. -/
theorem getElem?_listing {m n i : Nat} (hmn : m ≤ n)
    (h : outcomes.reaches limit m = true → i < (outcomes.listing limit m).length) :
    (outcomes.listing limit m)[i]? = (outcomes.listing limit n)[i]? := by
  cases hm : outcomes.reaches limit m with
  | true =>
    obtain ⟨later, hlater⟩ := listing_prefix hmn
    rw [← hlater, List.getElem?_append_left (h hm)]
  | false => rw [listing_of_not_reaches hmn hm]

/-- Pages that are fetched are given in full, the last one among them. -/
theorem listing_succ_eq_flatMap {k : Nat} (h : outcomes.reaches limit k = true) :
    outcomes.listing limit (k + 1) =
      (List.range (k + 1)).flatMap fun i => Pager.itemsOf (outcomes i) := by
  refine List.flatMap_congr fun i hi => if_pos ?_
  exact reaches_of_le (Nat.le_of_lt_succ (List.mem_range.1 hi)) h

/-- Nothing comes behind a page that ends the listing. -/
theorem listing_of_endsAt {k n : Nat} (h : outcomes.endsAt limit k = true) (hn : k < n) :
    outcomes.listing limit n = outcomes.listing limit (k + 1) :=
  listing_of_not_reaches hn (by rw [reaches_succ, h, Bool.not_true, Bool.and_false])

end Outcomes

/-! ## What a listing has left -/

namespace Pager

/-- Where a listing stands: its page size, how many items it has fetched, what it can give
without a fetch, and whether it ends with that. -/
structure Stands (p : Pager) (limit fetched : Nat) (left : List (Except Failure Json))
    (ended : Bool) : Prop where
  limit : p.limit = limit
  fetched : p.fetched = min fetched Text.maxU64
  buffer : p.buffer.map .ok = left
  done : p.done = ended

section Stands

variable {p : Pager} {limit fetched : Nat} {left : List (Except Failure Json)} {ended : Bool}

theorem Stands.isReady (h : p.Stands limit fetched left ended) :
    p.isReady = (!left.isEmpty || ended) := by
  rw [Pager.isReady, ← h.buffer, h.done, List.isEmpty_map]

theorem Stands.shift (h : p.Stands limit fetched left ended) :
    ∃ q : Pager, p.shift = (left.head?, q) ∧ q.Stands limit fetched left.tail ended := by
  obtain ⟨hlimit, hfetched, rfl, hdone⟩ := h
  cases hbuffer : p.buffer with
  | nil => exact ⟨p, by simp [Pager.shift, hbuffer], hlimit, hfetched, by simp [hbuffer], hdone⟩
  | cons v rest =>
    exact ⟨{ p with buffer := rest }, by simp [Pager.shift, hbuffer], hlimit, hfetched, rfl,
      hdone⟩

/-- The counters of a listing are cut off where sizes of lists and of pages are. -/
theorem isLast_min {items : List Json} {total : Option Nat} (hlimit : limit ≤ Text.maxU32)
    (htotal : ∀ t, total = some t → t ≤ Text.maxU64) :
    isLast limit (min items.length Text.maxU32) (min fetched Text.maxU64) total =
      (decide (items.length < limit) || total.any (· ≤ fetched)) := by
  have hshort : min items.length Text.maxU32 < limit ↔ items.length < limit := by omega
  cases total with
  | none => simp [isLast, hshort]
  | some t =>
    have hcut : t ≤ min fetched Text.maxU64 ↔ t ≤ fetched := by
      have := htotal t rfl
      omega
    simp [isLast, hshort, hcut]

theorem Stands.absorb (h : p.Stands limit fetched [] false) (hlimit : limit ≤ Text.maxU32)
    (r : Response) (htotal : ∀ t, r.total = some t → t ≤ Text.maxU64) :
    (p.absorb r).Stands limit (fetched + countOf (.ok r)) (itemsOf (.ok r))
      (endsWith limit (fetched + countOf (.ok r)) (.ok r)) := by
  obtain ⟨rfl, hfetched, hbuffer, hdone⟩ := h
  rw [List.map_eq_nil_iff] at hbuffer
  obtain ⟨value, status, total⟩ := r
  cases value with
  | arr items =>
    have hsum : min (p.fetched + items.length) Text.maxU64 =
        min (fetched + items.length) Text.maxU64 := by omega
    refine ⟨rfl, hsum, ?_, ?_⟩
    · simp [Pager.absorb, itemsOf, valuesOf, hbuffer]
    · simp only [Pager.absorb, saturatingAdd, hdone, Bool.false_or, hsum]
      exact isLast_min hlimit htotal
  | null => exact ⟨rfl, hfetched, by simp [Pager.absorb, itemsOf, valuesOf, hbuffer], rfl⟩
  | _ => exact ⟨rfl, hfetched, by simp [Pager.absorb, itemsOf, valuesOf, hbuffer], rfl⟩

/-- A page that has arrived gives its first item, and the others are left. -/
theorem Stands.poll_arrived (h : p.Stands limit fetched [] false) (hlimit : limit ≤ Text.maxU32)
    (r : CallResult) (htotal : ∀ s, r = .ok s → ∀ t, s.total = some t → t ≤ Text.maxU64) :
    ∃ q : Pager, Id.run (p.poll fun _ _ => r) = ((itemsOf r).head?, q) ∧
      q.Stands limit (fetched + countOf r) (itemsOf r).tail
        (endsWith limit (fetched + countOf r) r) := by
  rw [poll_of_not_isReady h.isReady]
  cases r with
  | error e => exact ⟨_, rfl, h.limit, h.fetched, h.buffer, rfl⟩
  | ok r => exact (h.absorb hlimit r (htotal r rfl)).shift

end Stands

section Items

variable {σ : Type} {fetch : Nat → Nat → StateM σ CallResult} {p q : Pager} {s t : σ}

theorem items_of_poll_none (h : p.poll fetch s = ((none, q), t)) (n : Nat) :
    p.items fetch (n + 1) s = ([], t) := by
  simp only [items, bind, StateT.bind, h]
  rfl

theorem items_of_poll_some {item : Except Failure Json}
    (h : p.poll fetch s = ((some item, q), t)) (n : Nat) :
    p.items fetch (n + 1) s = (item :: (q.items fetch n t).1, (q.items fetch n t).2) := by
  simp only [items, bind, StateT.bind, h]
  rfl

end Items

end Pager

/-! ## What polls give -/

namespace Consumer

variable {outcomes : Outcomes} {limit : Nat} {c : Consumer} {arrived : Nat}

/-- What is the case for a consumer when some pages have arrived: what is left of them is at
hand, and none of them was fetched before it was needed. -/
structure Sound (outcomes : Outcomes) (limit : Nat) (c : Consumer) (arrived : Nat) : Prop where
  pager : c.pager.Stands limit (outcomes.fetched arrived)
    ((outcomes.listing limit arrived).drop c.given.length) (!outcomes.reaches limit arrived)
  asked : c.asked.length = arrived + c.waiting.toNat
  waiting : c.waiting = true → c.pager.isReady = false
  given : c.given =
    (List.range c.given.length).map ((outcomes.listing limit arrived)[·]?)
  length_given : outcomes.reaches limit arrived = true →
    c.given.length ≤ (outcomes.listing limit arrived).length
  needed : ∀ k < arrived, outcomes.reaches limit k = true ∧
    (outcomes.listing limit k).length < c.given.length

/-- Items by their numbers, the next one added. -/
theorem map_range_getElem? {α : Type} (l : List α) (n : Nat) :
    (List.range n).map (l[·]?) ++ [l[n]?] = (List.range (n + 1)).map (l[·]?) := by
  rw [List.range_succ, List.map_append, List.map_singleton]

namespace Sound

theorem start (offset : Nat) : (start (Pager.between limit offset 0)).Sound outcomes limit 0 where
  pager := ⟨rfl, rfl, rfl, rfl⟩
  asked := rfl
  waiting h := Bool.noConfusion h
  given := rfl
  length_given _ := Nat.le_refl 0
  needed _ h := absurd h (Nat.not_lt_zero _)

/-- A consumer that has to wait has got all items of the pages that have arrived. -/
theorem of_not_isReady (h : c.Sound outcomes limit arrived) (hready : c.pager.isReady = false) :
    outcomes.reaches limit arrived = true ∧
      c.given.length = (outcomes.listing limit arrived).length := by
  rw [h.pager.isReady, Bool.or_eq_false_iff, Bool.not_eq_false', List.isEmpty_iff,
    List.drop_eq_nil_iff, Bool.not_eq_false'] at hready
  exact ⟨hready.2, Nat.le_antisymm (h.length_given hready.2) hready.1⟩

theorem ask (h : c.Sound outcomes limit arrived) (hready : c.pager.isReady = false) :
    c.ask.Sound outcomes limit arrived where
  pager := by simpa using h.pager
  asked := by
    rw [length_ask_asked, h.asked, ask_waiting]
    cases c.waiting <;> rfl
  waiting _ := by simpa using hready
  given := by simpa using h.given
  length_given := by simpa using h.length_given
  needed := by simpa using h.needed

/-- Later pages do not change what a consumer has got. -/
theorem given_of_le (h : c.Sound outcomes limit arrived) {n : Nat} (hn : arrived ≤ n) :
    c.given = (List.range c.given.length).map ((outcomes.listing limit n)[·]?) :=
  calc c.given = _ := h.given
    _ = _ := List.map_congr_left fun _ hi => Outcomes.getElem?_listing hn fun hreaches =>
      Nat.lt_of_lt_of_le (List.mem_range.1 hi) (h.length_given hreaches)

/-- An item at hand is the next one of the listing. -/
theorem answer_of_isReady (h : c.Sound outcomes limit arrived)
    (hready : c.pager.isReady = true) : (c.answer outcomes).Sound outcomes limit arrived := by
  obtain ⟨q, hq, hstands⟩ := h.pager.shift
  have hanswer : c.answer outcomes = { c with
      pager := q
      given := c.given ++ [(outcomes.listing limit arrived)[c.given.length]?] } := by
    rw [answer, Pager.poll_of_isReady hready, hq, List.head?_drop]
    rfl
  rw [hanswer]
  constructor
  case pager => simpa using hstands
  case asked => exact h.asked
  case waiting =>
    intro hwaiting
    rw [h.waiting hwaiting] at hready
    cases hready
  case given => rw [List.length_append, List.length_singleton, ← map_range_getElem?, ← h.given]
  case length_given =>
    intro hreaches
    rw [h.pager.isReady, hreaches, Bool.not_true, Bool.or_false, Bool.not_eq_true',
      List.isEmpty_eq_false_iff, ne_eq, List.drop_eq_nil_iff, Nat.not_le] at hready
    rw [List.length_append, List.length_singleton]
    exact hready
  case needed =>
    intro k hk
    have hneeded := h.needed k hk
    exact ⟨hneeded.1, by simpa using Nat.lt_succ_of_lt hneeded.2⟩

/-- A page that arrives gives the item that the consumer waits for. -/
theorem answer_arrived (h : c.Sound outcomes limit arrived) (hwaiting : c.waiting = true)
    (hpositive : 0 < limit) (hlimit : limit ≤ Text.maxU32) (hfits : outcomes.Fits) :
    Sound outcomes limit { c.answer outcomes with waiting := false } (arrived + 1) := by
  obtain ⟨hreaches, hlength⟩ := h.of_not_isReady (h.waiting hwaiting)
  have hlisting : outcomes.listing limit (arrived + 1) =
      outcomes.listing limit arrived ++ Pager.itemsOf (outcomes arrived) := by
    rw [Outcomes.listing_succ, if_pos hreaches]
  have hstands := h.pager
  rw [hlength, List.drop_length, hreaches, Bool.not_true] at hstands
  obtain ⟨q, hq, hleft⟩ := hstands.poll_arrived hlimit (outcomes arrived) (hfits arrived)
  have hanswer : { c.answer outcomes with waiting := false } = (⟨q, false, c.asked,
      c.given ++ [(outcomes.listing limit (arrived + 1))[c.given.length]?]⟩ : Consumer) := by
    have hlast : c.asked.length - 1 = arrived := by rw [h.asked, hwaiting]; rfl
    rw [answer, hlast, hq, hlisting, hlength, List.getElem?_append_right (Nat.le_refl _),
      Nat.sub_self, List.head?_eq_getElem?]
  rw [hanswer]
  constructor
  case pager =>
    have hdrop : (outcomes.listing limit (arrived + 1)).drop (c.given.length + 1) =
        (Pager.itemsOf (outcomes arrived)).tail := by
      rw [hlisting, hlength, List.drop_length_add_append, List.drop_one]
    have hends : (!outcomes.reaches limit (arrived + 1)) = outcomes.endsAt limit arrived := by
      rw [Outcomes.reaches_succ, hreaches, Bool.true_and, Bool.not_not]
    rw [List.length_append, List.length_singleton, hdrop, hends, Outcomes.endsAt,
      Outcomes.fetched_succ]
    exact hleft
  case asked =>
    show c.asked.length = arrived + 1
    rw [h.asked, hwaiting]
    rfl
  case waiting => exact fun h => Bool.noConfusion h
  case given =>
    rw [List.length_append, List.length_singleton, ← map_range_getElem?,
      ← h.given_of_le (Nat.le_succ arrived)]
  case length_given =>
    -- a page with others behind it has an item, the one that is given
    intro hnext
    have hitem := Outcomes.length_listing_add hpositive hnext
    rwa [List.length_append, List.length_singleton, hlength]
  case needed =>
    intro k hk
    rw [List.length_append, List.length_singleton]
    rcases Nat.lt_succ_iff_lt_or_eq.1 hk with hk | rfl
    · have hneeded := h.needed k hk
      exact ⟨hneeded.1, Nat.lt_succ_of_lt hneeded.2⟩
    · exact ⟨hreaches, hlength ▸ Nat.lt_succ_self _⟩

/-- As many pages as items hold all that a consumer has got. -/
theorem given_eq (h : c.Sound outcomes limit arrived) (hpositive : 0 < limit) {n : Nat}
    (hn : c.given.length ≤ n) :
    c.given = (List.range c.given.length).map ((outcomes.listing limit n)[·]?) := by
  rcases Nat.le_total arrived n with hle | hle
  · exact h.given_of_le hle
  · have hsame : ∀ i < c.given.length,
        (outcomes.listing limit n)[i]? = (outcomes.listing limit arrived)[i]? := by
      -- `n` pages that do not end the listing hold `n` items, and fewer are given
      intro i hi
      refine Outcomes.getElem?_listing hle fun hreaches => ?_
      have hitems := Outcomes.length_listing_add (m := 0) hpositive (by rwa [Nat.zero_add])
      rw [Nat.zero_add] at hitems
      omega
    calc c.given = _ := h.given
      _ = _ := List.map_congr_left fun i hi => (hsame i (List.mem_range.1 hi)).symm

/-- The pages asked for are those whose items before them are given, with one more item
given or asked for. -/
theorem lt_length_asked_iff (h : c.Sound outcomes limit arrived) (hpositive : 0 < limit)
    (k : Nat) :
    k < c.asked.length ↔ outcomes.reaches limit k = true ∧
      (outcomes.listing limit k).length < c.given.length + c.waiting.toNat := by
  rw [h.asked]
  constructor
  · intro hk
    by_cases hearlier : k < arrived
    · have hneeded := h.needed k hearlier
      exact ⟨hneeded.1, Nat.lt_add_right _ hneeded.2⟩
    · cases hwaiting : c.waiting with
      | false =>
        rw [hwaiting] at hk
        exact absurd hk hearlier
      | true =>
        obtain ⟨hreaches, hlength⟩ := h.of_not_isReady (h.waiting hwaiting)
        rw [hwaiting, Bool.toNat_true] at hk
        obtain rfl : k = arrived := by omega
        exact ⟨hreaches, by rw [hlength, Bool.toNat_true]; exact Nat.lt_succ_self _⟩
  · -- each of the pages that are asked for beyond those that have arrived holds an item more
    rintro ⟨hreaches, hlt⟩
    by_contra hlater
    rw [Nat.not_lt] at hlater
    have hgiven := h.length_given
      (Outcomes.reaches_of_le (Nat.le_trans (Nat.le_add_right _ _) hlater) hreaches)
    have hitems := Outcomes.length_listing_add hpositive (Outcomes.reaches_of_le hlater hreaches)
    have hbefore : (outcomes.listing limit (arrived + c.waiting.toNat)).length ≤ _ :=
      (Outcomes.listing_prefix hlater).length_le
    omega

/-- A consumer that has been told the end has left nothing. -/
theorem ended (h : c.Sound outcomes limit arrived) (hnone : none ∈ c.given) :
    c.pager.buffer = [] ∧ c.pager.done = true := by
  rw [h.given, List.mem_map] at hnone
  obtain ⟨i, hi, hbehind⟩ := hnone
  have hshort : (outcomes.listing limit arrived).length < c.given.length :=
    Nat.lt_of_le_of_lt (List.getElem?_eq_none_iff.1 hbehind) (List.mem_range.1 hi)
  have hreaches : outcomes.reaches limit arrived = false :=
    Bool.eq_false_iff.2 fun hreaches => Nat.not_le_of_lt hshort (h.length_given hreaches)
  constructor
  · have hbuffer := h.pager.buffer
    rwa [List.drop_eq_nil_of_le (Nat.le_of_lt hshort), List.map_eq_nil_iff] at hbuffer
  · rw [h.pager.done, hreaches]
    rfl

end Sound

section Run

variable (hpositive : 0 < limit) (hlimit : limit ≤ Text.maxU32) (hfits : outcomes.Fits)

include hpositive hlimit hfits

/-- One poll: something is at hand, or a page arrives, or it is on its way. -/
theorem sound_step (h : c.Sound outcomes limit arrived) (hasArrived : Bool) :
    ∃ now, (c.step outcomes hasArrived).Sound outcomes limit now := by
  cases hready : c.pager.isReady with
  | true =>
    rw [step_ready outcomes hready]
    exact ⟨arrived, h.answer_of_isReady hready⟩
  | false =>
    have hask := h.ask hready
    cases hasArrived with
    | false => exact ⟨arrived, by rwa [step_pending outcomes hready]⟩
    | true =>
      refine ⟨arrived + 1, ?_⟩
      rw [step_arrived outcomes hready]
      exact hask.answer_arrived (ask_waiting c) hpositive hlimit hfits

theorem sound_run (h : c.Sound outcomes limit arrived) (polls : List Bool) :
    ∃ now, (c.run outcomes polls).Sound outcomes limit now := by
  induction polls generalizing c arrived with
  | nil => exact ⟨arrived, h⟩
  | cons hasArrived polls ih =>
    obtain ⟨now, hnow⟩ := sound_step hpositive hlimit hfits h hasArrived
    exact ih hnow

end Run

/-! ## Answers -/

section Answers

variable (outcomes)

theorem length_given_le_step (c : Consumer) (hasArrived : Bool) :
    c.given.length ≤ (c.step outcomes hasArrived).given.length := by
  cases hready : c.pager.isReady with
  | true => simp [step_ready outcomes hready, answer]
  | false =>
    cases hasArrived with
    | false => simp [step_pending outcomes hready]
    | true => simp [length_step_given]

/-- Polls that need not wait for a page are answered. -/
theorem count_le_length_given (c : Consumer) (polls : List Bool) :
    c.given.length + polls.count true ≤ (c.run outcomes polls).given.length := by
  induction polls generalizing c with
  | nil => exact Nat.le_refl _
  | cons hasArrived polls ih =>
    have hrest := ih (c.step outcomes hasArrived)
    rw [run_cons]
    cases hasArrived with
    | false =>
      have hstep := c.length_given_le_step outcomes false
      rw [List.count_cons_of_ne (by decide)]
      omega
    | true =>
      rw [length_step_given] at hrest
      rw [List.count_cons_self]
      omega

/-! ## One item after the other -/

theorem waiting_step (hwaiting : c.waiting = false) : (c.step outcomes true).waiting = false := by
  cases hready : c.pager.isReady with
  | true => rw [step_ready outcomes hready, answer_waiting, hwaiting]
  | false => rw [step_arrived outcomes hready]

theorem waiting_run (hwaiting : c.waiting = false) (n : Nat) :
    (c.run outcomes (List.replicate n true)).waiting = false := by
  induction n generalizing c with
  | zero => exact hwaiting
  | succ n ih => exact ih (waiting_step outcomes hwaiting)

theorem length_run_given (c : Consumer) (n : Nat) :
    (c.run outcomes (List.replicate n true)).given.length = c.given.length + n := by
  induction n generalizing c with
  | zero => rfl
  | succ n ih =>
    rw [List.replicate_succ, run_cons, ih, length_step_given, Nat.add_assoc, Nat.add_comm 1]

/-- At the end nothing happens any more. -/
theorem run_ended (hbuffer : c.pager.buffer = []) (hdone : c.pager.done = true) (n : Nat) :
    c.run outcomes (List.replicate n true) =
      { c with given := c.given ++ List.replicate n none } := by
  induction n generalizing c with
  | zero => simp
  | succ n ih =>
    have hready : c.pager.isReady = true := by rw [Pager.isReady, hdone, Bool.or_true]
    have hstep : c.step outcomes true = { c with given := c.given ++ [none] } := by
      rw [step_ready outcomes hready, answer, Pager.poll_of_isReady hready, Pager.shift, hbuffer]
      rfl
    rw [List.replicate_succ, run_cons, hstep]
    refine (ih (c := { c with given := c.given ++ [none] }) hbuffer hdone).trans ?_
    rw [List.append_assoc]
    rfl

/-- A poll whose page comes at once. -/
theorem poll_serve (hwaiting : c.waiting = false) :
    ∃ item, (c.step outcomes true).given = c.given ++ [item] ∧
      c.pager.poll outcomes.serve c.asked =
        ((item, (c.step outcomes true).pager), (c.step outcomes true).asked) := by
  refine ⟨(Id.run (c.pager.poll fun _ _ => outcomes c.asked.length)).1, ?_⟩
  cases hready : c.pager.isReady with
  | true =>
    rw [step_ready outcomes hready, answer, Pager.poll_of_isReady hready,
      Pager.poll_of_isReady hready, Pager.poll_of_isReady hready]
    exact ⟨rfl, rfl⟩
  | false =>
    have hask : c.ask = { c with
        waiting := true
        asked := c.asked ++ [(c.pager.offset, c.pager.limit)] } :=
      if_neg (Bool.eq_false_iff.1 hwaiting)
    have hlast : (c.asked ++ [(c.pager.offset, c.pager.limit)]).length - 1 = c.asked.length := by
      simp
    rw [step_arrived outcomes hready, hask, answer, hlast, Pager.poll_of_not_isReady hready,
      Pager.poll_of_not_isReady hready]
    refine ⟨rfl, ?_⟩
    show (match outcomes c.asked.length with
      | .ok r => pure (c.pager.absorb r).shift
      | .error e => pure (some (.error e), { c.pager with done := true }) :
        StateM (List (Nat × Nat)) _) _ = _
    cases outcomes c.asked.length with
    | ok r => rfl
    | error e => rfl

end Answers

theorem reduceOption_map_range {α : Type} (l : List α) (n : Nat) :
    ((List.range n).map (l[·]?)).reduceOption = l.take n := by
  induction n with
  | zero => rfl
  | succ n ih =>
    rw [← map_range_getElem?, List.reduceOption_append, ih, List.take_add_one]
    cases l[n]? <;> rfl

/-- Taking items one by one is polling, except that nothing is asked for after the end. -/
theorem items_serve (hpositive : 0 < limit) (hlimit : limit ≤ Text.maxU32) (hfits : outcomes.Fits)
    (h : c.Sound outcomes limit arrived) (hwaiting : c.waiting = false) (n : Nat) :
    ∃ given, (c.run outcomes (List.replicate n true)).given = c.given ++ given ∧
      c.pager.items outcomes.serve n c.asked =
        (given.reduceOption, (c.run outcomes (List.replicate n true)).asked) := by
  induction n generalizing c arrived with
  | zero => exact ⟨[], by simp, rfl⟩
  | succ n ih =>
    obtain ⟨item, hgiven, hpoll⟩ := poll_serve outcomes hwaiting
    obtain ⟨now, hnow⟩ := sound_step hpositive hlimit hfits h true
    rw [List.replicate_succ, run_cons]
    cases item with
    | none =>
      -- taking items ends here, and so would polling
      obtain ⟨hbuffer, hdone⟩ := hnow.ended (by rw [hgiven]; simp)
      rw [run_ended outcomes hbuffer hdone, hgiven]
      refine ⟨none :: List.replicate n none, by simp, ?_⟩
      rw [Pager.items_of_poll_none hpoll]
      simp
    | some item =>
      obtain ⟨given, hrun, hrest⟩ := ih hnow (waiting_step outcomes hwaiting)
      refine ⟨some item :: given, by rw [hrun, hgiven, List.append_assoc]; rfl, ?_⟩
      rw [Pager.items_of_poll_some hpoll, hrest, List.reduceOption_cons_of_some]

/-- Whatever the pages of a listing give, and whenever they arrive, a consumer gets the items
of the pages in order, up to the first page that ends the listing, and then nothing; and the
pages asked for are those before which all items are given, with one more asked for. -/
theorem polled (outcomes : Outcomes) (limit offset : Nat) (hpositive : 1 ≤ limit)
    (hlimit : limit ≤ Text.maxU32) (hfits : outcomes.Fits) :
    (∃ p, Pager.start limit offset = .ok p ∧
      (∀ polls : List Bool,
        let c := (start p).run outcomes polls
        polls.count true ≤ c.given.length ∧
        (∀ n, c.given.length ≤ n →
          c.given = (List.range c.given.length).map ((outcomes.listing limit n)[·]?)) ∧
        ∀ k, k < c.asked.length ↔ outcomes.reaches limit k = true ∧
          (outcomes.listing limit k).length < c.given.length + c.waiting.toNat) ∧
      ∀ n, ∃ asked,
        p.items outcomes.serve n [] = ((outcomes.listing limit n).take n, asked) ∧
        ∀ k, k < asked.length ↔ outcomes.reaches limit k = true ∧
          (outcomes.listing limit k).length < n) ∧
    ∀ k, outcomes.reaches limit k = true →
      outcomes.listing limit (k + 1) =
        ((List.range (k + 1)).flatMap fun i => Pager.itemsOf (outcomes i)) ∧
      (outcomes.endsAt limit k = true →
        ∀ n, k < n → outcomes.listing limit n = outcomes.listing limit (k + 1)) := by
  have hstart : Pager.start limit offset = .ok (Pager.between limit offset 0) :=
    if_neg (Nat.pos_iff_ne_zero.1 hpositive)
  have hsound : (start (Pager.between limit offset 0)).Sound outcomes limit 0 :=
    Sound.start offset
  refine ⟨⟨_, hstart, ?_, ?_⟩, ?_⟩
  · intro polls
    obtain ⟨now, hnow⟩ := sound_run hpositive hlimit hfits hsound polls
    refine ⟨?_, fun n hn => hnow.given_eq hpositive hn, hnow.lt_length_asked_iff hpositive⟩
    have hanswered := (start (Pager.between limit offset 0)).count_le_length_given outcomes polls
    rwa [start_given, List.length_nil, Nat.zero_add] at hanswered
  · intro n
    obtain ⟨now, hnow⟩ := sound_run hpositive hlimit hfits hsound (List.replicate n true)
    obtain ⟨given, hgiven, hitems⟩ := items_serve hpositive hlimit hfits hsound rfl n
    have hwaiting := waiting_run outcomes (start_waiting (Pager.between limit offset 0)) n
    have hlength := (start (Pager.between limit offset 0)).length_run_given outcomes n
    rw [start_given, List.length_nil, Nat.zero_add] at hlength
    have hall := hnow.given_eq hpositive (Nat.le_of_eq hlength)
    rw [hlength, hgiven, start_given, List.nil_append] at hall
    obtain rfl : given = (List.range n).map ((outcomes.listing limit n)[·]?) := hall
    rw [reduceOption_map_range] at hitems
    refine ⟨_, hitems, fun k => ?_⟩
    rw [hnow.lt_length_asked_iff hpositive, hwaiting, Bool.toNat_false, Nat.add_zero, hlength]
  · exact fun k hk => ⟨Outcomes.listing_succ_eq_flatMap hk,
      fun hend n hn => Outcomes.listing_of_endsAt hend hn⟩

/-- Two items, then a failure. -/
def failing : Outcomes
  | 0 => .ok ⟨.arr [.bool true, .bool false], 200, none⟩
  | _ => .error (.argument "page")

theorem fits_failing : failing.Fits := by
  intro k r hr t ht
  cases k with
  | zero =>
    cases hr
    cases ht
  | succ k => cases hr

theorem polled_failing :
    1 ≤ 2 ∧ 2 ≤ Text.maxU32 ∧ failing.Fits ∧
      ∃ p, Pager.start 2 0 = .ok p ∧
        (∃ asked, p.items failing.serve 5 [] =
            ([.ok (.bool true), .ok (.bool false), .error (.argument "page")], asked) ∧
          1 < asked.length ∧ ¬ 2 < asked.length) ∧
        ∃ asked, p.items failing.serve 2 [] = ([.ok (.bool true), .ok (.bool false)], asked) ∧
          ¬ 1 < asked.length := by
  have hlimit : 2 ≤ Text.maxU32 := by decide
  obtain ⟨⟨p, hstart, -, hitems⟩, -⟩ := polled failing 2 0 (by decide) hlimit fits_failing
  obtain ⟨five, hfive, hasked⟩ := hitems 5
  obtain ⟨two, htwo, hfirst⟩ := hitems 2
  refine ⟨by decide, hlimit, fits_failing, p, hstart, ⟨five, hfive, ?_, ?_⟩, two, htwo, ?_⟩
  · exact (hasked 1).2 ⟨rfl, by decide⟩
  · exact fun h => Bool.noConfusion ((hasked 2).1 h).1
  · exact fun h => absurd ((hfirst 1).1 h).2 (by decide)

end Consumer

end CloudClient
