import ForgeErp.EventStore.Impl.Query
import ForgeErp.EventStore.Lemmas.InMemory
import ForgeErp.Library.Paging

/-!
This module contains the verification of the pages that a query is answered with. Where a page ends
is a sum of two `u32`, and only then widened for the comparison with the total.
-/

namespace ForgeErp

namespace EventFilter

structure Matches (filter : EventFilter) (e : StoredEvent) : Prop where
  aggregateId : ∀ aggId, filter.aggregateId = some aggId → e.aggregateId = aggId
  aggregateType : ∀ aggType, filter.aggregateType = some aggType → e.aggregateType = aggType
  eventType : ∀ evtType, filter.eventType = some evtType → e.eventType = evtType
  occurredAfter : ∀ after, filter.occurredAfter = some after → after.nanos ≤ e.occurredAt.nanos
  occurredBefore : ∀ before, filter.occurredBefore = some before → e.occurredAt.nanos ≤ before.nanos

theorem accepts_iff (filter : EventFilter) (e : StoredEvent)
    : filter.accepts e = true ↔ Matches filter e := by
  unfold accepts
  simp only [Bool.and_eq_true, Option.all_eq_true_iff_get, beq_iff_eq, decide_eq_true_eq]
  constructor
  . rintro ⟨⟨⟨⟨haggregate, htype⟩, hevent⟩, hafter⟩, hbefore⟩
    refine ⟨?_, ?_, ?_, ?_, ?_⟩
    . intro aggId h
      simpa [h] using haggregate
    . intro aggType h
      simpa [h] using htype
    . intro evtType h
      simpa [h] using hevent
    . intro after h
      simpa [h] using hafter
    . intro before h
      simpa [h] using hbefore
  . rintro ⟨haggregate, htype, hevent, hafter, hbefore⟩
    refine ⟨⟨⟨⟨?_, ?_⟩, ?_⟩, ?_⟩, ?_⟩
    . intro h
      exact haggregate _ (Option.some_get h).symm
    . intro h
      exact htype _ (Option.some_get h).symm
    . intro h
      exact hevent _ (Option.some_get h).symm
    . intro h
      exact hafter _ (Option.some_get h).symm
    . intro h
      exact hbefore _ (Option.some_get h).symm

end EventFilter

namespace Pagination

def Fits (self : Pagination) : Prop :=
  self.offset.toNat + self.limit.toNat < 2 ^ 32

theorem hasMore_of_fits {self : Pagination} (h : self.Fits) (overflowChecks : Bool) (total : Nat)
    : self.hasMore overflowChecks total
        = some (decide (self.offset.toNat + self.limit.toNat < total)) := by
  unfold Fits at h
  have hsum : (self.offset + self.limit).toNat = self.offset.toNat + self.limit.toNat := by
    rw [UInt32.toNat_add, Nat.mod_eq_of_lt h]
  unfold hasMore addU32
  rw [decide_eq_false (Nat.not_le.mpr h), Bool.and_false, if_neg Bool.false_ne_true,
    Option.map_some, hsum]

theorem hasMore_of_not_fits {self : Pagination} (h : ¬ self.Fits) (total : Nat)
    : self.hasMore true total = none := by
  unfold Fits at h
  unfold hasMore addU32
  rw [decide_eq_true (Nat.not_lt.mp h)]
  rfl

end Pagination

namespace InMemoryEventStore

-- What a query pages through.
def listing (store : InMemoryEventStore) (keys : List StreamKey) (tenantId : TenantId)
    (filter : EventFilter)
    : List StoredEvent :=
  ((store.tenantEvents keys tenantId).filter filter.accepts).insertionSort StoredEvent.QueryOrder

structure Listed (store : InMemoryEventStore) (keys : List StreamKey) (tenantId : TenantId)
    (filter : EventFilter) (l : List StoredEvent) : Prop where
  mem_iff : ∀ e, e ∈ l ↔ ∃ key, key.tenantId = tenantId ∧ e ∈ store.loadStream key
    ∧ filter.Matches e
  perm : l.Perm ((store.tenantEvents keys tenantId).filter filter.accepts)
  sorted : l.Pairwise StoredEvent.QueryOrder

theorem mem_tenantEvents_iff {store : InMemoryEventStore} {keys : List StreamKey}
    (hkeys : store.streams.Enumerates keys) (tenantId : TenantId) (e : StoredEvent)
    : e ∈ store.tenantEvents keys tenantId
        ↔
      ∃ key, key.tenantId = tenantId ∧ e ∈ store.loadStream key := by
  unfold tenantEvents KeyMap.valuesOf loadStream
  simp only [List.mem_flatten, List.mem_filterMap, List.mem_filter, beq_iff_eq]
  constructor
  . rintro ⟨stream, ⟨key, ⟨_, htenant⟩, hget⟩, he⟩
    refine ⟨key, htenant, ?_⟩
    rw [hget]
    exact he
  . rintro ⟨key, htenant, he⟩
    cases hget : store.streams.get key with
    | none =>
      rw [hget] at he
      cases he
    | some stream =>
      rw [hget] at he
      refine ⟨stream, ⟨key, ⟨?_, htenant⟩, hget⟩, he⟩
      rw [hkeys.mem_iff, hget]
      rfl

theorem listed_listing {store : InMemoryEventStore} {keys : List StreamKey}
    (hkeys : store.streams.Enumerates keys) (tenantId : TenantId) (filter : EventFilter)
    : store.Listed keys tenantId filter (store.listing keys tenantId filter) := by
  refine ⟨?_, List.perm_insertionSort _ _, List.pairwise_insertionSort _ _⟩
  intro e
  unfold listing
  rw [List.mem_insertionSort, List.mem_filter, mem_tenantEvents_iff hkeys, filter.accepts_iff]
  constructor
  . rintro ⟨⟨key, htenant, he⟩, hmatches⟩
    exact ⟨key, htenant, he, hmatches⟩
  . rintro ⟨key, htenant, he, hmatches⟩
    exact ⟨⟨key, htenant, he⟩, hmatches⟩

end InMemoryEventStore

section Pages

-- The answer to a query for a page of `l`.
def Answers (l : List StoredEvent) (query : Bool → Pagination → Option EventQueryResult) : Prop :=
  ∀ overflowChecks pagination, query overflowChecks pagination
    = (pagination.hasMore overflowChecks l.length).map fun hasMore =>
        { events := pagination.slice l, total := l.length, pagination, hasMore }

/--
Every build answers with the elements `offset, ..., offset + limit - 1` of `l`, and says whether
there are elements behind them.
-/
def ExactPage (l : List StoredEvent) (query : Bool → Pagination → Option EventQueryResult)
    (pagination : Pagination) : Prop :=
  ∀ overflowChecks, ∃ result, query overflowChecks pagination = some result
    ∧ result.events = (l.drop pagination.offset.toNat).take pagination.limit.toNat
    ∧ result.total = l.length
    ∧ (result.hasMore = true ↔ pagination.offset.toNat + pagination.limit.toNat < l.length)

-- The walk over the offsets `offset, offset + limit, ...` for as long as there is more.
def walk (query : Bool → Pagination → Option EventQueryResult)
    (overflowChecks : Bool) (limit : UInt32)
    (fuel : Nat) (offset : UInt32)
    : Option (List StoredEvent) :=
  match fuel with
  | 0 => none
  | fuel + 1 =>
    match query overflowChecks { limit, offset } with
    | none => none
    | some result =>
      if result.hasMore then
        match addU32 overflowChecks offset limit with
        | none => none
        | some next => (walk query overflowChecks limit fuel next).map (result.events ++ ·)
      else
        some result.events

/--
In every build the walk stops, having seen every element once.
-/
def WalksThrough (l : List StoredEvent) (query : Bool → Pagination → Option EventQueryResult)
    (limit : UInt32) : Prop :=
  ∀ overflowChecks, ∃ fuel, walk query overflowChecks limit fuel 0 = some l

-- An empty list has a page, too.
def pagesOf (l : List StoredEvent) (limit : UInt32) : Nat :=
  (l.length - 1) / limit.toNat + 1

variable {l : List StoredEvent} {query : Bool → Pagination → Option EventQueryResult}
  {overflowChecks : Bool} {limit : UInt32}

theorem exactPage_iff (h : Answers l query) (pagination : Pagination)
    : ExactPage l query pagination ↔ pagination.Fits := by
  constructor
  . intro hexact
    by_contra hfits
    rcases hexact true with ⟨result, hresult, _⟩
    rw [h, Pagination.hasMore_of_not_fits hfits] at hresult
    cases hresult
  . intro hfits overflowChecks
    have hmore := Pagination.hasMore_of_fits hfits overflowChecks l.length
    refine ⟨⟨pagination.slice l, l.length, pagination, _⟩, ?_, rfl, rfl, decide_eq_true_iff⟩
    rw [h, hmore]
    rfl

section Counting

variable (hlimit : 1 ≤ limit.toNat)

include hlimit

theorem length_le_pages : l.length ≤ limit.toNat * pagesOf l limit := by
  have : l.length - 1 < limit.toNat * ((l.length - 1) / limit.toNat + 1) :=
    Nat.lt_mul_div_succ _ hlimit
  unfold pagesOf
  omega

theorem lt_length_of_lt_pages {k : Nat} (hk : k + 1 < pagesOf l limit)
    : limit.toNat * (k + 1) < l.length := by
  unfold pagesOf at hk
  have hle : k + 1 ≤ (l.length - 1) / limit.toNat := by omega
  rw [Nat.le_div_iff_mul_le hlimit, Nat.mul_comm] at hle
  have hpos : 1 * 1 ≤ limit.toNat * (k + 1) := Nat.mul_le_mul hlimit (by omega)
  omega

end Counting

def offsetAt (limit : UInt32) (k : Nat) : UInt32 :=
  UInt32.ofNat (limit.toNat * k)

theorem toNat_offsetAt {k : Nat} (h : limit.toNat * k < 2 ^ 32)
    : (offsetAt limit k).toNat = limit.toNat * k := by
  unfold offsetAt
  rw [UInt32.toNat_ofNat', Nat.mod_eq_of_lt h]

theorem fits_offsetAt_iff {k : Nat} (h : limit.toNat * k < 2 ^ 32)
    : Pagination.Fits ⟨limit, offsetAt limit k⟩ ↔ limit.toNat * (k + 1) < 2 ^ 32 := by
  unfold Pagination.Fits
  dsimp only
  rw [toNat_offsetAt h, Nat.mul_succ]

theorem addU32_offsetAt {k : Nat} (h : limit.toNat * (k + 1) < 2 ^ 32)
    : addU32 overflowChecks (offsetAt limit k) limit = some (offsetAt limit (k + 1)) := by
  have hnext := toNat_offsetAt h
  rw [Nat.mul_succ] at h
  have hhere : (offsetAt limit k).toNat = limit.toNat * k := toNat_offsetAt (by omega)
  have hsum : offsetAt limit k + limit = offsetAt limit (k + 1) := by
    apply UInt32.toNat_inj.mp
    rw [UInt32.toNat_add, hhere, hnext, Nat.mul_succ, Nat.mod_eq_of_lt h]
  unfold addU32
  rw [hhere, decide_eq_false (Nat.not_le.mpr h), Bool.and_false, if_neg Bool.false_ne_true, hsum]

-- One round of the walk, from a page that fits.
theorem walk_succ (h : Answers l query) {k : Nat} (hfits : limit.toNat * (k + 1) < 2 ^ 32)
    (fuel : Nat)
    : walk query overflowChecks limit (fuel + 1) (offsetAt limit k)
        =
      if limit.toNat * (k + 1) < l.length then
        (walk query overflowChecks limit fuel (offsetAt limit (k + 1))).map
          ((l.drop (limit.toNat * k)).take limit.toNat ++ ·)
      else
        some ((l.drop (limit.toNat * k)).take limit.toNat) := by
  have hlt : limit.toNat * k < 2 ^ 32 := by
    rw [Nat.mul_succ] at hfits
    omega
  have hmore := Pagination.hasMore_of_fits ((fits_offsetAt_iff hlt).mpr hfits)
    overflowChecks l.length
  dsimp only at hmore
  rw [toNat_offsetAt hlt, ← Nat.mul_succ] at hmore
  rw [walk, h, hmore]
  dsimp only [Option.map_some]
  rw [addU32_offsetAt hfits]
  unfold Pagination.slice
  rw [toNat_offsetAt hlt]
  by_cases hlast : limit.toNat * (k + 1) < l.length
  . rw [if_pos hlast, if_pos (decide_eq_true hlast)]
  . rw [if_neg hlast, if_neg (by simpa using hlast)]

-- By induction on the pages that are left after this one.
theorem walk_rest (h : Answers l query) (hlimit : 1 ≤ limit.toNat)
    (hfits : limit.toNat * pagesOf l limit < 2 ^ 32) (m k : Nat)
    (hpages : k + m + 1 = pagesOf l limit)
    : walk query overflowChecks limit (m + 1) (offsetAt limit k)
        = some (l.drop (limit.toNat * k)) := by
  induction m generalizing k with
  | zero =>
    have hend : limit.toNat * (k + 1) = limit.toNat * pagesOf l limit := by
      rw [← hpages]
    have hlength := length_le_pages (l := l) hlimit
    rw [walk_succ h (by omega), if_neg (by omega), List.take_of_length_le]
    rw [List.length_drop]
    rw [Nat.mul_succ] at hend
    omega
  | succ m ih =>
    have hlt := lt_length_of_lt_pages (l := l) hlimit (k := k) (by omega)
    have hle : limit.toNat * (k + 1) ≤ limit.toNat * pagesOf l limit := by
      apply Nat.mul_le_mul_left
      omega
    rw [walk_succ h (by omega), if_pos hlt, ih (k + 1) (by omega), Option.map_some, Nat.mul_succ,
      ← List.drop_drop, List.take_append_drop]

-- The page that ends behind the last `u32` is asked for, and it is not answered.
theorem walk_overflows (h : Answers l query) (hlimit : 1 ≤ limit.toNat)
    (hfits : ¬ limit.toNat * pagesOf l limit < 2 ^ 32) (fuel k : Nat)
    (hk : limit.toNat * k < 2 ^ 32)
    : walk query true limit fuel (offsetAt limit k) = none := by
  induction fuel generalizing k with
  | zero => rfl
  | succ fuel ih =>
    by_cases hnext : limit.toNat * (k + 1) < 2 ^ 32
    . have hmore : k + 1 < pagesOf l limit := by
        apply Nat.lt_of_mul_lt_mul_left (a := limit.toNat)
        omega
      rw [walk_succ h hnext, if_pos (lt_length_of_lt_pages hlimit hmore), ih (k + 1) hnext]
      rfl
    . have hnot := (fits_offsetAt_iff hk).not.mpr hnext
      rw [walk, h, Pagination.hasMore_of_not_fits hnot]
      rfl

theorem walksThrough_iff (h : Answers l query) (hlimit : 1 ≤ limit.toNat)
    : WalksThrough l query limit ↔ limit.toNat * pagesOf l limit < 2 ^ 32 := by
  constructor
  . intro hwalks
    by_contra hfits
    rcases hwalks true with ⟨fuel, hwalk⟩
    have hnone := walk_overflows h hlimit hfits fuel 0 (by omega)
    have := hnone.symm.trans hwalk
    cases this
  . intro hfits overflowChecks
    have hpos : 1 ≤ pagesOf l limit := Nat.le_add_left 1 _
    have hrest := @walk_rest l query overflowChecks limit h hlimit hfits
      (pagesOf l limit - 1) 0 (by omega)
    exact ⟨_, hrest⟩

end Pages

namespace InMemoryEventStore

theorem answers_queryEvents (store : InMemoryEventStore) (keys : List StreamKey)
    (tenantId : TenantId)
    (filter : EventFilter)
    : Answers (store.listing keys tenantId filter)
        (fun overflowChecks pagination => store.queryEvents overflowChecks keys tenantId
          filter pagination) :=
  fun _ _ => rfl

theorem answers_getAggregateEvents (store : InMemoryEventStore) (key : StreamKey)
    : Answers (store.loadStream key)
        (fun overflowChecks pagination => store.getAggregateEvents overflowChecks key
          (some pagination)) :=
  fun _ _ => rfl

theorem pages_exact_iff (store : InMemoryEventStore) (keys : List StreamKey)
    (hkeys : store.streams.Enumerates keys) (tenantId : TenantId) (filter : EventFilter)
    (aggregateId : AggregateId) (pagination : Pagination) (hlimit : 1 ≤ pagination.limit.toNat)
    : ∃ l, store.Listed keys tenantId filter l
        ∧ (ExactPage l (store.queryEvents · keys tenantId filter) pagination ↔ pagination.Fits)
        ∧ (ExactPage (store.loadStream ⟨tenantId, aggregateId⟩)
            (fun overflowChecks pagination =>
              store.getAggregateEvents overflowChecks ⟨tenantId, aggregateId⟩ (some pagination))
            pagination
              ↔
            pagination.Fits)
        ∧ (WalksThrough l (store.queryEvents · keys tenantId filter) pagination.limit
              ↔
            pagination.limit.toNat * pagesOf l pagination.limit < 2 ^ 32)
        ∧ (WalksThrough (store.loadStream ⟨tenantId, aggregateId⟩)
            (fun overflowChecks pagination =>
              store.getAggregateEvents overflowChecks ⟨tenantId, aggregateId⟩ (some pagination))
            pagination.limit
              ↔
            pagination.limit.toNat * pagesOf (store.loadStream ⟨tenantId, aggregateId⟩)
              pagination.limit
              < 2 ^ 32) := by
  have hquery := store.answers_queryEvents keys tenantId filter
  have haggregate := store.answers_getAggregateEvents ⟨tenantId, aggregateId⟩
  exact ⟨store.listing keys tenantId filter, listed_listing hkeys tenantId filter,
    exactPage_iff hquery pagination, exactPage_iff haggregate pagination,
    walksThrough_iff hquery hlimit, walksThrough_iff haggregate hlimit⟩

def opened : InMemoryEventStore :=
  ⟨KeyMap.empty.insert opening.key [opening.toStored 1]⟩

theorem enumerates_opened : opened.streams.Enumerates [opening.key] := by
  refine ⟨List.nodup_singleton _, ?_⟩
  intro key
  unfold opened
  rw [KeyMap.get_insert, List.mem_singleton]
  split
  . next h => simp [h]
  . next h => simp [h]

def lastPage : Pagination where
  limit := 1
  offset := UInt32.ofNat (2 ^ 32 - 1)

-- The page behind the last offset is no page, and without the panic there seems to be more to come.
theorem last_page_inexact
    : opened.streams.Enumerates [opening.key]
      ∧ opened.queryEvents true [opening.key] opening.tenantId .default lastPage = none
      ∧ (opened.queryEvents false [opening.key] opening.tenantId .default lastPage).map (·.hasMore)
          = some true
      ∧ ∀ l, opened.Listed [opening.key] opening.tenantId .default l →
          ¬ ExactPage l (opened.queryEvents · [opening.key] opening.tenantId .default)
            lastPage := by
  have hnone : opened.queryEvents true [opening.key] opening.tenantId .default lastPage = none :=
    rfl
  refine ⟨enumerates_opened, hnone, by decide, ?_⟩
  intro l _ hexact
  rcases hexact true with ⟨result, hresult, _⟩
  have := hnone.symm.trans hresult
  cases this

def other : UncommittedEvent :=
  { opening with aggregateId := ⟨⟨3⟩⟩ }

-- Three events of one item and two of another, at the same time
def stocked : InMemoryEventStore :=
  ⟨(KeyMap.empty.insert opening.key
    [opening.toStored 1, opening.toStored 2, opening.toStored 3]).insert
    other.key [other.toStored 1, other.toStored 2]⟩

theorem enumerates_stocked : stocked.streams.Enumerates [opening.key, other.key] := by
  refine ⟨by decide, ?_⟩
  intro key
  unfold stocked
  rw [KeyMap.get_insert, KeyMap.get_insert, List.mem_cons, List.mem_singleton]
  split
  . next h => simp [h]
  . next h =>
    split
    . next h' => simp [h']
    . next h' => simp [h, h']

theorem pages_exact_iff_stocked
    : ∃ l, stocked.Listed [opening.key, other.key] opening.tenantId .default l
        ∧ l.length = 5
        ∧ ExactPage l (stocked.queryEvents · [opening.key, other.key] opening.tenantId .default)
            ⟨2, 2⟩
        ∧ WalksThrough l (stocked.queryEvents · [opening.key, other.key] opening.tenantId .default)
            2 := by
  rcases pages_exact_iff stocked [opening.key, other.key] enumerates_stocked
      opening.tenantId .default
    opening.aggregateId ⟨2, 2⟩ (by decide) with ⟨l, hlisted, hpage, _, hwalks, _⟩
  have hlength : l.length = 5 := hlisted.perm.length_eq
  have hfits : (⟨2, 2⟩ : Pagination).Fits := by
    unfold Pagination.Fits
    decide
  refine ⟨l, hlisted, hlength, hpage.mpr hfits, hwalks.mpr ?_⟩
  unfold pagesOf
  rw [hlength]
  decide

end InMemoryEventStore

end ForgeErp
