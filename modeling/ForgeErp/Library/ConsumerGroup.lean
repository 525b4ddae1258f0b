import Mathlib.Data.List.Nodup
import Mathlib.Data.List.Range
import Mathlib.Tactic.Common

/-!
This module contains the consumer groups of append-only streams, with the commands that read, claim
and acknowledge entries. Entries are identified by their positions, which grow as identifiers do
that the server generates. Times are milliseconds of the server's clock.
-/

structure StreamEntry (α : Type) where
  id : Nat
  value : α

structure PendingEntry (κ : Type) where
  id : Nat
  consumer : κ
  deliveredAt : Nat
  deliveries : Nat

structure ConsumerGroup (κ : Type) where
  -- how many entries of the stream have been delivered to somebody of the group
  lastDelivered : Nat
  -- delivered and not acknowledged, in the order of the identifiers
  pending : List (PendingEntry κ)

namespace ConsumerGroup

variable {α κ : Type}

-- `XGROUP CREATE` with `0`
def new : ConsumerGroup κ where
  lastDelivered := 0
  pending := []

/--
`XREADGROUP` with `>`: the next entries that have not been delivered to anybody.
-/
def read (group : ConsumerGroup κ) (entries : List α) (consumer : κ) (count now : Nat)
    : List (StreamEntry α) × ConsumerGroup κ :=
  let fresh := (((entries.drop group.lastDelivered).take count).zipIdx group.lastDelivered).map
    fun (value, id) => { id, value }
  (fresh, {
    lastDelivered := group.lastDelivered + fresh.length
    pending := group.pending ++ fresh.map fun entry => {
      id := entry.id
      consumer
      deliveredAt := now
      deliveries := 1
    } })

/--
`XPENDING` over the whole range, for one consumer.
-/
def pendingOf [DecidableEq κ] (group : ConsumerGroup κ) (consumer : κ) (count : Nat)
    : List (PendingEntry κ) :=
  (group.pending.filter fun entry => entry.consumer = consumer).take count

def isIdle (minIdle now : Nat) (entry : PendingEntry κ) : Bool :=
  minIdle ≤ now - entry.deliveredAt

/--
`XCLAIM` with `RETRYCOUNT`: entries that have not been idle for long enough are left out.
-/
def claim (group : ConsumerGroup κ) (entries : List α) (consumer : κ)
    (minIdle now : Nat) (ids : List Nat)
    (retryCount : Nat)
    : List (StreamEntry α) × ConsumerGroup κ :=
  let claimed := ids.filterMap fun id =>
    if group.pending.any fun entry => entry.id == id && isIdle minIdle now entry then
      entries[id]?.map fun value => { id, value }
    else
      none
  (claimed, { group with
    pending := group.pending.map fun entry =>
      if entry.id ∈ ids ∧ isIdle minIdle now entry then
        { entry with consumer, deliveredAt := now, deliveries := retryCount }
      else
        entry })

/--
`XACK`
-/
def ack (group : ConsumerGroup κ) (ids : List Nat) : ConsumerGroup κ :=
  { group with pending := group.pending.filter fun entry => entry.id ∉ ids }

/--
What has been delivered is in the stream, and nothing is pending twice.
-/
structure WellFormed (group : ConsumerGroup κ) (entries : List α) : Prop where
  delivered : group.lastDelivered ≤ entries.length
  sorted : (group.pending.map PendingEntry.id).Pairwise (· < ·)
  pending : ∀ entry ∈ group.pending, entry.id < group.lastDelivered

section Specs

variable {group : ConsumerGroup κ} {entries : List α} {consumer : κ} {count now : Nat}

theorem wellFormed_new (entries : List α) : (new : ConsumerGroup κ).WellFormed entries where
  delivered := Nat.zero_le _
  sorted := .nil
  pending entry hentry := by cases hentry

theorem WellFormed.append (h : group.WellFormed entries) (rest : List α)
    : group.WellFormed (entries ++ rest) where
  delivered := by
    have hdelivered := h.delivered
    rw [List.length_append]
    omega
  sorted := h.sorted
  pending := h.pending

theorem WellFormed.eq_of_id (h : group.WellFormed entries) {entry entry' : PendingEntry κ}
    (hentry : entry ∈ group.pending) (hentry' : entry' ∈ group.pending) (hid : entry.id = entry'.id)
    : entry = entry' := by
  have hnodup : (group.pending.map PendingEntry.id).Nodup := h.sorted.imp Nat.ne_of_lt
  exact List.inj_on_of_nodup_map hnodup hentry hentry' hid

theorem read_ids
    : (group.read entries consumer count now).1.map StreamEntry.id
        = List.range' group.lastDelivered (group.read entries consumer count now).1.length := by
  unfold read
  dsimp only
  rw [List.map_map, List.length_map, List.length_zipIdx]
  exact List.zipIdx_map_snd _ _

theorem read_sorted
    : ((group.read entries consumer count now).1.map StreamEntry.id).Pairwise (· < ·) := by
  rw [read_ids]
  exact List.pairwise_lt_range'

theorem read_lastDelivered
    : (group.read entries consumer count now).2.lastDelivered
        = group.lastDelivered + (group.read entries consumer count now).1.length := rfl

theorem read_pending
    : (group.read entries consumer count now).2.pending
        = group.pending ++ (group.read entries consumer count now).1.map fun entry =>
          { id := entry.id, consumer, deliveredAt := now, deliveries := 1 } := rfl

theorem read_bounds {entry : StreamEntry α}
    (hentry : entry ∈ (group.read entries consumer count now).1)
    : group.lastDelivered ≤ entry.id
      ∧ entry.id < (group.read entries consumer count now).2.lastDelivered := by
  have hid := List.mem_map_of_mem (f := StreamEntry.id) hentry
  rw [read_ids, List.mem_range'_1] at hid
  rw [read_lastDelivered]
  exact hid

theorem read_value {entry : StreamEntry α}
    (hentry : entry ∈ (group.read entries consumer count now).1)
    : entries[entry.id]? = some entry.value := by
  unfold read at hentry
  rcases List.mem_map.mp hentry with ⟨⟨value, id⟩, hmem, rfl⟩
  rcases List.mem_zipIdx_iff_le_and_getElem?_sub.mp hmem with ⟨hle, hget⟩
  rw [List.getElem?_take] at hget
  split at hget
  . rw [List.getElem?_drop, Nat.add_sub_cancel' hle] at hget
    exact hget
  . cases hget

theorem WellFormed.read (h : group.WellFormed entries) (consumer : κ) (count now : Nat)
    : (group.read entries consumer count now).2.WellFormed entries where
  delivered := by
    have hdelivered := h.delivered
    rw [read_lastDelivered]
    unfold ConsumerGroup.read
    dsimp only
    rw [List.length_map, List.length_zipIdx, List.length_take, List.length_drop]
    omega
  sorted := by
    rw [read_pending, List.map_append, List.map_map, List.pairwise_append]
    refine ⟨h.sorted, read_sorted, ?_⟩
    intro id hid id' hid'
    rcases List.mem_map.mp hid with ⟨entry, hentry, rfl⟩
    rcases List.mem_map.mp hid' with ⟨entry', hentry', rfl⟩
    exact Nat.lt_of_lt_of_le (h.pending entry hentry) (read_bounds hentry').1
  pending := by
    intro entry hentry
    rw [read_pending, List.mem_append] at hentry
    rcases hentry with hold | hnew
    . rw [read_lastDelivered]
      exact Nat.lt_add_right _ (h.pending entry hold)
    . rcases List.mem_map.mp hnew with ⟨fresh, hfresh, rfl⟩
      exact (read_bounds hfresh).2

theorem mem_of_mem_pendingOf [DecidableEq κ] {entry : PendingEntry κ}
    (h : entry ∈ group.pendingOf consumer count)
    : entry ∈ group.pending ∧ entry.consumer = consumer := by
  have hfilter := List.mem_of_mem_take h
  rw [List.mem_filter, decide_eq_true_iff] at hfilter
  exact hfilter

theorem WellFormed.pendingOf_sorted [DecidableEq κ] (h : group.WellFormed entries) (consumer : κ)
    (count : Nat)
    : ((group.pendingOf consumer count).map PendingEntry.id).Pairwise (· < ·) := by
  have hsublist : (group.pendingOf consumer count).Sublist group.pending :=
    (List.take_sublist _ _).trans List.filter_sublist
  exact h.sorted.sublist (hsublist.map _)

variable {minIdle : Nat} {ids : List Nat} {retryCount : Nat}

theorem claim_sublist
    : ((group.claim entries consumer minIdle now ids retryCount).1.map StreamEntry.id).Sublist
        ids := by
  unfold claim
  dsimp only
  induction ids with
  | nil => exact .slnil
  | cons id ids ih =>
    rw [List.filterMap_cons]
    split
    . exact ih.cons id
    . next entry heq =>
      have hid : entry.id = id := by
        split at heq
        . rcases Option.map_eq_some_iff.mp heq with ⟨value, -, rfl⟩
          rfl
        . cases heq
      rw [List.map_cons, hid]
      exact ih.cons_cons id

theorem claim_spec {entry : StreamEntry α}
    (hentry : entry ∈ (group.claim entries consumer minIdle now ids retryCount).1)
    : entry.id ∈ ids
      ∧ (∃ pending ∈ group.pending, pending.id = entry.id ∧ isIdle minIdle now pending = true)
      ∧ entries[entry.id]? = some entry.value := by
  rcases List.mem_filterMap.mp hentry with ⟨id, hid, heq⟩
  split at heq
  . next hany =>
    rcases Option.map_eq_some_iff.mp heq with ⟨value, hvalue, rfl⟩
    rcases List.any_eq_true.mp hany with ⟨pending, hpending, hboth⟩
    rw [Bool.and_eq_true, beq_iff_eq] at hboth
    exact ⟨hid, ⟨pending, hpending, hboth⟩, hvalue⟩
  . cases heq

theorem claim_lastDelivered
    : (group.claim entries consumer minIdle now ids retryCount).2.lastDelivered
        = group.lastDelivered := rfl

theorem claim_pending_ids
    : (group.claim entries consumer minIdle now ids retryCount).2.pending.map PendingEntry.id
        = group.pending.map PendingEntry.id := by
  unfold claim
  dsimp only
  rw [List.map_map]
  apply List.map_congr_left
  intro entry _
  rw [Function.comp_apply]
  split <;> rfl

theorem mem_claim_pending {entry : PendingEntry κ}
    (h : entry ∈ (group.claim entries consumer minIdle now ids retryCount).2.pending)
    : ∃ old ∈ group.pending, old.id = entry.id
        ∧ (entry.consumer = old.consumer ∨ (entry.consumer = consumer ∧ entry.id ∈ ids)) := by
  rcases List.mem_map.mp h with ⟨old, hold, rfl⟩
  refine ⟨old, hold, ?_⟩
  split
  . next hclaimed => exact ⟨rfl, .inr ⟨rfl, hclaimed.1⟩⟩
  . exact ⟨rfl, .inl rfl⟩

theorem WellFormed.claim (h : group.WellFormed entries) (consumer : κ)
    (minIdle now : Nat) (ids : List Nat)
    (retryCount : Nat)
    : (group.claim entries consumer minIdle now ids retryCount).2.WellFormed entries where
  delivered := h.delivered
  sorted := by
    rw [claim_pending_ids]
    exact h.sorted
  pending := by
    intro entry hentry
    rcases mem_claim_pending hentry with ⟨old, hold, hid, -⟩
    rw [claim_lastDelivered, ← hid]
    apply h.pending old hold

/--
Nothing has been acknowledged.
-/
def KeepsAll (group : ConsumerGroup κ) : Prop :=
  group.pending.map PendingEntry.id = List.range group.lastDelivered

theorem KeepsAll.exists_pending (h : group.KeepsAll) {id : Nat} (hid : id < group.lastDelivered)
    : ∃ entry ∈ group.pending, entry.id = id := by
  have hmem := List.mem_range.mpr hid
  rw [← h] at hmem
  exact List.mem_map.mp hmem

theorem KeepsAll.claim (h : group.KeepsAll) (entries : List α) (consumer : κ) (minIdle now : Nat)
    (ids : List Nat) (retryCount : Nat)
    : (group.claim entries consumer minIdle now ids retryCount).2.KeepsAll := by
  unfold KeepsAll
  rw [claim_pending_ids, claim_lastDelivered]
  exact h

theorem KeepsAll.read (h : group.KeepsAll) (entries : List α) (consumer : κ) (count now : Nat)
    : (group.read entries consumer count now).2.KeepsAll := by
  unfold KeepsAll
  rw [read_pending, read_lastDelivered, List.map_append, List.map_map, h, List.range_add]
  congr 1
  exact read_ids.trans List.range'_eq_map_range

end Specs

end ConsumerGroup
