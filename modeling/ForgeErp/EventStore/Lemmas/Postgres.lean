import ForgeErp.EventStore.Impl.Postgres
import ForgeErp.EventStore.Lemmas.InMemory

/-!
This module contains the verification of the statements that the Postgres event store is made of.
-/

namespace ForgeErp
namespace PostgresEventStore

theorem stream_append (rows more : List EventRow) (key : StreamKey)
    : EventsTable.stream ⟨rows ++ more⟩ key
        =
      EventsTable.stream ⟨rows⟩ key ++ more.filter (fun row => row.key = key) := by
  unfold EventsTable.stream
  apply List.filter_append

theorem mem_stream {table : EventsTable} {key : StreamKey} {row : EventRow}
    : row ∈ table.stream key ↔ row ∈ table.rows ∧ row.key = key := by
  simp [EventsTable.stream]

theorem maxSequence_eq {rows : List EventRow} (h : NumberedFrom 1 (·.sequenceNumber) rows)
    : maxSequence rows = rows.length := by
  have hgen : ∀ n, NumberedFrom (n + 1) (·.sequenceNumber) rows → rows ≠ [] →
      maxSequence rows = n + rows.length := by
    clear h
    induction rows with
    | nil =>
      intro n _ hne
      exact absurd rfl hne
    | cons row rows ih =>
      intro n hn _
      rw [NumberedFrom.cons_iff] at hn
      unfold maxSequence
      rw [List.foldr_cons]
      by_cases hempty : rows = []
      . subst hempty
        simp [hn.1]
      . have := ih (n + 1) hn.2 hempty
        unfold maxSequence at this
        rw [this, hn.1, List.length_cons]
        omega
  by_cases hempty : rows = []
  . subst hempty
    rfl
  . have := hgen 0 h hempty
    omega

theorem maxType_mem {rows : List EventRow} {t : String} (h : maxType rows = some t)
    : ∃ row ∈ rows, row.aggregateType = t := by
  induction rows generalizing t with
  | nil => simp [maxType] at h
  | cons row rows ih =>
    unfold maxType at h
    split at h
    . cases h
      exact ⟨row, by simp, rfl⟩
    . next t' ht' =>
      rcases ih ht' with ⟨row', hrow', htype⟩
      cases h
      split
      . exact ⟨row, by simp, rfl⟩
      . exact ⟨row', by simp [hrow'], htype⟩

theorem maxType_isSome {rows : List EventRow} (h : rows ≠ []) : (maxType rows).isSome := by
  cases rows with
  | nil => exact absurd rfl h
  | cons row rows =>
    unfold maxType
    split <;> rfl

theorem validateVersion_ok {aggregateType : String} {expectedVersion : ExpectedVersion}
    {current : Nat × Option String}
    (h : validateVersion aggregateType expectedVersion current = .ok ())
    : expectedVersion.isMatch current.1 = true
        ∧ ∀ existing, current.2 = some existing → existing = aggregateType := by
  rcases current with ⟨currentVersion, existingAggregateType⟩
  unfold validateVersion at h
  cases existingAggregateType with
  | none =>
    simp only at h
    split at h
    . cases h
    . next hmatch => exact ⟨by simpa using hmatch, by simp⟩
  | some existing =>
    simp only at h
    split at h
    . cases h
    . next htype =>
      split at h
      . cases h
      . next hmatch => exact ⟨by simpa using hmatch, by simpa using htype⟩

def toRows (key : StreamKey) (aggregateType : String) (next : Nat) (events : List UncommittedEvent)
    : List EventRow :=
  match events with
  | [] => []
  | e :: es => toRow key aggregateType next e :: toRows key aggregateType (next + 1) es

theorem mem_toRows {key : StreamKey} {aggregateType : String} {next : Nat}
    {events : List UncommittedEvent} {row : EventRow}
    (h : row ∈ toRows key aggregateType next events)
    : row.key = key ∧ ∃ e ∈ events, row.eventId = e.eventId := by
  induction events generalizing next with
  | nil => simp [toRows] at h
  | cons e es ih =>
    rw [toRows, List.mem_cons] at h
    cases h with
    | inl h =>
      subst h
      exact ⟨rfl, e, by simp, rfl⟩
    | inr h =>
      rcases ih h with ⟨hkey, e', he', hid⟩
      exact ⟨hkey, e', by simp [he'], hid⟩

theorem toStored_toRow {key : StreamKey} {aggregateType : String} {e : UncommittedEvent}
    (hkey : e.key = key) (htype : e.aggregateType = aggregateType) (next : Nat)
    : (toRow key aggregateType next e).toStored = e.toStored next := by
  subst hkey htype
  simp [toRow, EventRow.toStored, UncommittedEvent.toStored, UncommittedEvent.key]

theorem toRows_toStored {key : StreamKey} {aggregateType : String} {events : List UncommittedEvent}
    (h : InMemoryEventStore.Uniform key aggregateType events) (next : Nat)
    : (toRows key aggregateType next events).map EventRow.toStored
        = assignSequence next events := by
  induction events generalizing next with
  | nil => rfl
  | cons e es ih =>
    have he := h e (by simp)
    rw [toRows, List.map_cons, toStored_toRow he.1 he.2, ih, assignSequence]
    intro e' he'
    apply h e' (by simp [he'])

-- Without concurrency nothing collides as long as event ids are fresh.
theorem insertEvents_fresh {key : StreamKey} {aggregateType : String}
    {events : List UncommittedEvent}
    {next : Nat} {table : EventsTable}
    (hkeys : ∀ e ∈ events, e.key = key)
    (hnumbers : ∀ row ∈ table.rows, row.key = key → row.sequenceNumber < next)
    (hfresh : ∀ row ∈ table.rows, row.eventId ∉ events.map (·.eventId))
    (hnodup : (events.map (·.eventId)).Nodup)
    : insertEvents key aggregateType next events table
        =
      .ok (assignSequence next events, ⟨table.rows ++ toRows key aggregateType next events⟩) := by
  induction events generalizing next table with
  | nil => simp [insertEvents, assignSequence, toRows]
  | cons e es ih =>
    have hkey := hkeys e (by simp)
    rw [List.map_cons, List.nodup_cons] at hnodup
    unfold insertEvents
    rw [if_neg (by simp [← hkey, UncommittedEvent.key])]
    have hinsert : table.insert (toRow key aggregateType next e)
        = some ⟨table.rows ++ [toRow key aggregateType next e]⟩ := by
      unfold EventsTable.insert
      rw [if_neg]
      rw [List.any_eq_true]
      rintro ⟨row, hrow, hcollides⟩
      have hcollides := of_decide_eq_true hcollides
      cases hcollides with
      | inl hid =>
        apply hfresh row hrow
        rw [← hid]
        simp [toRow]
      | inr hboth =>
        have := hnumbers row hrow hboth.1.symm
        rw [← hboth.2] at this
        simp [toRow] at this
    rw [hinsert]
    dsimp only
    rw [ih]
    . simp [assignSequence, toRows]
    . intro e' he'
      apply hkeys
      simp [he']
    . intro row hrow hrowKey
      rw [List.mem_append, List.mem_singleton] at hrow
      cases hrow with
      | inl hrow =>
        have := hnumbers row hrow hrowKey
        omega
      | inr hrow =>
        subst hrow
        simp [toRow]
    . intro row hrow
      rw [List.mem_append, List.mem_singleton] at hrow
      cases hrow with
      | inl hrow =>
        have := hfresh row hrow
        simp only [List.map_cons, List.mem_cons, not_or] at this
        exact this.2
      | inr hrow =>
        subst hrow
        exact hnodup.1
    . exact hnodup.2

theorem numbered_of_toStored {rows : List EventRow}
    (h : NumberedFrom 1 (·.sequenceNumber) (rows.map EventRow.toStored))
    : NumberedFrom 1 (·.sequenceNumber) rows := by
  rw [NumberedFrom.map_iff] at h
  exact h

theorem loadStream_eq {table : EventsTable} {key : StreamKey}
    (h : NumberedFrom 1 (·.sequenceNumber) (table.stream key))
    : loadStream table key = (table.stream key).map EventRow.toStored := by
  unfold loadStream
  rw [List.Pairwise.insertionSort_eq]
  apply h.pairwise_lt.imp
  intro a b hab
  omega

end PostgresEventStore
end ForgeErp
