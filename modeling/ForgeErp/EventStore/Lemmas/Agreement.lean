import ForgeErp.EventStore.Impl.Calls
import ForgeErp.EventStore.Lemmas.Postgres

/-!
This module contains the comparison of the two event stores. Both are described by which event of a
batch, or which property of the stream, an append fails at; where these descriptions agree is the
condition under which a client cannot tell the stores apart.
-/

namespace ForgeErp

open EventStoreError (Variant)

-- What an event fails with that does not belong to the stream of the first event of its batch.
def foreignVariant (first e : UncommittedEvent) : Variant :=
  if e.tenantId ≠ first.tenantId then .tenantIsolation else .invalidAppend

def Mistyped (stream : List StoredEvent) (first : UncommittedEvent) : Prop :=
  ∃ e ∈ stream, e.aggregateType ≠ first.aggregateType

instance (stream : List StoredEvent) (first : UncommittedEvent)
    : Decidable (Mistyped stream first) :=
  inferInstanceAs (Decidable (∃ e ∈ stream, _))

namespace InMemoryEventStore

theorem validateBatch_spec (first : UncommittedEvent) (idx : Nat) (events : List UncommittedEvent)
    : match events.find? (fun e => e.key ≠ first.key ∨ e.aggregateType ≠ first.aggregateType) with
      | none =>
        validateBatch first.tenantId first.aggregateId first.aggregateType idx events = .ok ()
      | some e =>
        ∃ err, validateBatch first.tenantId first.aggregateId first.aggregateType idx events
          = .error err
          ∧ err.variant
              = if e.key ≠ first.key then foreignVariant first e else .aggregateTypeMismatch := by
  induction events generalizing idx with
  | nil => rfl
  | cons e es ih =>
    unfold validateBatch
    by_cases htenant : e.tenantId = first.tenantId
    . by_cases haggregate : e.aggregateId = first.aggregateId
      . have hkey : e.key = first.key := by simp [UncommittedEvent.key, htenant, haggregate]
        by_cases htype : e.aggregateType = first.aggregateType
        . rw [List.find?_cons_of_neg (by simp [hkey, htype])]
          simp only [htenant, haggregate, htype, ne_eq, not_true_eq_false, ↓reduceIte]
          apply ih
        . rw [List.find?_cons_of_pos (by simp [htype])]
          simp [htenant, haggregate, htype, hkey, EventStoreError.variant]
      . have hkey : e.key ≠ first.key := by simp [UncommittedEvent.key, haggregate]
        rw [List.find?_cons_of_pos (by simp [hkey])]
        simp [htenant, haggregate, hkey, foreignVariant, EventStoreError.variant]
    . have hkey : e.key ≠ first.key := by simp [UncommittedEvent.key, htenant]
      rw [List.find?_cons_of_pos (by simp [hkey])]
      simp [htenant, hkey, foreignVariant, EventStoreError.variant]

end InMemoryEventStore

namespace PostgresEventStore

theorem validateEvents_spec (first : UncommittedEvent) (idx : Nat) (events : List UncommittedEvent)
    : match events.find? (fun e => e.key ≠ first.key) with
      | none => validateEvents first.tenantId first.aggregateId idx events = .ok ()
      | some e =>
        ∃ err, validateEvents first.tenantId first.aggregateId idx events = .error err
          ∧ err.variant = foreignVariant first e := by
  induction events generalizing idx with
  | nil => rfl
  | cons e es ih =>
    unfold validateEvents
    by_cases htenant : e.tenantId = first.tenantId
    . by_cases haggregate : e.aggregateId = first.aggregateId
      . have hkey : e.key = first.key := by simp [UncommittedEvent.key, htenant, haggregate]
        rw [List.find?_cons_of_neg (by simp [hkey])]
        simp only [htenant, haggregate, ne_eq, not_true_eq_false, ↓reduceIte]
        apply ih
      . have hkey : e.key ≠ first.key := by simp [UncommittedEvent.key, haggregate]
        rw [List.find?_cons_of_pos (by simp [hkey])]
        simp [htenant, haggregate, foreignVariant, EventStoreError.variant]
    . have hkey : e.key ≠ first.key := by simp [UncommittedEvent.key, htenant]
      rw [List.find?_cons_of_pos (by simp [hkey])]
      simp [htenant, foreignVariant, EventStoreError.variant]

theorem validateBatch_spec (first : UncommittedEvent) (rest : List UncommittedEvent)
    : match (first :: rest).find? (fun e => e.key ≠ first.key) with
      | none => validateBatch first.tenantId first.aggregateId first rest = .ok ()
      | some e =>
        ∃ err, validateBatch first.tenantId first.aggregateId first rest = .error err
          ∧ err.variant = foreignVariant first e := by
  unfold validateBatch
  rw [if_neg (by simp), if_neg (by simp)]
  apply validateEvents_spec

theorem validateVersion_spec {table : EventsTable} {key : StreamKey} {stream : List StoredEvent}
    (hstream : (table.stream key).map EventRow.toStored = stream)
    (hwf : InMemoryEventStore.WellFormedStream key stream) (first : UncommittedEvent)
    (expectedVersion : ExpectedVersion)
    : if Mistyped stream first then
        ∃ err, validateVersion first.aggregateType expectedVersion (checkStreamVersion table key)
            = .error err
          ∧ err.variant = .aggregateTypeMismatch
      else if expectedVersion.isMatch stream.length = false then
        ∃ err, validateVersion first.aggregateType expectedVersion (checkStreamVersion table key)
            = .error err
          ∧ err.variant = .concurrency
      else
        validateVersion first.aggregateType expectedVersion (checkStreamVersion table key)
          = .ok () := by
  subst hstream
  have hversion : maxSequence (table.stream key)
      = ((table.stream key).map EventRow.toStored).length := by
    rw [List.length_map]
    apply maxSequence_eq
    apply numbered_of_toStored hwf.numbered
  unfold checkStreamVersion validateVersion
  simp only [hversion]
  cases htype : maxType (table.stream key) with
  | none =>
    have hempty : table.stream key = [] := by
      by_contra hne
      have := maxType_isSome hne
      simp [htype] at this
    simp only [hempty, Mistyped, List.map_nil, List.not_mem_nil, false_and,
      exists_false, ↓reduceIte]
    split
    . next hmatch =>
      rw [if_pos (by simpa using hmatch)]
      exact ⟨_, rfl, rfl⟩
    . next hmatch => rw [if_neg (by simpa using hmatch)]
  | some existing =>
    rcases maxType_mem htype with ⟨row, hrow, hrowType⟩
    have hmem : row.toStored ∈ (table.stream key).map EventRow.toStored := List.mem_map_of_mem hrow
    by_cases hmistyped : Mistyped ((table.stream key).map EventRow.toStored) first
    . rw [if_pos hmistyped]
      rcases hmistyped with ⟨e, he, hne⟩
      dsimp only
      rw [if_pos]
      . exact ⟨_, rfl, rfl⟩
      . rw [hwf.type_eq e he row.toStored hmem] at hne
        rw [← hrowType]
        exact hne
    . have heq : existing = first.aggregateType := by
        by_contra hne
        apply hmistyped
        refine ⟨row.toStored, hmem, ?_⟩
        rw [← hrowType] at hne
        exact hne
      rw [if_neg hmistyped]
      simp only [heq, ne_eq, not_true_eq_false, ↓reduceIte]
      split
      . next hmatch =>
        rw [if_pos (by simpa using hmatch)]
        exact ⟨_, rfl, rfl⟩
      . next hmatch => rw [if_neg (by simpa using hmatch)]

end PostgresEventStore

def memoryReply (stream : List StoredEvent) (first : UncommittedEvent)
    (rest : List UncommittedEvent)
    (expectedVersion : ExpectedVersion) : StoreReply :=
  match (first :: rest).find? (fun e => e.key ≠ first.key ∨ e.aggregateType ≠ first.aggregateType)
    with
  | some e => .failed (if e.key ≠ first.key then foreignVariant first e else .aggregateTypeMismatch)
  | none =>
    if expectedVersion.isMatch stream.length = false then
      .failed .concurrency
    else if Mistyped stream first then
      .failed .aggregateTypeMismatch
    else
      .appended (assignSequence (stream.length + 1) (first :: rest))

def postgresReply (stream : List StoredEvent) (first : UncommittedEvent)
    (rest : List UncommittedEvent) (expectedVersion : ExpectedVersion) : StoreReply :=
  match (first :: rest).find? (fun e => e.key ≠ first.key) with
  | some e => .failed (foreignVariant first e)
  | none =>
    if Mistyped stream first then
      .failed .aggregateTypeMismatch
    else if expectedVersion.isMatch stream.length = false then
      .failed .concurrency
    else
      .appended (assignSequence (stream.length + 1) (first :: rest))

def StoreReply.added (self : StoreReply) : List StoredEvent :=
  match self with
  | .appended stored => stored
  | _ => []

theorem find?_eq_none_of_uniform {first : UncommittedEvent} {events : List UncommittedEvent}
    (h : InMemoryEventStore.Uniform first.key first.aggregateType events)
    : events.find? (fun e => e.key ≠ first.key ∨ e.aggregateType ≠ first.aggregateType) = none := by
  rw [List.find?_eq_none]
  intro e he
  simp [h e he]

theorem InMemoryEventStore.append_spec {store : InMemoryEventStore} (hwf : store.WellFormed)
    (first : UncommittedEvent) (rest : List UncommittedEvent) (expectedVersion : ExpectedVersion)
    : StoreReply.ofResult (store.append (first :: rest) expectedVersion).1
        = memoryReply (store.loadStream first.key) first rest expectedVersion
      ∧ ∀ key, (store.append (first :: rest) expectedVersion).2.loadStream key
        = if key = first.key then
            store.loadStream key
              ++ (memoryReply (store.loadStream first.key) first rest expectedVersion).added
          else
            store.loadStream key := by
  have hspec := validateBatch_spec first 0 (first :: rest)
  have houtcome := append_outcome store (first :: rest) expectedVersion
  generalize append store (first :: rest) expectedVersion = result at houtcome ⊢
  unfold memoryReply
  cases houtcome with
  | invalid herr =>
    split at hspec
    . rw [herr] at hspec
      cases hspec
    . next e he =>
      rcases hspec with ⟨err, herr', hvariant⟩
      rw [herr] at herr'
      cases herr'
      rw [he]
      simp [StoreReply.ofResult, StoreReply.added, hvariant]
  | @conflict first rest msg huniform hmatch =>
    rw [find?_eq_none_of_uniform huniform]
    rw [(hwf first.key).currentVersion_eq] at hmatch
    simp [StoreReply.ofResult, StoreReply.added, EventStoreError.variant, hmatch,
      loadStream_entryOr]
  | @typeMismatch first rest existing msg huniform hmatch hhead hne =>
    rw [find?_eq_none_of_uniform huniform]
    rw [(hwf first.key).currentVersion_eq] at hmatch
    have hmistyped : Mistyped (store.loadStream first.key) first :=
      ⟨existing, List.mem_of_head? hhead, hne⟩
    simp [StoreReply.ofResult, StoreReply.added, EventStoreError.variant, hmatch, hmistyped,
      loadStream_entryOr]
  | @committed first rest committed huniform hmatch hhead hcommitted =>
    rw [find?_eq_none_of_uniform huniform]
    rw [(hwf first.key).currentVersion_eq] at hmatch hcommitted
    have hmistyped : ¬ Mistyped (store.loadStream first.key) first := by
      rintro ⟨e, he, hne⟩
      apply hne
      apply (hwf first.key).type_of_head hhead e he
    subst hcommitted
    simp only [StoreReply.ofResult, StoreReply.added, hmatch, hmistyped,
      Bool.true_eq_false, ↓reduceIte,
      loadStream_insert, true_and]
    intro key
    split
    . next heq => rw [heq]
    . rfl

/--
The table holds the same streams as the in-memory store, and no event id outside of `used`.
-/
structure Corresponds (used : List Uuid) (store : InMemoryEventStore) (table : EventsTable)
    : Prop where
  wellFormed : store.WellFormed
  streams : ∀ key, (table.stream key).map EventRow.toStored = store.loadStream key
  ids : ∀ row ∈ table.rows, row.eventId ∈ used

theorem Corresponds.loadStream_eq {used : List Uuid} {store : InMemoryEventStore}
    {table : EventsTable}
    (h : Corresponds used store table) (key : StreamKey)
    : PostgresEventStore.loadStream table key = store.loadStream key := by
  rw [← h.streams]
  apply PostgresEventStore.loadStream_eq
  apply PostgresEventStore.numbered_of_toStored
  rw [h.streams]
  exact (h.wellFormed key).numbered

section PostgresAppend

open PostgresEventStore

variable {used : List Uuid} {store : InMemoryEventStore} {table : EventsTable}
  {first : UncommittedEvent} {rest : List UncommittedEvent}

theorem Corresponds.insertEvents_eq (h : Corresponds used store table)
    (hkeys : ∀ e ∈ first :: rest, e.key = first.key)
    (hids : (used ++ (first :: rest).map (·.eventId)).Nodup)
    : insertEvents first.key first.aggregateType
          ((checkStreamVersion table first.key).1 + 1) (first :: rest) table
        =
      .ok (assignSequence ((store.loadStream first.key).length + 1) (first :: rest),
        ⟨table.rows ++ toRows first.key first.aggregateType
          ((store.loadStream first.key).length + 1) (first :: rest)⟩) := by
  have hnumbered : NumberedFrom 1 (·.sequenceNumber) (table.stream first.key) := by
    apply numbered_of_toStored
    rw [h.streams]
    exact (h.wellFormed first.key).numbered
  have hversion : (checkStreamVersion table first.key).1 = (store.loadStream first.key).length := by
    rw [← h.streams, List.length_map]
    apply maxSequence_eq hnumbered
  rw [List.nodup_append'] at hids
  rw [hversion]
  apply insertEvents_fresh hkeys
  . intro row hrow hkey
    have hmem : row ∈ table.stream first.key := mem_stream.mpr ⟨hrow, hkey⟩
    have hbounds := hnumbered.mem_bounds hmem
    rw [← h.streams, List.length_map]
    omega
  . intro row hrow hmem
    apply hids.2.2 (h.ids row hrow) hmem
  . exact hids.2.1

theorem Corresponds.append_spec (h : Corresponds used store table)
    (hids : (used ++ (first :: rest).map (·.eventId)).Nodup) (expectedVersion : ExpectedVersion)
    : StoreReply.ofResult (PostgresEventStore.append table (first :: rest) expectedVersion).1
        = postgresReply (store.loadStream first.key) first rest expectedVersion
      ∧ (PostgresEventStore.append table (first :: rest) expectedVersion).2
        = match postgresReply (store.loadStream first.key) first rest expectedVersion with
          | .appended _ =>
            ⟨table.rows ++ toRows first.key first.aggregateType
              ((store.loadStream first.key).length + 1) (first :: rest)⟩
          | _ => table := by
  have hbatch := validateBatch_spec first rest
  have hversion := validateVersion_spec (h.streams first.key) (h.wellFormed first.key) first
    expectedVersion
  unfold PostgresEventStore.append appendEvents postgresReply
  dsimp only
  split at hbatch
  . next hfind =>
    have hkeys : ∀ e ∈ first :: rest, e.key = first.key := by
      intro e he
      simpa using List.find?_eq_none.mp hfind e he
    rw [hbatch, hfind]
    dsimp only
    split at hversion
    . next hmistyped =>
      rcases hversion with ⟨err, herr, hvariant⟩
      change validateVersion _ _ (checkStreamVersion table ⟨first.tenantId, first.aggregateId⟩) = _
        at herr
      rw [herr]
      simp [StoreReply.ofResult, hvariant, hmistyped]
    . next hmistyped =>
      split at hversion
      . next hmatch =>
        rcases hversion with ⟨err, herr, hvariant⟩
        change validateVersion _ _ (checkStreamVersion table ⟨first.tenantId, first.aggregateId⟩)
          = _
          at herr
        rw [herr]
        simp [StoreReply.ofResult, hvariant, hmistyped, hmatch]
      . next hmatch =>
        have hinsert := h.insertEvents_eq hkeys hids
        change validateVersion _ _ (checkStreamVersion table ⟨first.tenantId, first.aggregateId⟩)
          = _
          at hversion
        change insertEvents ⟨first.tenantId, first.aggregateId⟩ _
          ((checkStreamVersion table ⟨first.tenantId, first.aggregateId⟩).1 + 1) _ _ = _ at hinsert
        rw [hversion]
        dsimp only
        rw [hinsert]
        simp [StoreReply.ofResult, hmistyped, hmatch]
  . next e hfind =>
    rcases hbatch with ⟨err, herr, hvariant⟩
    rw [herr, hfind]
    simp [StoreReply.ofResult, hvariant]

end PostgresAppend

theorem memoryReply_eq_appended {stream stored : List StoredEvent} {first : UncommittedEvent}
    {rest : List UncommittedEvent} {expectedVersion : ExpectedVersion}
    (h : memoryReply stream first rest expectedVersion = .appended stored)
    : InMemoryEventStore.Uniform first.key first.aggregateType (first :: rest)
      ∧ stored = assignSequence (stream.length + 1) (first :: rest) := by
  unfold memoryReply at h
  split at h
  . cases h
  . next hfind =>
    split at h
    . cases h
    . split at h
      . cases h
      . cases h
        refine ⟨?_, rfl⟩
        intro e he
        simpa using List.find?_eq_none.mp hfind e he

theorem stream_toRows {table : EventsTable} {aggregateType : String} {next : Nat}
    {events : List UncommittedEvent} {key : StreamKey} (key' : StreamKey)
    : EventsTable.stream ⟨table.rows ++ PostgresEventStore.toRows key aggregateType next events⟩
        key'
        =
      if key' = key then
        table.stream key' ++ PostgresEventStore.toRows key aggregateType next events
      else
        table.stream key' := by
  rw [PostgresEventStore.stream_append]
  split
  . next heq =>
    congr 1
    rw [List.filter_eq_self]
    intro row hrow
    rw [heq]
    simpa using (PostgresEventStore.mem_toRows hrow).1
  . next hne =>
    rw [List.filter_eq_nil_iff.mpr, List.append_nil]
    intro row hrow
    rw [(PostgresEventStore.mem_toRows hrow).1]
    simpa using Ne.symm hne

theorem Corresponds.append {used : List Uuid} {store : InMemoryEventStore} {table : EventsTable}
    {first : UncommittedEvent} {rest : List UncommittedEvent} (h : Corresponds used store table)
    (hids : (used ++ (first :: rest).map (·.eventId)).Nodup) (expectedVersion : ExpectedVersion)
    (hagree : memoryReply (store.loadStream first.key) first rest expectedVersion
      = postgresReply (store.loadStream first.key) first rest expectedVersion)
    : Corresponds (used ++ (first :: rest).map (·.eventId))
        (store.append (first :: rest) expectedVersion).2
        (PostgresEventStore.append table (first :: rest) expectedVersion).2 := by
  have hmemory := (InMemoryEventStore.append_spec h.wellFormed first rest expectedVersion).2
  have hpostgres := (h.append_spec hids expectedVersion).2
  rw [← hagree] at hpostgres
  have hwf := InMemoryEventStore.wellFormed_append h.wellFormed (first :: rest) expectedVersion
  cases hreply : memoryReply (store.loadStream first.key) first rest expectedVersion with
  | appended stored =>
    rcases memoryReply_eq_appended hreply with ⟨huniform, hstored⟩
    rw [hreply] at hpostgres
    rw [hpostgres]
    refine ⟨hwf, ?_, ?_⟩
    . intro key
      rw [hmemory, stream_toRows, hreply]
      split
      . rw [List.map_append, h.streams, PostgresEventStore.toRows_toStored huniform, hstored]
        rfl
      . apply h.streams
    . intro row hrow
      rw [List.mem_append] at hrow ⊢
      cases hrow with
      | inl hrow => exact .inl (h.ids row hrow)
      | inr hrow =>
        rcases (PostgresEventStore.mem_toRows hrow).2 with ⟨e, he, hid⟩
        right
        rw [hid]
        apply List.mem_map_of_mem he
  | failed variant =>
    rw [hreply] at hpostgres
    rw [hpostgres]
    refine ⟨hwf, ?_, ?_⟩
    . intro key
      rw [h.streams, hmemory, hreply]
      simp [StoreReply.added]
    . intro row hrow
      apply List.mem_append_left _ (h.ids row hrow)
  | loaded events =>
    rw [hreply] at hpostgres
    rw [hpostgres]
    refine ⟨hwf, ?_, ?_⟩
    . intro key
      rw [h.streams, hmemory, hreply]
      simp [StoreReply.added]
    . intro row hrow
      apply List.mem_append_left _ (h.ids row hrow)

/--
The batches on which the stores agree. The first event that does not match the head of the batch has
to be one that also the Postgres store complains about, and a batch that matches its head must not
fail both the type and the version check of its stream.
-/
def Agreeable (loadStream : StreamKey → List StoredEvent) (events : List UncommittedEvent)
    (expectedVersion : ExpectedVersion) : Prop :=
  match events with
  | [] => True
  | first :: rest =>
    let stream := loadStream first.key
    match (first :: rest).find? (fun e =>
        e.key ≠ first.key ∨ e.aggregateType ≠ first.aggregateType) with
    | some e =>
      e.key ≠ first.key ∨ ((∀ e ∈ first :: rest, e.key = first.key) ∧ Mistyped stream first)
    | none => Mistyped stream first → expectedVersion.isMatch stream.length = true

theorem foreignVariant_ne (first e : UncommittedEvent)
    : foreignVariant first e ≠ .aggregateTypeMismatch := by
  unfold foreignVariant
  split <;> simp

-- The first event of a foreign type or key is the first one of a foreign key if it is of such a
-- key.
theorem find?_key_of_find? {first e : UncommittedEvent} {events : List UncommittedEvent}
    (h : events.find? (fun e => e.key ≠ first.key ∨ e.aggregateType ≠ first.aggregateType) = some e)
    (hkey : e.key ≠ first.key) : events.find? (fun e => e.key ≠ first.key) = some e := by
  rw [List.find?_eq_some_iff_append] at h ⊢
  rcases h with ⟨_, before, after, hsplit, hbefore⟩
  refine ⟨by simpa using hkey, before, after, hsplit, ?_⟩
  intro e' he'
  have := hbefore e' he'
  simp only [ne_eq, decide_not, Bool.decide_or, Bool.not_or, Bool.not_not, Bool.and_eq_true,
    decide_eq_true_eq] at this ⊢
  exact this.1

theorem replies_eq_iff_agreeable (loadStream : StreamKey → List StoredEvent)
    (first : UncommittedEvent) (rest : List UncommittedEvent) (expectedVersion : ExpectedVersion)
    : memoryReply (loadStream first.key) first rest expectedVersion
          = postgresReply (loadStream first.key) first rest expectedVersion
        ↔
      Agreeable loadStream (first :: rest) expectedVersion := by
  unfold Agreeable memoryReply postgresReply
  dsimp only
  generalize loadStream first.key = stream
  cases hfind : (first :: rest).find? (fun e =>
      e.key ≠ first.key ∨ e.aggregateType ≠ first.aggregateType) with
  | some e =>
    dsimp only
    by_cases hkey : e.key = first.key
    . cases hforeign : (first :: rest).find? (fun e => e.key ≠ first.key) with
      | some e' =>
        have hmem := List.mem_of_find?_eq_some hforeign
        have hne : e'.key ≠ first.key := by simpa using List.find?_some hforeign
        simp only [hkey, ne_eq, not_true_eq_false, ↓reduceIte, StoreReply.failed.injEq, false_or]
        constructor
        . intro heq
          exact absurd heq.symm (foreignVariant_ne first e')
        . intro hall
          exact absurd (hall.1 e' hmem) hne
      | none =>
        have hkeys : ∀ e ∈ first :: rest, e.key = first.key := by
          intro e' he'
          simpa using List.find?_eq_none.mp hforeign e' he'
        by_cases hmistyped : Mistyped stream first
        . simp only [hkey, hmistyped, ne_eq, not_true_eq_false, ↓reduceIte, and_true, false_or,
            true_iff]
          exact hkeys
        . simp only [hkey, hmistyped, ne_eq, not_true_eq_false, ↓reduceIte, and_false, or_false,
            iff_false]
          split <;> simp
    . rw [find?_key_of_find? hfind hkey]
      simp [hkey]
  | none =>
    have hforeign : (first :: rest).find? (fun e => e.key ≠ first.key) = none := by
      rw [List.find?_eq_none] at hfind ⊢
      intro e he
      have := hfind e he
      simp only [ne_eq, decide_eq_true_eq, not_or, Decidable.not_not] at this ⊢
      exact this.1
    rw [hforeign]
    dsimp only
    by_cases hmistyped : Mistyped stream first
    . cases hmatch : expectedVersion.isMatch stream.length <;> simp [hmistyped]
    . cases hmatch : expectedVersion.isMatch stream.length <;> simp [hmistyped]

def AgreeableRun (store : InMemoryEventStore) (calls : List StoreCall) : Prop :=
  match calls with
  | [] => True
  | .append events expectedVersion :: calls =>
    Agreeable store.loadStream events expectedVersion
      ∧ AgreeableRun (store.append events expectedVersion).2 calls
  | .loadStream _ :: calls => AgreeableRun store calls

theorem loadsReturned_memoryReply {stream seen : List StoredEvent} {first : UncommittedEvent}
    {rest : List UncommittedEvent} {expectedVersion : ExpectedVersion} {replies : List StoreReply}
    : LoadsReturned seen (memoryReply stream first rest expectedVersion :: replies)
        ↔
      LoadsReturned (seen ++ (memoryReply stream first rest expectedVersion).added) replies := by
  unfold memoryReply
  split
  . simp [LoadsReturned, StoreReply.added]
  . split
    . simp [LoadsReturned, StoreReply.added]
    . split
      . simp [LoadsReturned, StoreReply.added]
      . simp [LoadsReturned, StoreReply.added]

theorem Corresponds.replies_agree_iff {used : List Uuid} {seen : List StoredEvent}
    {store : InMemoryEventStore} {table : EventsTable} {calls : List StoreCall}
    (h : Corresponds used store table) (hids : (used ++ calls.flatMap StoreCall.eventIds).Nodup)
    (hseen : ∀ key, ∀ e ∈ store.loadStream key, e ∈ seen)
    : (InMemoryEventStore.toEventStore.replies store calls
            = PostgresEventStore.toEventStore.replies table calls
          ∧ LoadsReturned seen (PostgresEventStore.toEventStore.replies table calls))
        ↔
      AgreeableRun store calls := by
  induction calls generalizing used seen store table with
  | nil => simp [EventStore.replies, LoadsReturned, AgreeableRun]
  | cons call calls ih =>
    cases call with
    | loadStream key =>
      have hload := h.loadStream_eq key
      unfold EventStore.replies AgreeableRun
      simp only [EventStore.serve, PostgresEventStore.toEventStore, InMemoryEventStore.toEventStore,
        hload, LoadsReturned, List.cons.injEq, true_and]
      rw [← ih h (by simpa [StoreCall.eventIds] using hids) hseen]
      constructor
      . rintro ⟨heq, _, hloads⟩
        exact ⟨heq, hloads⟩
      . rintro ⟨heq, hloads⟩
        exact ⟨heq, hseen key, hloads⟩
    | append events expectedVersion =>
      cases events with
      | nil =>
        unfold EventStore.replies AgreeableRun
        simp only [EventStore.serve, PostgresEventStore.toEventStore,
          InMemoryEventStore.toEventStore,
          InMemoryEventStore.append, PostgresEventStore.append, StoreReply.ofResult, LoadsReturned,
          List.append_nil, List.cons.injEq, true_and, Agreeable]
        apply ih h (by simpa [StoreCall.eventIds] using hids) hseen
      | cons first rest =>
        have hids' : ((used ++ (first :: rest).map (·.eventId))
            ++ calls.flatMap StoreCall.eventIds).Nodup := by
          simpa [StoreCall.eventIds] using hids
        have hfresh : (used ++ (first :: rest).map (·.eventId)).Nodup := hids'.of_append_left
        have hmemory := InMemoryEventStore.append_spec h.wellFormed first rest expectedVersion
        have hpostgres := h.append_spec hfresh expectedVersion
        unfold EventStore.replies AgreeableRun
        simp only [EventStore.serve, PostgresEventStore.toEventStore,
          InMemoryEventStore.toEventStore,
          hmemory.1, hpostgres.1, List.cons.injEq]
        rw [← replies_eq_iff_agreeable]
        by_cases hagree : memoryReply (store.loadStream first.key) first rest expectedVersion
            = postgresReply (store.loadStream first.key) first rest expectedVersion
        . have hseen' : ∀ key,
              ∀ e ∈ (store.append (first :: rest) expectedVersion).2.loadStream key,
              e ∈ seen
                ++ (memoryReply (store.loadStream first.key) first rest expectedVersion).added := by
            intro key e he
            rw [hmemory.2] at he
            rw [List.mem_append]
            split at he
            . rw [List.mem_append] at he
              cases he with
              | inl he => exact .inl (hseen key e he)
              | inr he => exact .inr he
            . exact .inl (hseen key e he)
          rw [← ih (h.append hfresh expectedVersion hagree) hids' hseen', ← hagree,
            loadsReturned_memoryReply]
          simp only [true_and]
          rfl
        . simp [hagree]

theorem stores_agree_iff (calls : List StoreCall) (hids : (calls.flatMap StoreCall.eventIds).Nodup)
    : (InMemoryEventStore.toEventStore.replies .new calls
            = PostgresEventStore.toEventStore.replies ⟨[]⟩ calls
          ∧ LoadsReturned [] (PostgresEventStore.toEventStore.replies ⟨[]⟩ calls))
        ↔
      AgreeableRun .new calls := by
  have hempty : Corresponds [] .new ⟨[]⟩ := by
    refine ⟨InMemoryEventStore.wellFormed_new, ?_, ?_⟩
    . intro key
      simp [EventsTable.stream, InMemoryEventStore.new, InMemoryEventStore.loadStream]
    . simp
  apply hempty.replies_agree_iff
  . simpa using hids
  . intro key e he
    simp [InMemoryEventStore.new, InMemoryEventStore.loadStream] at he

section Runs

open InMemoryEventStore (opening)

def openingRun : List StoreCall :=
  [.append [opening] (.exact 0), .loadStream opening.key]

theorem stores_agree_iff_opening
    : InMemoryEventStore.toEventStore.replies .new openingRun
        =
      PostgresEventStore.toEventStore.replies ⟨[]⟩ openingRun := by
  apply ((stores_agree_iff openingRun (by decide)).mpr _).1
  refine ⟨?_, trivial⟩
  simp [Agreeable, Mistyped, InMemoryEventStore.new, InMemoryEventStore.loadStream]

def strayType : UncommittedEvent :=
  { opening with eventId := ⟨8⟩, aggregateType := "sales.order" }

def mixedRun : List StoreCall :=
  [.append [opening, strayType] .any, .loadStream opening.key]

theorem mixed_batch_disagrees
    : (mixedRun.flatMap StoreCall.eventIds).Nodup
      ∧ InMemoryEventStore.toEventStore.replies .new mixedRun
        ≠ PostgresEventStore.toEventStore.replies ⟨[]⟩ mixedRun
      ∧ ¬ LoadsReturned [] (PostgresEventStore.toEventStore.replies ⟨[]⟩ mixedRun) := by
  have hmemory : InMemoryEventStore.toEventStore.replies .new mixedRun
      = [.failed .aggregateTypeMismatch, .loaded []] := rfl
  have hpostgres : PostgresEventStore.toEventStore.replies ⟨[]⟩ mixedRun
      = [.appended [opening.toStored 1, strayType.toStored 2],
          .loaded [opening.toStored 1,
            { strayType with aggregateType := "inventory.item" }.toStored 2]] := rfl
  refine ⟨by decide, ?_, ?_⟩
  . rw [hmemory, hpostgres]
    simp
  . rw [hpostgres]
    simp [LoadsReturned, UncommittedEvent.toStored, strayType, opening]

end Runs

end ForgeErp
