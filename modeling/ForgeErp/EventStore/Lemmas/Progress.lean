import ForgeErp.EventStore.Lemmas.Transactions

/-!
This module contains what a transaction of `append_events` has written: its rows as far as it has
come, and its whole batch once it can commit.
-/

namespace ForgeErp

theorem assignSequence_concat (next : Nat) (events : List UncommittedEvent) (e : UncommittedEvent)
    : assignSequence next (events ++ [e])
        =
      assignSequence next events ++ [e.toStored (next + events.length)] := by
  induction events generalizing next with
  | nil => rfl
  | cons head events ih =>
    rw [List.cons_append, assignSequence, ih, assignSequence, List.length_cons, List.cons_append,
      Nat.add_assoc, Nat.add_comm 1]

namespace PostgresEventStore

theorem toRows_concat (key : StreamKey) (aggregateType : String) (next : Nat)
    (events : List UncommittedEvent) (e : UncommittedEvent)
    : toRows key aggregateType next (events ++ [e])
        =
      toRows key aggregateType next events
        ++ [toRow key aggregateType (next + events.length) e] := by
  induction events generalizing next with
  | nil => rfl
  | cons head events ih =>
    rw [List.cons_append, toRows, ih, toRows, List.length_cons, List.cons_append, Nat.add_assoc,
      Nat.add_comm 1]

theorem toRows_length (key : StreamKey) (aggregateType : String) (next : Nat)
    (events : List UncommittedEvent)
    : (toRows key aggregateType next events).length = events.length := by
  induction events generalizing next with
  | nil => rfl
  | cons e events ih => rw [toRows, List.length_cons, List.length_cons, ih]

/--
A transaction that has written the rows of `done`.
-/
structure Progress (db : Database) (i : Nat) (call : AppendCall)
    (aggregateType : String) (next : Nat)
    (remaining : List UncommittedEvent) (stored : List StoredEvent)
    (done : List UncommittedEvent) (base : Nat)
    : Prop where
  events : call.events = done ++ remaining
  next : next = base + 1 + done.length
  stored : stored = assignSequence (base + 1) done
  rows : db.rowsOf i = toRows call.key aggregateType (base + 1) done

/--
A transaction on behalf of this call, for events of one type.
-/
def TxPhase.For (phase : TxPhase) (db : Database) (i : Nat) (call : AppendCall)
    (aggregateType : String) : Prop :=
  match phase with
  | .idle => False
  | .begun call' aggregateType' => call' = call ∧ aggregateType' = aggregateType
  | .inserting call' aggregateType' next remaining stored =>
    call' = call ∧ aggregateType' = aggregateType
    ∧ ∃ done base, Progress db i call aggregateType next remaining stored done base
  | .returned _ => True

/--
A transaction that is under way.
-/
def TxPhase.Open (phase : TxPhase) : Prop :=
  match phase with
  | .idle => False
  | .begun _ _ => True
  | .inserting _ _ _ _ _ => True
  | .returned _ => False

/--
The steps of a transaction that is under way, up to its commit.
-/
inductive Advance (db : Database) (i : Nat) : Database → Prop where
  | select {call : AppendCall} {aggregateType : String} :
      db.txs i = .begun call aggregateType →
      Advance db i (db.setTx i (.inserting call aggregateType
        ((checkStreamVersion db.committed call.key).1 + 1) call.events []))
  | insert {call : AppendCall} {aggregateType : String} {next : Nat} {event : UncommittedEvent}
      {remaining : List UncommittedEvent} {stored : List StoredEvent} :
      db.txs i = .inserting call aggregateType next (event :: remaining) stored →
      Advance db i
        ({ db with
            inFlight := db.inFlight ++ [(i, toRow call.key aggregateType next event)] }.setTx i
          (.inserting call aggregateType (next + 1) remaining (stored ++ [event.toStored next])))
  | rollback {err : EventStoreError} :
      (db.txs i).Open →
      Advance db i (db.rollback i err)

theorem advance_of_select {db db' : Database} {i : Nat} (h : txStep db (.select i) = some db')
    : Advance db i db' := by
  dsimp only [txStep] at h
  split at h
  . next hphase =>
    split at h
    . cases h
      exact .rollback (by rw [hphase]; trivial)
    . cases h
      exact .select hphase
  . cases h

theorem advance_of_insert {db db' : Database} {i : Nat} (h : txStep db (.insert i) = some db')
    : Advance db i db' := by
  dsimp only [txStep] at h
  split at h
  . next hphase =>
    split at h
    . cases h
      exact .rollback (by rw [hphase]; trivial)
    . split at h
      . cases h
        exact .rollback (by rw [hphase]; trivial)
      . split at h
        . cases h
        . cases h
          exact .insert hphase
  . cases h

theorem advance_of_fail {db db' : Database} {i : Nat} {err : EventStoreError}
    (h : txStep db (.fail i err) = some db') : Advance db i db' := by
  dsimp only [txStep] at h
  split at h
  . next hphase =>
    cases h
    exact .rollback (by rw [hphase]; trivial)
  . next hphase =>
    cases h
    exact .rollback (by rw [hphase]; trivial)
  . cases h

section Advance

variable {db db' : Database} {i j : Nat} {call : AppendCall} {aggregateType : String}

theorem Advance.committed (h : Advance db i db') : db'.committed = db.committed := by
  cases h with
  | select => rfl
  | insert => rfl
  | rollback => rfl

theorem Advance.commits (h : Advance db i db') : db'.commits = db.commits := by
  cases h with
  | select => rfl
  | insert => rfl
  | rollback => rfl

theorem Advance.open (h : Advance db i db') : (db.txs i).Open := by
  cases h with
  | select hphase =>
    rw [hphase]
    trivial
  | insert hphase =>
    rw [hphase]
    trivial
  | rollback hopen => exact hopen

theorem Advance.ne_idle (h : Advance db i db') : db.txs i ≠ .idle := by
  intro hidle
  have hopen := h.open
  rw [hidle] at hopen
  exact hopen

theorem Advance.txs_ne (h : Advance db i db') (hne : j ≠ i) : db'.txs j = db.txs j := by
  cases h with
  | select => exact if_neg hne
  | insert => exact if_neg hne
  | rollback => exact if_neg hne

theorem Advance.rowsOf_ne (h : Advance db i db') (hne : j ≠ i) : db'.rowsOf j = db.rowsOf j := by
  cases h with
  | select => rfl
  | insert =>
    rw [rowsOf_setTx, rowsOf_append, if_neg hne]
  | rollback =>
    unfold Database.rollback
    rw [rowsOf_setTx, rowsOf_drop, if_neg hne]

theorem TxPhase.For.congr {phase : TxPhase} (h : phase.For db i call aggregateType)
    (hrows : db'.rowsOf i = db.rowsOf i) : phase.For db' i call aggregateType := by
  cases phase with
  | idle => exact h
  | begun call' aggregateType' => exact h
  | returned result => trivial
  | inserting call' aggregateType' next remaining stored =>
    rcases h with ⟨hcall, htype, done, base, hprogress⟩
    refine ⟨hcall, htype, done, base, hprogress.events, hprogress.next, hprogress.stored, ?_⟩
    rw [hrows]
    exact hprogress.rows

theorem Advance.for (h : Advance db i db') (hinv : TxInv db)
    (hfor : (db.txs i).For db i call aggregateType)
    : (db'.txs i).For db' i call aggregateType := by
  cases h with
  | @select call' aggregateType' hphase =>
    have hempty := hinv.phases i
    rw [hphase] at hfor hempty
    rcases hfor with ⟨rfl, rfl⟩
    rw [txs_setTx, if_pos rfl]
    refine ⟨rfl, rfl, [], (checkStreamVersion db.committed call'.key).1, rfl, rfl, rfl, ?_⟩
    rw [rowsOf_setTx]
    exact hempty.1
  | @insert call' aggregateType' next event remaining stored hphase =>
    rw [hphase] at hfor
    rcases hfor with ⟨rfl, rfl, done, base, hprogress⟩
    have hnext : next = base + 1 + done.length := hprogress.next
    rw [txs_setTx, if_pos rfl]
    refine ⟨rfl, rfl, done ++ [event], base, ?_, ?_, ?_, ?_⟩
    . rw [hprogress.events, List.append_assoc]
      rfl
    . rw [List.length_append, List.length_singleton, hnext]
      omega
    . rw [assignSequence_concat, hprogress.stored, hnext]
    . rw [rowsOf_setTx, rowsOf_append, if_pos rfl, toRows_concat, hprogress.rows, hnext]
  | rollback =>
    unfold Database.rollback
    rw [txs_setTx, if_pos rfl]
    trivial

end Advance

theorem for_of_begin {db db' : Database} {i : Nat} {key : StreamKey} {aggregateType : String}
    {us : List UncommittedEvent} {expected : ExpectedVersion}
    (huniform : InMemoryEventStore.Uniform key aggregateType us) (hne : us ≠ [])
    (h : txStep db (.begin i ⟨key, us, expected⟩) = some db')
    : ∃ phase : TxPhase, db' = db.setTx i phase
        ∧ phase.For db i ⟨key, us, expected⟩ aggregateType := by
  dsimp only [txStep] at h
  split at h
  . cases us with
    | nil => exact absurd rfl hne
    | cons first rest =>
      dsimp only at h
      split at h
      . cases h
        exact ⟨_, rfl, trivial⟩
      . cases h
        exact ⟨_, rfl, rfl, (huniform first List.mem_cons_self).2⟩
  . cases h

theorem wellFormedStream {db : Database} (h : TxInv db) (key : StreamKey)
    : InMemoryEventStore.WellFormedStream key (loadStream db.committed key) := by
  rw [loadStream_eq (h.numbered key)]
  constructor
  . rw [NumberedFrom.map_iff]
    exact h.numbered key
  . intro e he
    rcases List.mem_map.mp he with ⟨row, hrow, rfl⟩
    exact (mem_stream.mp hrow).2
  . intro e he e' he'
    rcases List.mem_map.mp he with ⟨row, hrow, rfl⟩
    rcases List.mem_map.mp he' with ⟨row', hrow', rfl⟩
    exact h.typed key row hrow row' hrow'

/--
What a transaction that is about to commit has written: the whole batch, after all that is in the
stream.
-/
structure Complete (db : Database) (i : Nat) (key : StreamKey) (aggregateType : String)
    (us : List UncommittedEvent) (expected : ExpectedVersion) (stored : List StoredEvent)
    : Prop where
  batch : stored = assignSequence ((loadStream db.committed key).length + 1) us
  current : expected.isMatch (InMemoryEventStore.currentVersion (loadStream db.committed key))
    = true
  typed : ∀ e ∈ loadStream db.committed key, e.aggregateType = aggregateType
  streams : ∀ key', loadStream (db.commit i ⟨key, us, expected⟩ stored).committed key'
    = if key' = key then loadStream db.committed key ++ stored else loadStream db.committed key'

theorem complete_of_inserting {db : Database} {i : Nat} {key : StreamKey} {aggregateType : String}
    {us : List UncommittedEvent} {expected : ExpectedVersion} {next : Nat}
    {stored : List StoredEvent}
    (hinv : TxInv db) (huniform : InMemoryEventStore.Uniform key aggregateType us)
    (hphase : db.txs i = .inserting ⟨key, us, expected⟩ aggregateType next [] stored)
    (hfor : (db.txs i).For db i ⟨key, us, expected⟩ aggregateType)
    : Complete db i key aggregateType us expected stored := by
  have hconsistent := hinv.phases i
  rw [hphase] at hfor hconsistent
  rcases hconsistent with ⟨base, hwrites⟩
  rcases hfor with ⟨-, -, done, base', hprogress⟩
  have hdone : us = done := by
    have hevents := hprogress.events
    rw [List.append_nil] at hevents
    exact hevents
  subst hdone
  have hlength : (db.rowsOf i).length = us.length := by
    rw [hprogress.rows, toRows_length]
  have hbase : base' = base := by
    have hnext := hwrites.next
    have hnext' := hprogress.next
    rw [hlength] at hnext
    omega
  subst hbase
  have hload := loadStream_eq (hinv.numbered key)
  have hcurrent : base' = (loadStream db.committed key).length := by
    rw [hload, List.length_map]
    exact hwrites.current hwrites.rows_ne_nil
  have hwf := wellFormedStream hinv key
  have hstored : stored = assignSequence ((loadStream db.committed key).length + 1) us := by
    rw [← hcurrent]
    exact hprogress.stored
  refine ⟨hstored, ?_, ?_, ?_⟩
  . rw [hwf.currentVersion_eq, ← hcurrent]
    exact hwrites.expected
  . intro e he
    have hpos := List.length_pos_of_mem he
    rw [hload] at he
    rcases List.mem_map.mp he with ⟨row, hrow, rfl⟩
    exact hwrites.typed (by omega) row hrow
  . intro key'
    rw [loadStream_eq (hwrites.numbered_commit hinv key'), stream_commit hwrites]
    dsimp only
    split
    . next hkey =>
      rw [hkey, List.map_append, ← hload, hprogress.rows, toRows_toStored huniform,
        hprogress.stored]
    . exact (loadStream_eq (hinv.numbered key')).symm

end PostgresEventStore

end ForgeErp
