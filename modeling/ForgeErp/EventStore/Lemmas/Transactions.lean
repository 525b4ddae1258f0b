import ForgeErp.EventStore.Impl.Transactions
import ForgeErp.EventStore.Lemmas.Postgres

/-!
This module contains the verification of concurrent `append_events` transactions. A transaction
reads the length of its stream without a lock. Whether that number is still current is decided by
its first insert: only the transaction that gets to write the successor of the last committed row
can have rows in flight, so a stream has at most one such holder at any time.
-/

namespace ForgeErp
namespace PostgresEventStore

inductive TxSteps (db : Database) : TxAction → Database → Prop where
  | beginReturn {i : Nat} {call : AppendCall} {result : Except EventStoreError (List StoredEvent)} :
      db.txs i = .idle →
      (∀ stored, result = .ok stored → stored = []) →
      TxSteps db (.begin i call) (db.setTx i (.returned result))
  | begin {i : Nat} {call : AppendCall} {aggregateType : String} :
      db.txs i = .idle →
      call.events ≠ [] →
      TxSteps db (.begin i call) (db.setTx i (.begun call aggregateType))
  | select {i : Nat} {call : AppendCall} {aggregateType : String} :
      db.txs i = .begun call aggregateType →
      validateVersion aggregateType call.expectedVersion (checkStreamVersion db.committed call.key)
        = .ok () →
      TxSteps db (.select i)
        (db.setTx i (.inserting call aggregateType
          ((checkStreamVersion db.committed call.key).1 + 1) call.events []))
  | insert {i : Nat} {call : AppendCall} {aggregateType : String} {nextSequence : Nat}
      {event : UncommittedEvent} {remaining : List UncommittedEvent} {stored : List StoredEvent} :
      db.txs i = .inserting call aggregateType nextSequence (event :: remaining) stored →
      (∀ other ∈ db.committed.rows,
        ¬ (toRow call.key aggregateType nextSequence event).Collides other) →
      (∀ j other, (j, other) ∈ db.inFlight → j ≠ i →
        ¬ (toRow call.key aggregateType nextSequence event).Collides other) →
      TxSteps db (.insert i)
        ({ db with
            inFlight := db.inFlight ++ [(i, toRow call.key aggregateType nextSequence event)]
          }.setTx i (.inserting call aggregateType (nextSequence + 1) remaining
            (stored ++ [event.toStored nextSequence])))
  | commit {i : Nat} {call : AppendCall} {aggregateType : String} {nextSequence : Nat}
      {stored : List StoredEvent} :
      db.txs i = .inserting call aggregateType nextSequence [] stored →
      TxSteps db (.commit i) (db.commit i call stored)
  | rollback {i : Nat} {action : TxAction} {err : EventStoreError} :
      (∀ result, db.txs i ≠ .returned result) →
      TxSteps db action (db.rollback i err)

theorem txSteps_of_txStep {db db' : Database} {action : TxAction}
    (h : txStep db action = some db') : TxSteps db action db' := by
  unfold txStep at h
  split at h
  . split at h
    . next hphase =>
      split at h
      . cases h
        apply TxSteps.beginReturn hphase
        intro stored hstored
        cases hstored
        rfl
      . next first rest hevents =>
        split at h
        . cases h
          apply TxSteps.beginReturn hphase
          intro stored hstored
          cases hstored
        . cases h
          apply TxSteps.begin hphase
          rw [hevents]
          apply List.cons_ne_nil
    . cases h
  . split at h
    . next hphase =>
      dsimp only at h
      split at h
      . cases h
        apply TxSteps.rollback
        simp [hphase]
      . next hvalid =>
        cases h
        apply TxSteps.select hphase hvalid
    . cases h
  . split at h
    . next hphase =>
      dsimp only at h
      split at h
      . cases h
        apply TxSteps.rollback
        simp [hphase]
      . split at h
        . cases h
          apply TxSteps.rollback
          simp [hphase]
        . next hcommitted =>
          split at h
          . cases h
          . next hinFlight =>
            cases h
            apply TxSteps.insert hphase
            . intro other hother hcollides
              apply hcommitted
              rw [Bool.or_eq_true, List.any_eq_true]
              left
              exact ⟨other, hother, by simpa using hcollides⟩
            . intro j other hother hne hcollides
              apply hinFlight
              rw [List.any_eq_true]
              exact ⟨(j, other), hother, by simpa [hne] using hcollides⟩
    . cases h
  . split at h
    . next hphase =>
      cases h
      apply TxSteps.commit hphase
    . cases h
  . split at h
    . next hphase =>
      cases h
      apply TxSteps.rollback
      simp [hphase]
    . next hphase =>
      cases h
      apply TxSteps.rollback
      simp [hphase]
    . cases h

theorem rowsOf_setTx (db : Database) (i j : Nat) (phase : TxPhase)
    : (db.setTx i phase).rowsOf j = db.rowsOf j := rfl

theorem rowsOf_append (db : Database) (i j : Nat) (row : EventRow)
    : Database.rowsOf { db with inFlight := db.inFlight ++ [(i, row)] } j
        =
      if j = i then db.rowsOf i ++ [row] else db.rowsOf j := by
  unfold Database.rowsOf
  rw [List.filter_append, List.map_append]
  split
  . next h => simp [h]
  . next h => simp [Ne.symm h]

theorem rowsOf_drop (db : Database) (i j : Nat)
    : Database.rowsOf { db with inFlight := db.inFlight.filter (fun entry => entry.1 ≠ i) } j
        =
      if j = i then [] else db.rowsOf j := by
  unfold Database.rowsOf
  rw [List.filter_filter]
  split
  . next h => simp [h]
  . next h =>
    congr 1
    apply List.filter_congr
    intro entry _
    by_cases hentry : entry.1 = j
    . simp [hentry, h]
    . simp [hentry]

-- What is known about a transaction that read `base` as the length of its stream.
structure Writes (db : Database) (i : Nat) (call : AppendCall) (aggregateType : String)
    (nextSequence : Nat) (remaining : List UncommittedEvent)
    (stored : List StoredEvent) (base : Nat)
    : Prop where
  next : nextSequence = base + 1 + (db.rowsOf i).length
  numbered : NumberedFrom (base + 1) (·.sequenceNumber) (db.rowsOf i)
  rows : ∀ row ∈ db.rowsOf i, row.key = call.key ∧ row.aggregateType = aggregateType
  bound : base ≤ (db.committed.stream call.key).length
  current : db.rowsOf i ≠ [] → base = (db.committed.stream call.key).length
  typed : base ≠ 0 → ∀ row ∈ db.committed.stream call.key, row.aggregateType = aggregateType
  expected : call.expectedVersion.isMatch base = true
  batch : (db.rowsOf i).map (·.eventId) ++ remaining.map (·.eventId) = call.events.map (·.eventId)
  nonempty : call.events ≠ []
  stored : stored.map (·.sequenceNumber) = (db.rowsOf i).map (·.sequenceNumber)

def TxPhase.Consistent (phase : TxPhase) (db : Database) (i : Nat) : Prop :=
  match phase with
  | .inserting call aggregateType nextSequence remaining stored =>
    ∃ base, Writes db i call aggregateType nextSequence remaining stored base
  | .begun call _ => db.rowsOf i = [] ∧ call.events ≠ []
  | _ => db.rowsOf i = []

structure TxCommit.Justified (c : TxCommit) (db : Database) : Prop where
  returned : db.txs c.tx = .returned (.ok c.stored)
  rows : ∃ base, NumberedFrom (base + 1) (·.sequenceNumber) c.rows
    ∧ c.call.expectedVersion.isMatch base = true
  batch : c.rows.map (·.eventId) = c.call.events.map (·.eventId)
  stored : c.stored.map (·.sequenceNumber) = c.rows.map (·.sequenceNumber)
  key_eq : ∀ row ∈ c.rows, row.key = c.call.key

structure TxInv (db : Database) : Prop where
  numbered : ∀ key, NumberedFrom 1 (·.sequenceNumber) (db.committed.stream key)
  typed : ∀ key, ∀ row ∈ db.committed.stream key, ∀ row' ∈ db.committed.stream key,
    row.aggregateType = row'.aggregateType
  phases : ∀ i, (db.txs i).Consistent db i
  exclusive : ∀ i j, i ≠ j → ∀ row ∈ db.rowsOf i, ∀ row' ∈ db.rowsOf j, row.key ≠ row'.key
  covered : db.committed.rows = db.commits.flatMap (·.rows)
  commits : ∀ c ∈ db.commits, c.Justified db
  succeeded : ∀ i stored, db.txs i = .returned (.ok stored) →
    stored = [] ∨ ∃ c ∈ db.commits, c.tx = i ∧ c.stored = stored

theorem TxPhase.Consistent.map {phase : TxPhase} {db db' : Database} {i : Nat}
    (h : phase.Consistent db i) (hrows : db'.rowsOf i = db.rowsOf i)
    (hwrites : ∀ call aggregateType nextSequence remaining stored base,
      Writes db i call aggregateType nextSequence remaining stored base →
      Writes db' i call aggregateType nextSequence remaining stored base)
    : phase.Consistent db' i := by
  cases phase with
  | idle => exact hrows.trans h
  | begun call aggregateType => exact ⟨hrows.trans h.1, h.2⟩
  | returned result => exact hrows.trans h
  | inserting call aggregateType nextSequence remaining stored =>
    rcases h with ⟨base, h⟩
    refine ⟨base, ?_⟩
    apply hwrites
    exact h

theorem TxPhase.Consistent.frame {phase : TxPhase} {db db' : Database} {i : Nat}
    (h : phase.Consistent db i) (hrows : db'.rowsOf i = db.rowsOf i)
    (hstream : ∀ key, db'.committed.stream key = db.committed.stream key)
    : phase.Consistent db' i := by
  apply h.map hrows
  intro call aggregateType nextSequence remaining stored base h
  constructor
  . rw [hrows]
    exact h.next
  . rw [hrows]
    exact h.numbered
  . rw [hrows]
    exact h.rows
  . rw [hstream]
    exact h.bound
  . rw [hrows, hstream]
    exact h.current
  . rw [hstream]
    exact h.typed
  . exact h.expected
  . rw [hrows]
    exact h.batch
  . exact h.nonempty
  . rw [hrows]
    exact h.stored

theorem txs_setTx (db : Database) (i j : Nat) (phase : TxPhase)
    : (db.setTx i phase).txs j = if j = i then phase else db.txs j := rfl

theorem TxCommit.Justified.setTx {c : TxCommit} {db db' : Database} {i : Nat} {phase : TxPhase}
    (h : c.Justified db) (hactive : ∀ result, db.txs i ≠ .returned result)
    (htxs : db'.txs = (db.setTx i phase).txs) : c.Justified db' := by
  refine ⟨?_, h.rows, h.batch, h.stored, h.key_eq⟩
  have hne : c.tx ≠ i := by
    intro heq
    apply hactive (.ok c.stored)
    rw [← heq]
    exact h.returned
  rw [htxs, txs_setTx, if_neg hne]
  exact h.returned

theorem TxInv.setTx {db : Database} (h : TxInv db) (i : Nat) (phase : TxPhase)
    (hactive : ∀ result, db.txs i ≠ .returned result) (hphase : phase.Consistent db i)
    (hok : ∀ stored, phase = .returned (.ok stored) → stored = [])
    : TxInv (db.setTx i phase) := by
  refine ⟨h.numbered, h.typed, ?_, h.exclusive, h.covered, ?_, ?_⟩
  . intro j
    rw [txs_setTx]
    split
    . next heq =>
      subst heq
      apply hphase.frame
      . rfl
      . intro key
        rfl
    . apply (h.phases j).frame
      . rfl
      . intro key
        rfl
  . intro c hc
    apply (h.commits c hc).setTx hactive
    rfl
  . intro j stored hj
    rw [txs_setTx] at hj
    split at hj
    . left
      apply hok stored hj
    . apply h.succeeded j stored hj

theorem TxInv.select {db : Database} (h : TxInv db) {i : Nat} {call : AppendCall}
    {aggregateType : String} (hphase : db.txs i = .begun call aggregateType)
    (hvalid : validateVersion aggregateType call.expectedVersion
      (checkStreamVersion db.committed call.key) = .ok ())
    : TxInv (db.setTx i (.inserting call aggregateType
        ((checkStreamVersion db.committed call.key).1 + 1) call.events [])) := by
  have hbegun := h.phases i
  rw [hphase] at hbegun
  rcases hbegun with ⟨hrows, hevents⟩
  have hlen : (checkStreamVersion db.committed call.key).1
      = (db.committed.stream call.key).length := maxSequence_eq (h.numbered call.key)
  rcases validateVersion_ok hvalid with ⟨hmatch, htype⟩
  apply h.setTx
  . simp [hphase]
  . refine ⟨(db.committed.stream call.key).length, ?_⟩
    rw [hlen] at hmatch ⊢
    constructor
    . simp [hrows]
    . simp [hrows]
    . simp [hrows]
    . apply Nat.le_refl
    . intro _
      rfl
    . intro hne row hrow
      have hpos : 0 < (db.committed.stream call.key).length := by omega
      have hsome := maxType_isSome (List.length_pos_iff.mp hpos)
      rcases Option.isSome_iff_exists.mp hsome with ⟨existing, hexisting⟩
      rcases maxType_mem hexisting with ⟨row', hrow', htype'⟩
      rw [← htype existing hexisting, ← htype']
      apply h.typed call.key row hrow row' hrow'
    . exact hmatch
    . simp [hrows]
    . exact hevents
    . simp [hrows]
  . intro stored hstored
    cases hstored

theorem TxPhase.Consistent.writes {phase : TxPhase} {db : Database} {i : Nat} {row : EventRow}
    (h : phase.Consistent db i) (hrow : row ∈ db.rowsOf i)
    : ∃ call aggregateType nextSequence remaining stored base,
        Writes db i call aggregateType nextSequence remaining stored base := by
  cases phase with
  | idle => simp [show db.rowsOf i = [] from h] at hrow
  | begun call aggregateType => simp [h.1] at hrow
  | returned result => simp [show db.rowsOf i = [] from h] at hrow
  | inserting call aggregateType nextSequence remaining stored =>
    rcases h with ⟨base, h⟩
    exact ⟨call, aggregateType, nextSequence, remaining, stored, base, h⟩

theorem mem_rowsOf {db : Database} {i : Nat} {row : EventRow}
    : row ∈ db.rowsOf i ↔ (i, row) ∈ db.inFlight := by
  simp [Database.rowsOf]

section Insert

variable {db : Database} {i : Nat} {call : AppendCall} {aggregateType : String} {nextSequence : Nat}
  {event : UncommittedEvent} {remaining : List UncommittedEvent} {stored : List StoredEvent}
  {base : Nat}

theorem Writes.base_eq (hinv : TxInv db)
    (h : Writes db i call aggregateType nextSequence (event :: remaining) stored base)
    (hcommitted : ∀ other ∈ db.committed.rows,
      ¬ (toRow call.key aggregateType nextSequence event).Collides other)
    : base = (db.committed.stream call.key).length := by
  by_cases hempty : db.rowsOf i = []
  . have hbound := h.bound
    have hnext := h.next
    rw [hempty, List.length_nil] at hnext
    by_contra hne
    have hlt : base < (db.committed.stream call.key).length := by omega
    have hget := List.getElem?_eq_getElem hlt
    have hmem := mem_stream.mp (List.mem_of_getElem? hget)
    have hnumber := (hinv.numbered call.key).getElem? hget
    apply hcommitted _ hmem.1
    right
    constructor
    . rw [hmem.2]
      rfl
    . change nextSequence = _
      omega
  . apply h.current hempty

-- Nobody else has rows of this stream in flight: its first one would have this number.
theorem Writes.alone (hinv : TxInv db)
    (h : Writes db i call aggregateType nextSequence (event :: remaining) stored base)
    (hbase : base = (db.committed.stream call.key).length)
    (hinFlight : ∀ j other, (j, other) ∈ db.inFlight → j ≠ i →
      ¬ (toRow call.key aggregateType nextSequence event).Collides other)
    {j : Nat} (hne : j ≠ i) {row : EventRow} (hrow : row ∈ db.rowsOf j)
    : row.key ≠ call.key := by
  intro hkey
  by_cases hempty : db.rowsOf i = []
  . rcases (hinv.phases j).writes hrow with ⟨callj, _, _, _, _, basej, hj⟩
    have hkeyj : callj.key = call.key := (hj.rows row hrow).1.symm.trans hkey
    have hbasej := hj.current (List.ne_nil_of_mem hrow)
    rw [hkeyj, ← hbase] at hbasej
    have hnext := h.next
    rw [hempty, List.length_nil] at hnext
    cases hfirst : db.rowsOf j with
    | nil => simp [hfirst] at hrow
    | cons first others =>
      have hmem : first ∈ db.rowsOf j := by simp [hfirst]
      have hnumbered := hj.numbered
      rw [hfirst, NumberedFrom.cons_iff] at hnumbered
      apply hinFlight j first (mem_rowsOf.mp hmem) hne
      right
      constructor
      . rw [(hj.rows first hmem).1, hkeyj]
        rfl
      . change nextSequence = _
        omega
  . rcases List.exists_mem_of_ne_nil _ hempty with ⟨own, hown⟩
    apply hinv.exclusive i j (Ne.symm hne) own hown row hrow
    rw [(h.rows own hown).1, hkey]

theorem Writes.insert
    (h : Writes db i call aggregateType nextSequence (event :: remaining) stored base)
    (hbase : base = (db.committed.stream call.key).length) {db' : Database}
    (hcommitted : db'.committed = db.committed)
    (hrows : db'.rowsOf i = db.rowsOf i ++ [toRow call.key aggregateType nextSequence event])
    : Writes db' i call aggregateType (nextSequence + 1) remaining
        (stored ++ [event.toStored nextSequence]) base := by
  have hnext := h.next
  constructor
  . rw [hrows, List.length_append, List.length_singleton]
    omega
  . rw [hrows, NumberedFrom.append_iff, NumberedFrom.cons_iff]
    exact ⟨h.numbered, hnext, .nil⟩
  . rw [hrows]
    intro row hrow
    rw [List.mem_append, List.mem_singleton] at hrow
    cases hrow with
    | inl hrow => exact h.rows row hrow
    | inr hrow =>
      subst hrow
      exact ⟨rfl, rfl⟩
  . rw [hcommitted]
    exact h.bound
  . rw [hcommitted]
    intro _
    exact hbase
  . rw [hcommitted]
    exact h.typed
  . exact h.expected
  . rw [hrows, List.map_append, List.append_assoc, ← h.batch]
    rfl
  . exact h.nonempty
  . rw [hrows, List.map_append, List.map_append, h.stored]
    rfl

theorem TxInv.insert (hinv : TxInv db)
    (hphase : db.txs i = .inserting call aggregateType nextSequence (event :: remaining) stored)
    (hcommitted : ∀ other ∈ db.committed.rows,
      ¬ (toRow call.key aggregateType nextSequence event).Collides other)
    (hinFlight : ∀ j other, (j, other) ∈ db.inFlight → j ≠ i →
      ¬ (toRow call.key aggregateType nextSequence event).Collides other)
    : TxInv ({ db with
          inFlight := db.inFlight ++ [(i, toRow call.key aggregateType nextSequence event)]
        }.setTx i (.inserting call aggregateType (nextSequence + 1) remaining
          (stored ++ [event.toStored nextSequence]))) := by
  have hwrites := hinv.phases i
  rw [hphase] at hwrites
  rcases hwrites with ⟨base, h⟩
  have hbase := h.base_eq hinv hcommitted
  have halone : ∀ j, j ≠ i → ∀ row ∈ db.rowsOf j, row.key ≠ call.key := by
    intro j hne row hrow
    apply h.alone hinv hbase hinFlight hne hrow
  have hactive : ∀ result, db.txs i ≠ .returned result := by simp [hphase]
  refine ⟨hinv.numbered, hinv.typed, ?_, ?_, hinv.covered, ?_, ?_⟩
  . intro j
    rw [txs_setTx]
    split
    . next heq =>
      subst heq
      refine ⟨base, h.insert hbase rfl ?_⟩
      rw [rowsOf_setTx, rowsOf_append, if_pos rfl]
    . next hne =>
      apply (hinv.phases j).frame
      . rw [rowsOf_setTx, rowsOf_append, if_neg hne]
      . intro key
        rfl
  . intro j k hjk row hrow row' hrow'
    rw [rowsOf_setTx, rowsOf_append] at hrow hrow'
    split at hrow
    . next hj =>
      subst hj
      rw [if_neg (Ne.symm hjk)] at hrow'
      rw [List.mem_append, List.mem_singleton] at hrow
      cases hrow with
      | inl hrow => exact hinv.exclusive j k hjk row hrow row' hrow'
      | inr hrow =>
        subst hrow
        apply Ne.symm
        apply halone k (Ne.symm hjk) row' hrow'
    . next hj =>
      split at hrow'
      . next hk =>
        subst hk
        rw [List.mem_append, List.mem_singleton] at hrow'
        cases hrow' with
        | inl hrow' => exact hinv.exclusive j k hjk row hrow row' hrow'
        | inr hrow' =>
          subst hrow'
          apply halone j hj row hrow
      . apply hinv.exclusive j k hjk row hrow row' hrow'
  . intro c hc
    apply (hinv.commits c hc).setTx hactive
    rfl
  . intro j result hj
    rw [txs_setTx] at hj
    split at hj
    . cases hj
    . apply hinv.succeeded j result hj

end Insert

theorem TxInv.rollback {db : Database} (h : TxInv db) {i : Nat} (err : EventStoreError)
    (hactive : ∀ result, db.txs i ≠ .returned result) : TxInv (db.rollback i err) := by
  unfold Database.rollback
  refine ⟨h.numbered, h.typed, ?_, ?_, h.covered, ?_, ?_⟩
  . intro j
    rw [txs_setTx]
    split
    . next heq =>
      subst heq
      change Database.rowsOf _ _ = _
      rw [rowsOf_setTx, rowsOf_drop, if_pos rfl]
    . next hne =>
      apply (h.phases j).frame
      . rw [rowsOf_setTx, rowsOf_drop, if_neg hne]
      . intro key
        rfl
  . intro j k hjk row hrow row' hrow'
    rw [rowsOf_setTx, rowsOf_drop] at hrow hrow'
    split at hrow
    . cases hrow
    . split at hrow'
      . cases hrow'
      . apply h.exclusive j k hjk row hrow row' hrow'
  . intro c hc
    apply (h.commits c hc).setTx hactive
    rfl
  . intro j result hj
    rw [txs_setTx] at hj
    split at hj
    . cases hj
    . apply h.succeeded j result hj

section Commit

variable {db : Database} {i : Nat} {call : AppendCall} {aggregateType : String} {nextSequence : Nat}
  {stored : List StoredEvent} {base : Nat}

theorem Writes.rows_ne_nil
    (h : Writes db i call aggregateType nextSequence [] stored base) : db.rowsOf i ≠ [] := by
  intro hempty
  have hbatch := h.batch
  rw [hempty] at hbatch
  apply h.nonempty
  apply List.map_eq_nil_iff.mp hbatch.symm

theorem stream_commit (h : Writes db i call aggregateType nextSequence [] stored base)
    (key : StreamKey)
    : (db.commit i call stored).committed.stream key
        =
      if key = call.key then db.committed.stream key ++ db.rowsOf i
        else db.committed.stream key := by
  change EventsTable.stream ⟨db.committed.rows ++ db.rowsOf i⟩ key = _
  rw [stream_append]
  split
  . next heq =>
    congr 1
    rw [List.filter_eq_self]
    intro row hrow
    rw [heq]
    simpa using (h.rows row hrow).1
  . next hne =>
    rw [List.filter_eq_nil_iff.mpr, List.append_nil]
    intro row hrow
    rw [(h.rows row hrow).1]
    simpa using Ne.symm hne

theorem rowsOf_commit (j : Nat)
    : (db.commit i call stored).rowsOf j = if j = i then [] else db.rowsOf j := by
  rw [← rowsOf_drop]
  rfl

-- A transaction whose number is now outdated keeps it, and its type is that of the stream.
theorem Writes.after_commit (hinv : TxInv db)
    (h : Writes db i call aggregateType nextSequence [] stored base) {j : Nat} (hne : j ≠ i)
    {callj : AppendCall} {typej : String} {nextj : Nat} {remainingj : List UncommittedEvent}
    {storedj : List StoredEvent} {basej : Nat}
    (hj : Writes db j callj typej nextj remainingj storedj basej)
    : Writes (db.commit i call stored) j callj typej nextj remainingj storedj basej := by
  have hrows : (db.commit i call stored).rowsOf j = db.rowsOf j := by
    rw [rowsOf_commit, if_neg hne]
  have hown := h.rows_ne_nil
  have hbase := h.current hown
  have hbound := hj.bound
  constructor
  . rw [hrows]
    exact hj.next
  . rw [hrows]
    exact hj.numbered
  . rw [hrows]
    exact hj.rows
  . rw [stream_commit h]
    split
    . rw [List.length_append]
      omega
    . exact hbound
  . rw [hrows]
    intro hnej
    rcases List.exists_mem_of_ne_nil _ hown with ⟨row, hrow⟩
    rcases List.exists_mem_of_ne_nil _ hnej with ⟨rowj, hrowj⟩
    have hkeys := hinv.exclusive j i hne rowj hrowj row hrow
    rw [(hj.rows rowj hrowj).1, (h.rows row hrow).1] at hkeys
    rw [stream_commit h, if_neg hkeys]
    apply hj.current hnej
  . intro hne0 row hrow
    rw [stream_commit h] at hrow
    split at hrow
    . next hkey =>
      rw [List.mem_append] at hrow
      cases hrow with
      | inl hrow => exact hj.typed hne0 row hrow
      | inr hrow =>
        have hpos : 0 < (db.committed.stream callj.key).length := by omega
        rcases List.exists_mem_of_length_pos hpos with ⟨old, hold⟩
        rw [(h.rows row hrow).2, ← hj.typed hne0 old hold]
        apply Eq.symm
        rw [hkey] at hold hpos
        apply h.typed (by omega) old hold
    . exact hj.typed hne0 row hrow
  . exact hj.expected
  . rw [hrows]
    exact hj.batch
  . exact hj.nonempty
  . rw [hrows]
    exact hj.stored

theorem Writes.stream_typed
    (h : Writes db i call aggregateType nextSequence [] stored base)
    : ∀ row ∈ db.committed.stream call.key ++ db.rowsOf i, row.aggregateType = aggregateType := by
  have hbase := h.current h.rows_ne_nil
  intro row hrow
  rw [List.mem_append] at hrow
  cases hrow with
  | inl hrow =>
    have hpos := List.length_pos_of_mem hrow
    apply h.typed (by omega) row hrow
  | inr hrow => exact (h.rows row hrow).2

theorem Writes.numbered_commit (hinv : TxInv db)
    (h : Writes db i call aggregateType nextSequence [] stored base) (key : StreamKey)
    : NumberedFrom 1 (·.sequenceNumber) ((db.commit i call stored).committed.stream key) := by
  have hbase := h.current h.rows_ne_nil
  rw [stream_commit h]
  split
  . next heq =>
    rw [NumberedFrom.append_iff]
    refine ⟨hinv.numbered key, ?_⟩
    rw [heq, ← hbase, Nat.add_comm]
    exact h.numbered
  . exact hinv.numbered key

theorem Writes.typed_commit (hinv : TxInv db)
    (h : Writes db i call aggregateType nextSequence [] stored base) (key : StreamKey)
    : ∀ row ∈ (db.commit i call stored).committed.stream key,
        ∀ row' ∈ (db.commit i call stored).committed.stream key,
          row.aggregateType = row'.aggregateType := by
  rw [stream_commit h]
  split
  . next heq =>
    rw [heq]
    intro row hrow row' hrow'
    rw [h.stream_typed row hrow, h.stream_typed row' hrow']
  . exact hinv.typed key

theorem txs_commit (j : Nat)
    : (db.commit i call stored).txs j = if j = i then .returned (.ok stored) else db.txs j := by
  unfold Database.commit
  rw [txs_setTx]

theorem Writes.justified_commit
    (h : Writes db i call aggregateType nextSequence [] stored base)
    : TxCommit.Justified ⟨i, call, db.rowsOf i, stored⟩ (db.commit i call stored) where
  returned := by rw [txs_commit, if_pos rfl]
  rows := ⟨base, h.numbered, h.expected⟩
  batch := by simpa using h.batch
  stored := h.stored
  key_eq row hrow := (h.rows row hrow).1

theorem TxInv.commit (hinv : TxInv db)
    (hphase : db.txs i = .inserting call aggregateType nextSequence [] stored)
    : TxInv (db.commit i call stored) := by
  have hwrites := hinv.phases i
  rw [hphase] at hwrites
  rcases hwrites with ⟨base, h⟩
  have hactive : ∀ result, db.txs i ≠ .returned result := by simp [hphase]
  refine ⟨h.numbered_commit hinv, h.typed_commit hinv, ?_, ?_, ?_, ?_, ?_⟩
  . intro j
    rw [txs_commit]
    split
    . next heq =>
      subst heq
      change Database.rowsOf _ _ = _
      rw [rowsOf_commit, if_pos rfl]
    . next hne =>
      apply (hinv.phases j).map
      . rw [rowsOf_commit, if_neg hne]
      . intro callj typej nextj remainingj storedj basej hj
        apply h.after_commit hinv hne hj
  . intro j k hjk row hrow row' hrow'
    rw [rowsOf_commit] at hrow hrow'
    split at hrow
    . cases hrow
    . split at hrow'
      . cases hrow'
      . apply hinv.exclusive j k hjk row hrow row' hrow'
  . change db.committed.rows ++ db.rowsOf i = List.flatMap _ (db.commits ++ [_])
    rw [List.flatMap_append, ← hinv.covered, List.flatMap_singleton]
  . intro c hc
    change c ∈ db.commits ++ [_] at hc
    rw [List.mem_append, List.mem_singleton] at hc
    cases hc with
    | inl hc => exact (hinv.commits c hc).setTx hactive rfl
    | inr hc =>
      subst hc
      exact h.justified_commit
  . intro j result hj
    rw [txs_commit] at hj
    split at hj
    . next heq =>
      cases hj
      right
      refine ⟨_, List.mem_append_right _ (List.mem_singleton_self _), ?_, rfl⟩
      exact heq.symm
    . rcases hinv.succeeded j result hj with hempty | ⟨c, hc, hrest⟩
      . exact .inl hempty
      . exact .inr ⟨c, List.mem_append_left _ hc, hrest⟩

end Commit

theorem txInv_init {db : Database} (h : transactions.init db) : TxInv db := by
  rcases h with ⟨hcommitted, hinFlight, htxs, hcommits⟩
  have hrows : ∀ i, db.rowsOf i = [] := by
    intro i
    simp [Database.rowsOf, hinFlight]
  have hstream : ∀ key, db.committed.stream key = [] := by
    intro key
    simp [EventsTable.stream, hcommitted]
  constructor
  . simp [hstream]
  . simp [hstream]
  . intro i
    rw [htxs i]
    apply hrows i
  . simp [hrows]
  . simp [hcommitted, hcommits]
  . simp [hcommits]
  . simp [htxs]

theorem TxInv.step {db db' : Database} {action : TxAction} (h : TxInv db)
    (hstep : txStep db action = some db') : TxInv db' := by
  cases txSteps_of_txStep hstep with
  | @beginReturn i call result hphase hempty =>
    have hidle := h.phases i
    rw [hphase] at hidle
    apply h.setTx
    . simp [hphase]
    . exact hidle
    . intro stored hstored
      cases hstored
      apply hempty stored rfl
  | @begin i call aggregateType hphase hevents =>
    have hidle := h.phases i
    rw [hphase] at hidle
    apply h.setTx
    . simp [hphase]
    . exact ⟨hidle, hevents⟩
    . intro stored hstored
      cases hstored
  | select hphase hvalid => exact h.select hphase hvalid
  | insert hphase hcommitted hinFlight => exact h.insert hphase hcommitted hinFlight
  | commit hphase => exact h.commit hphase
  | rollback hactive => exact h.rollback _ hactive

theorem txInv_of_reachable {db : Database} (h : transactions.Reachable db) : TxInv db := by
  apply Machine.Reachable.invariant _ _ db h
  . intro db hinit
    apply txInv_init hinit
  . intro db action db' hinv hstep
    apply hinv.step hstep

/--
A committed batch: the events of the call, in order and contiguous, with the numbers its caller got
back, and starting where the caller expected them to.
-/
def TxCommit.Contiguous (c : TxCommit) : Prop :=
  ∃ first, c.rows.map (·.sequenceNumber) = List.range' first c.call.events.length
    ∧ c.rows.map (·.eventId) = c.call.events.map (·.eventId)
    ∧ (∀ row ∈ c.rows, row.key = c.call.key)
    ∧ c.stored.map (·.sequenceNumber) = c.rows.map (·.sequenceNumber)
    ∧ ∀ v, c.call.expectedVersion = .exact v → first = v + 1

theorem TxCommit.Justified.contiguous {c : TxCommit} {db : Database} (h : c.Justified db)
    : c.Contiguous := by
  rcases h.rows with ⟨base, hnumbered, hmatch⟩
  refine ⟨base + 1, ?_, h.batch, h.key_eq, h.stored, ?_⟩
  . have hlen := congrArg List.length h.batch
    rw [List.length_map, List.length_map] at hlen
    rw [← hlen]
    exact hnumbered
  . intro v hv
    rw [hv, ExpectedVersion.isMatch_exact] at hmatch
    rw [hmatch]

theorem interleaved_appends_sound (db : Database) (h : transactions.Reachable db)
    : (∀ key, (db.committed.stream key).map (·.sequenceNumber)
        = List.range' 1 (db.committed.stream key).length)
      ∧ (∀ key, ∀ row ∈ db.committed.stream key, ∀ row' ∈ db.committed.stream key,
          row.aggregateType = row'.aggregateType)
      ∧ db.committed.rows = db.commits.flatMap (·.rows)
      ∧ (∀ c ∈ db.commits, c.Contiguous ∧ db.txs c.tx = .returned (.ok c.stored))
      ∧ (∀ i stored, db.txs i = .returned (.ok stored) →
          stored = [] ∨ ∃ c ∈ db.commits, c.tx = i ∧ c.stored = stored)
      ∧ (∀ i err, db.txs i = .returned (.error err) →
          (∀ c ∈ db.commits, c.tx ≠ i) ∧ db.rowsOf i = []) := by
  have hinv := txInv_of_reachable h
  refine ⟨hinv.numbered, hinv.typed, hinv.covered, ?_, hinv.succeeded, ?_⟩
  . intro c hc
    exact ⟨(hinv.commits c hc).contiguous, (hinv.commits c hc).returned⟩
  . intro i err hphase
    constructor
    . intro c hc heq
      have hreturned := (hinv.commits c hc).returned
      rw [heq, hphase] at hreturned
      cases hreturned
    . have hconsistent := hinv.phases i
      rw [hphase] at hconsistent
      exact hconsistent

section Race

open InMemoryEventStore (opening)

-- Both transactions find an empty stream; the first one to insert wins.
def insertRace : List TxAction := [
  .begin 0 ⟨opening.key, [opening, { opening with eventId := ⟨8⟩ }], .exact 0⟩,
  .begin 1 ⟨opening.key, [{ opening with eventId := ⟨9⟩ }], .any⟩,
  .select 0,
  .select 1,
  .insert 0,
  .insert 0,
  .commit 0,
  .insert 1]

def noTransactions : Database where
  committed := ⟨[]⟩
  inFlight := []
  txs _ := .idle
  commits := []

theorem interleaved_appends_sound_race
    : ∃ db, transactions.run noTransactions insertRace = some db
      ∧ (db.committed.stream opening.key).map (·.sequenceNumber) = [1, 2]
      ∧ db.rowsOf 1 = [] := by
  have hrun : (transactions.run noTransactions insertRace).isSome = true := by decide
  rcases Option.isSome_iff_exists.mp hrun with ⟨db, hdb⟩
  have hlength : (db.committed.stream opening.key).length = 2 := by
    have : (transactions.run noTransactions insertRace).map
        (fun db => (db.committed.stream opening.key).length) = some 2 := by decide
    rw [hdb, Option.map_some] at this
    apply Option.some.inj this
  have hphase : ∃ err, db.txs 1 = .returned (.error err) := by
    have : (transactions.run noTransactions insertRace).map (fun db =>
        match db.txs 1 with
        | .returned (.error _) => true
        | _ => false) = some true := by decide
    rw [hdb, Option.map_some] at this
    split at this
    . next err hphase => exact ⟨err, hphase⟩
    . cases this
  have hreachable : transactions.Reachable db := by
    apply Machine.ReachableUnder.run (.init _) _ hdb
    . exact ⟨rfl, rfl, fun _ => rfl, rfl⟩
    . intros
      trivial
  rcases hphase with ⟨err, hphase⟩
  rcases interleaved_appends_sound db hreachable with ⟨hnumbered, _, _, _, _, hfailed⟩
  refine ⟨db, hdb, ?_, (hfailed 1 err hphase).2⟩
  rw [hnumbered, hlength]
  rfl

end Race

end PostgresEventStore
end ForgeErp
