import ForgeErp.Dispatcher.Lemmas.Identity
import ForgeErp.Dispatcher.Lemmas.Serial
import ForgeErp.Dispatcher.Persistent
import ForgeErp.EventStore.Lemmas.Progress

/-!
This module contains the refinement of the in-memory event store by the Postgres one: what
concurrent dispatches append through their transactions is what they append one after the other in
memory, in the order of the commits. The times that are read back may be coarser than those that
were stored, and no decision depends on them.
-/

namespace ForgeErp
namespace PersistentDispatcher

open CommandDispatcher PostgresEventStore

theorem appendCall_key {key : StreamKey} {aggregateType : String} {us : List UncommittedEvent}
    {expected : ExpectedVersion} (huniform : InMemoryEventStore.Uniform key aggregateType us)
    : appendCall key us expected = ⟨key, us, expected⟩ := by
  cases us with
  | nil => rfl
  | cons first rest =>
    unfold appendCall
    dsimp only
    rw [(huniform first List.mem_cons_self).1]

theorem loadStream_grows {db : Database} {i : Nat} {key : StreamKey} {aggregateType : String}
    {us : List UncommittedEvent} {expected : ExpectedVersion} {stored : List StoredEvent}
    (hcomplete : Complete db i key aggregateType us expected stored) (other : StreamKey)
    : PostgresEventStore.loadStream db.committed other
        <+: PostgresEventStore.loadStream
          (db.commit i ⟨key, us, expected⟩ stored).committed other := by
  rw [hcomplete.streams]
  split
  . next hkey =>
    rw [hkey]
    exact List.prefix_append _ _
  . exact List.prefix_rfl

variable {timestamptz : DateTime → DateTime}

theorem validateLoadedStream_go_readBack (key : StreamKey) (idx last : Nat)
    (stream : List StoredEvent)
    : validateLoadedStream.go key idx last (stream.map (readBack timestamptz))
        =
      validateLoadedStream.go key idx last stream := by
  induction stream generalizing idx last with
  | nil => rfl
  | cons e stream ih =>
    rw [List.map_cons, validateLoadedStream.go, validateLoadedStream.go, ih]
    rfl

theorem streamVersion_readBack (stream : List StoredEvent)
    : streamVersion (stream.map (readBack timestamptz)) = streamVersion stream := by
  unfold streamVersion
  rw [List.getLast?_map]
  cases stream.getLast? with
  | none => rfl
  | some e => rfl

theorem applyHistory_go_readBack {A : Aggregate} [Serde A.Event] (aggregate : A.State)
    (sorted : List StoredEvent)
    : applyHistory.go A aggregate (sorted.map (readBack timestamptz))
        =
      applyHistory.go A aggregate sorted := by
  induction sorted generalizing aggregate with
  | nil => rfl
  | cons e sorted ih =>
    rw [List.map_cons, applyHistory.go, applyHistory.go]
    dsimp only [readBack]
    split
    . rfl
    . exact ih _

theorem applyHistory_readBack {A : Aggregate} [Serde A.Event] (aggregate : A.State)
    (stream : List StoredEvent)
    : applyHistory A aggregate (stream.map (readBack timestamptz))
        = applyHistory A aggregate stream := by
  have hsort : (stream.insertionSort (fun a b => a.sequenceNumber ≤ b.sequenceNumber)).map
      (readBack timestamptz)
        = (stream.map (readBack timestamptz)).insertionSort
            (fun a b => a.sequenceNumber ≤ b.sequenceNumber) := by
    apply List.map_insertionSort
    intro a _ b _
    exact Iff.rfl
  unfold applyHistory
  rw [← hsort, applyHistory_go_readBack]

-- A decision sees the stored events but not when they occurred.
theorem decideEvents_readBack {A : Aggregate} [Event A.Event] [Serde A.Event] (request : Request A)
    (stream : List StoredEvent) (freshId : Nat → Uuid)
    : decideEvents request (stream.map (readBack timestamptz)) freshId
        =
      decideEvents request stream freshId := by
  unfold decideEvents validateLoadedStream
  dsimp only
  rw [validateLoadedStream_go_readBack, streamVersion_readBack, applyHistory_readBack]

variable [Lowercase] [TextFormat Uuid] [TextFormat DateTime] {B : Type}

def DecidedFrom (call : DispatchCall) (history : List StoredEvent) (us : List UncommittedEvent)
    (expected : ExpectedVersion)
    : Prop :=
  decideEvents (call.kind.request call.key call.aggregateType call.command) history call.freshId
    = .ok (some (us, expected))

/--
Where a caller stands.
-/
def Phase.Consistent (timestamptz : DateTime → DateTime) (phase : Phase) (db : Database) (i : Nat)
    : Prop :=
  match phase with
  | .idle => db.txs i = .idle
  | .loaded call history =>
    db.txs i = .idle
    ∧ ∃ stream, stream <+: PostgresEventStore.loadStream db.committed call.key
        ∧ history = stream.map (readBack timestamptz)
  | .appending call _ us expected =>
    (∃ stream, stream <+: PostgresEventStore.loadStream db.committed call.key
      ∧ DecidedFrom call stream us expected)
    ∧ (db.txs i).For db i ⟨call.key, us, expected⟩ call.aggregateType
  | .publishing _ _ _ => True
  | .returned _ _ => True

theorem Phase.Consistent.mono {phase : Phase} {db db' : Database} {i : Nat}
    (h : phase.Consistent timestamptz db i)
    (htxs : db'.txs i = db.txs i) (hrows : db'.rowsOf i = db.rowsOf i)
    (hgrow : ∀ key, PostgresEventStore.loadStream db.committed key
      <+: PostgresEventStore.loadStream db'.committed key)
    : phase.Consistent timestamptz db' i := by
  cases phase with
  | idle => exact htxs.trans h
  | loaded call history =>
    rcases h with ⟨hidle, stream, hpre, hhistory⟩
    exact ⟨htxs.trans hidle, stream, hpre.trans (hgrow _), hhistory⟩
  | appending call history us expected =>
    rcases h with ⟨⟨stream, hpre, hdecide⟩, hfor⟩
    refine ⟨⟨stream, hpre.trans (hgrow _), hdecide⟩, ?_⟩
    rw [htxs]
    exact hfor.congr hrows
  | publishing call committed rest => trivial
  | returned call result => trivial

structure Inv (timestamptz : DateTime → DateTime) (bus : InMemoryEventBus (EventEnvelope JsonValue))
    (s : State B) : Prop where
  tx : TxInv s.db
  phases : ∀ i, (s.phases i).Consistent timestamptz s.db i
  serial : DispatchCall.Serial bus s.calls (s.db.commits.map TxCommit.stored)
    (PostgresEventStore.loadStream s.db.committed)

variable {bus : InMemoryEventBus (EventEnvelope JsonValue)} {s : State B} {i : Nat}

theorem Inv.setPhase (h : Inv timestamptz bus s) {phase : Phase}
    (hphase : phase.Consistent timestamptz s.db i)
    : Inv timestamptz bus (s.setPhase i phase) := by
  refine ⟨h.tx, ?_, h.serial⟩
  intro j
  dsimp only [State.setPhase]
  split
  . next hj =>
    rw [hj]
    exact hphase
  . exact h.phases j

theorem Inv.setBus (h : Inv timestamptz bus s) (b : B)
    : Inv timestamptz bus { s with bus := b } := ⟨h.tx, h.phases, h.serial⟩

theorem Inv.advance (h : Inv timestamptz bus s) {db : Database}
    (hadvance : Advance s.db i db) (htx : TxInv db)
    : Inv timestamptz bus { s with db } := by
  refine ⟨htx, ?_, ?_⟩
  . intro j
    have hgrow : ∀ key, PostgresEventStore.loadStream s.db.committed key
        <+: PostgresEventStore.loadStream db.committed key := by
      intro key
      rw [hadvance.committed]
    by_cases hj : j = i
    . subst hj
      have hconsistent := h.phases j
      dsimp only
      cases hphase : s.phases j with
      | idle =>
        rw [hphase] at hconsistent
        exact absurd hconsistent hadvance.ne_idle
      | loaded call history =>
        rw [hphase] at hconsistent
        exact absurd hconsistent.1 hadvance.ne_idle
      | appending call history us expected =>
        rw [hphase] at hconsistent
        rcases hconsistent with ⟨⟨stream, hpre, hdecide⟩, hfor⟩
        exact ⟨⟨stream, hpre.trans (hgrow _), hdecide⟩, hadvance.for h.tx hfor⟩
      | publishing call committed rest => trivial
      | returned call result => trivial
    . exact (h.phases j).mono (hadvance.txs_ne hj) (hadvance.rowsOf_ne hj) hgrow
  . dsimp only
    rw [hadvance.commits, hadvance.committed]
    exact h.serial

theorem Inv.begin (h : Inv timestamptz bus s) {call : DispatchCall} {history : List StoredEvent}
    {us : List UncommittedEvent} {expected : ExpectedVersion} {db : Database}
    (hphase : s.phases i = .loaded call history) (hdecide : DecidedFrom call history us expected)
    (hstep : txStep s.db (.begin i (appendCall call.key us expected)) = some db)
    : Inv timestamptz bus ({ s with db }.setPhase i (.appending call history us expected)) := by
  have hconsistent := h.phases i
  rw [hphase] at hconsistent
  rcases hconsistent with ⟨-, stream, hpre, rfl⟩
  rcases decideEvents_uniform hdecide with ⟨hdecided, hne⟩
  have huniform : InMemoryEventStore.Uniform call.key call.aggregateType us := hdecided
  have htx := h.tx.step hstep
  rw [appendCall_key huniform] at hstep
  rcases for_of_begin huniform hne hstep with ⟨phase, rfl, hfor⟩
  refine ⟨htx, ?_, h.serial⟩
  intro j
  dsimp only [State.setPhase]
  split
  . next hj =>
    subst hj
    refine ⟨⟨stream, hpre, (decideEvents_readBack _ _ _).symm.trans hdecide⟩, ?_⟩
    rw [txs_setTx, if_pos rfl]
    exact hfor.congr rfl
  . next hj => exact (h.phases j).mono (if_neg hj) rfl (fun _ => List.prefix_rfl)

-- A batch that can be committed has been decided on all that is in the stream by then.
theorem Inv.complete (h : Inv timestamptz bus s) {call : DispatchCall} {history : List StoredEvent}
    {us : List UncommittedEvent} {expected : ExpectedVersion} {db : Database}
    (hphase : s.phases i = .appending call history us expected)
    (hstep : txStep s.db (.commit i) = some db)
    : ∃ stored, db = s.db.commit i ⟨call.key, us, expected⟩ stored
        ∧ Complete s.db i call.key call.aggregateType us expected stored
        ∧ DecidedFrom call (PostgresEventStore.loadStream s.db.committed call.key) us expected := by
  have hconsistent := h.phases i
  rw [hphase] at hconsistent
  rcases hconsistent with ⟨⟨stream, hpre, hdecide⟩, hfor⟩
  dsimp only [txStep] at hstep
  split at hstep
  . next call' aggregateType' next stored hinserting =>
    cases hstep
    have hsame := hfor
    rw [hinserting] at hsame
    rcases hsame with ⟨rfl, rfl, -⟩
    rcases decideEvents_uniform hdecide with ⟨huniform, hne⟩
    have hcomplete : Complete s.db i call.key call.aggregateType us expected stored :=
      complete_of_inserting h.tx huniform hinserting hfor
    rcases decidedOn_of_decideEvents hdecide with ⟨state, decided, hdecided⟩
    have hcurrent := hcomplete.current
    rw [hdecided.expected_eq] at hcurrent
    have hstream := eq_of_streamVersion hpre (wellFormedStream h.tx call.key) hcurrent
    subst hstream
    exact ⟨stored, rfl, hcomplete, hdecide⟩
  . cases hstep

-- The commit is where the call takes effect.
theorem Inv.commit (h : Inv timestamptz bus s) {call : DispatchCall} {history : List StoredEvent}
    {us : List UncommittedEvent} {expected : ExpectedVersion} {db : Database}
    (hphase : s.phases i = .appending call history us expected)
    (hstep : txStep s.db (.commit i) = some db)
    : Inv timestamptz bus { s with db, calls := s.calls ++ [call] } := by
  have htx := h.tx.step hstep
  rcases h.complete hphase hstep with ⟨stored, rfl, hcomplete, hdecide⟩
  have hgrow := loadStream_grows hcomplete
  rcases decidedOn_of_decideEvents hdecide with ⟨state, decided, hdecided⟩
  have hdecides : Decides (call.kind.request call.key call.aggregateType call.command)
      (PostgresEventStore.loadStream s.db.committed call.key) call.freshId state decided stored :=
    ⟨hdecided.applied, hdecided.handle, hdecided.nonempty,
      ⟨us, hdecided.serialized, hcomplete.batch⟩,
      hcomplete.typed⟩
  refine ⟨htx, ?_, ?_⟩
  . intro j
    dsimp only
    by_cases hj : j = i
    . subst hj
      rw [hphase]
      refine ⟨⟨_, hgrow call.key, hdecide⟩, ?_⟩
      rw [txs_commit, if_pos rfl]
      trivial
    . refine (h.phases j).mono ?_ ?_ hgrow
      . rw [txs_commit, if_neg hj]
      . rw [rowsOf_commit, if_neg hj]
  . dsimp only [Database.commit, Database.setTx]
    rw [List.map_append]
    apply (h.serial.concat (wellFormedStream h.tx) hdecides).congr
    exact hcomplete.streams

variable {eventBus : EventBus B (EventEnvelope JsonValue)} {s' : State B} {action : Action}

/--
What a step does, with what has been found out on the way.
-/
inductive Steps (timestamptz : DateTime → DateTime)
    (eventBus : EventBus B (EventEnvelope JsonValue)) (s : State B) : State B → Prop where
  | loaded {i : Nat} (call : DispatchCall) :
      s.phases i = .idle →
      Steps timestamptz eventBus s
        (s.setPhase i (.loaded call (readStream timestamptz s.db.committed call.key)))
  | unavailable {i : Nat} (call : DispatchCall) (err : EventStoreError) :
      s.phases i = .idle →
      Steps timestamptz eventBus s (s.setPhase i (.returned call (.error (.ofStore err))))
  | rejected {i : Nat} {call : DispatchCall} {history : List StoredEvent} {err : DispatchError} :
      s.phases i = .loaded call history →
      decideEvents (call.kind.request call.key call.aggregateType call.command) history
        call.freshId = .error err →
      Steps timestamptz eventBus s (s.setPhase i (.returned call (.error err)))
  | nothing {i : Nat} {call : DispatchCall} {history : List StoredEvent} :
      s.phases i = .loaded call history →
      decideEvents (call.kind.request call.key call.aggregateType call.command) history
        call.freshId = .ok none →
      Steps timestamptz eventBus s (s.setPhase i (.returned call (.ok [])))
  | begun {i : Nat} {call : DispatchCall} {history : List StoredEvent}
      {us : List UncommittedEvent} {expected : ExpectedVersion} {db : Database} :
      s.phases i = .loaded call history →
      DecidedFrom call history us expected →
      txStep s.db (.begin i (appendCall call.key us expected)) = some db →
      Steps timestamptz eventBus s
        ({ s with db }.setPhase i (.appending call history us expected))
  | advanced {i : Nat} {txAction : TxAction} {db : Database} :
      txStep s.db txAction = some db →
      Advance s.db i db →
      Steps timestamptz eventBus s { s with db }
  | committed {i : Nat} {call : DispatchCall} {history : List StoredEvent}
      {us : List UncommittedEvent} {expected : ExpectedVersion} {db : Database} :
      s.phases i = .appending call history us expected →
      txStep s.db (.commit i) = some db →
      Steps timestamptz eventBus s { s with db, calls := s.calls ++ [call] }
  | received {i : Nat} {call : DispatchCall} {history : List StoredEvent}
      {us : List UncommittedEvent} {expected : ExpectedVersion} {stored : List StoredEvent} :
      s.phases i = .appending call history us expected →
      (s.db.txs i).outcome = some (.ok stored) →
      Steps timestamptz eventBus s (s.setPhase i (.publishing call stored stored))
  | refused {i : Nat} {call : DispatchCall} {history : List StoredEvent}
      {us : List UncommittedEvent} {expected : ExpectedVersion} {err : EventStoreError} :
      s.phases i = .appending call history us expected →
      (s.db.txs i).outcome = some (.error err) →
      Steps timestamptz eventBus s (s.setPhase i (.returned call (.error (.ofStore err))))
  | published {i : Nat} {call : DispatchCall} {stored : List StoredEvent} :
      s.phases i = .publishing call stored [] →
      Steps timestamptz eventBus s (s.setPhase i (.returned call (.ok stored)))
  | interrupted {i : Nat} {call : DispatchCall} {stored rest : List StoredEvent} {e : StoredEvent}
      {b : B} {msg : String} :
      s.phases i = .publishing call stored (e :: rest) →
      eventBus.publish s.bus e.toEnvelope = (.error msg, b) →
      Steps timestamptz eventBus s
        ({ s with bus := b }.setPhase i (.returned call (.error (.publish msg))))
  | publish {i : Nat} {call : DispatchCall} {stored rest : List StoredEvent} {e : StoredEvent}
      {b : B} :
      s.phases i = .publishing call stored (e :: rest) →
      eventBus.publish s.bus e.toEnvelope = (.ok (), b) →
      Steps timestamptz eventBus s ({ s with bus := b }.setPhase i (.publishing call stored rest))

theorem steps_of_transact {txAction : TxAction} (hstep : s.transact txAction = some s')
    (hadvance : ∀ db, txStep s.db txAction = some db → Advance s.db i db)
    : Steps timestamptz eventBus s s' := by
  rcases Option.map_eq_some_iff.mp hstep with ⟨db, hdb, rfl⟩
  exact .advanced hdb (hadvance db hdb)

theorem steps_of_step (hstep : step timestamptz eventBus s action = some s')
    : Steps timestamptz eventBus s s' := by
  cases action with
  | load i call =>
    dsimp only [step] at hstep
    split at hstep
    . next hphase =>
      cases hstep
      exact .loaded call hphase
    . cases hstep
  | unavailable i call err =>
    dsimp only [step] at hstep
    split at hstep
    . next hphase =>
      cases hstep
      exact .unavailable call err hphase
    . cases hstep
  | decide i =>
    dsimp only [step] at hstep
    split at hstep
    . next hphase =>
      split at hstep
      . next hdecide =>
        cases hstep
        exact .rejected hphase hdecide
      . next hdecide =>
        cases hstep
        exact .nothing hphase hdecide
      . next hdecide =>
        rcases Option.map_eq_some_iff.mp hstep with ⟨begun, hbegun, rfl⟩
        rcases Option.map_eq_some_iff.mp hbegun with ⟨db, hdb, rfl⟩
        exact .begun hphase hdecide hdb
    . cases hstep
  | select i => exact steps_of_transact hstep (fun _ => advance_of_select)
  | insert i => exact steps_of_transact hstep (fun _ => advance_of_insert)
  | abort i err => exact steps_of_transact hstep (fun _ => advance_of_fail)
  | commit i =>
    dsimp only [step] at hstep
    split at hstep
    . next hphase =>
      rcases Option.map_eq_some_iff.mp hstep with ⟨committed, hcommitted, rfl⟩
      rcases Option.map_eq_some_iff.mp hcommitted with ⟨db, hdb, rfl⟩
      exact .committed hphase hdb
    . cases hstep
  | receive i =>
    dsimp only [step] at hstep
    split at hstep
    . next hphase =>
      split at hstep
      . next houtcome =>
        cases hstep
        exact .received hphase houtcome
      . next houtcome =>
        cases hstep
        exact .refused hphase houtcome
      . cases hstep
    . cases hstep
  | publish i =>
    dsimp only [step] at hstep
    split at hstep
    . next hphase =>
      cases hstep
      exact .published hphase
    . next hphase =>
      split at hstep
      . next hpublish =>
        cases hstep
        exact .interrupted hphase hpublish
      . next hpublish =>
        cases hstep
        exact .publish hphase hpublish
    . cases hstep

theorem inv_steps (h : Inv timestamptz bus s) (hsteps : Steps timestamptz eventBus s s')
    : Inv timestamptz bus s' := by
  cases hsteps with
  | @loaded i call hphase =>
    have hidle := h.phases i
    rw [hphase] at hidle
    exact h.setPhase ⟨hidle, _, List.prefix_rfl, rfl⟩
  | unavailable => exact h.setPhase trivial
  | rejected => exact h.setPhase trivial
  | nothing => exact h.setPhase trivial
  | begun hphase hdecide hdb => exact h.begin hphase hdecide hdb
  | advanced hdb hadvance => exact h.advance hadvance (h.tx.step hdb)
  | committed hphase hdb => exact h.commit hphase hdb
  | received => exact h.setPhase trivial
  | refused => exact h.setPhase trivial
  | published => exact h.setPhase trivial
  | interrupted => exact (h.setBus _).setPhase trivial
  | publish => exact (h.setBus _).setPhase trivial

theorem inv_started (b : B) : Inv timestamptz bus (started b) := by
  refine ⟨txInv_init ⟨rfl, rfl, fun _ => rfl, rfl⟩, ?_, .nil⟩
  intro i
  rfl

theorem inv_of_reachable (timestamptz : DateTime → DateTime)
    (eventBus : EventBus B (EventEnvelope JsonValue)) (b : B)
    (bus : InMemoryEventBus (EventEnvelope JsonValue)) {s : State B}
    (h : (system timestamptz eventBus b).Reachable s)
    : Inv timestamptz bus s := by
  apply Machine.Reachable.invariant _ _ s h
  . intro s hs
    rw [hs]
    exact inv_started b
  . intro s action s' hinv hstep
    exact inv_steps hinv (steps_of_step hstep)

theorem dispatches_serialize (timestamptz : DateTime → DateTime)
    (eventBus : EventBus B (EventEnvelope JsonValue)) (b : B) (s : State B)
    (h : (system timestamptz eventBus b).Reachable s)
    (bus : InMemoryEventBus (EventEnvelope JsonValue))
    : (DispatchCall.performAll InMemoryEventBus.toEventBus s.calls .new bus).1
          = s.db.commits.map (fun c => .ok c.stored)
        ∧ ∀ key,
            readStream timestamptz s.db.committed key
            = ((DispatchCall.performAll InMemoryEventBus.toEventBus s.calls .new
                bus).2.1.loadStream key).map (readBack timestamptz) := by
  have hinv := inv_of_reachable timestamptz eventBus b bus h
  constructor
  . rw [hinv.serial.results, List.map_map]
    rfl
  . intro key
    rw [hinv.serial.loadStream key]
    rfl

end PersistentDispatcher

namespace Bolt

open Concrete PersistentDispatcher

def microseconds (time : DateTime) : DateTime :=
  ⟨time.nanos / 1000 * 1000⟩

-- Both callers load an empty stream; the second insert collides with the first one's row. The third
-- caller decides on what is read back.
def createRace : List Action := [
  .load 0 (Bolt.call (.createItem Bolt.create) ⟨10⟩),
  .load 1 (Bolt.call (.createItem Bolt.create) ⟨11⟩),
  .decide 1,
  .decide 0,
  .select 0,
  .select 1,
  .insert 1,
  .commit 1,
  .insert 0,
  .receive 1,
  .receive 0,
  .publish 1,
  .load 2 (Bolt.call (.adjustStock (Bolt.adjust 5)) ⟨12⟩),
  .decide 2,
  .select 2,
  .insert 2,
  .commit 2,
  .receive 2]

theorem reachable_of_createRace {B : Type} {eventBus : EventBus B (EventEnvelope JsonValue)} {b : B}
    {s : State B} (h : (system microseconds eventBus b).run (started b) createRace = some s)
    : (system microseconds eventBus b).Reachable s :=
  Machine.ReachableUnder.run (.init rfl) (fun _ _ _ => trivial) h

theorem dispatches_serialize_race
    : ∃ s, (system microseconds InMemoryEventBus.toEventBus ⟨[]⟩).run (started ⟨[]⟩) createRace
        = some s
        ∧ s.db.commits.length = 2
        ∧ (DispatchCall.performAll InMemoryEventBus.toEventBus s.calls .new ⟨[]⟩).1
          = s.db.commits.map (fun c => .ok c.stored) :=
  ⟨_, rfl, rfl,
    (dispatches_serialize microseconds InMemoryEventBus.toEventBus ⟨[]⟩ _
      (reachable_of_createRace rfl) ⟨[]⟩).1⟩

end Bolt
end ForgeErp
