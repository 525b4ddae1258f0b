import ForgeErp.Dispatcher.Lemmas.Persistent

/-!
This module contains what the answers of the persistent dispatcher say about the events table: a
batch that is returned has been committed, a failure to publish comes with the whole batch
committed, and any other error leaves nothing behind.
-/

namespace ForgeErp

namespace DispatchError

def OnPublish (err : DispatchError) : Prop :=
  ∃ msg, err = .publish msg

theorem not_onPublish_ofStore (value : EventStoreError) : ¬ (ofStore value).OnPublish := by
  rintro ⟨msg, h⟩
  cases value with
  | concurrency msg => cases h
  | tenantIsolation msg => cases h
  | aggregateTypeMismatch msg => cases h
  | invalidAppend msg => cases h
  | publish msg => cases h

theorem not_onPublish_ofDomain (value : DomainError) : ¬ (ofDomain value).OnPublish := by
  rintro ⟨msg, h⟩
  cases value with
  | validation msg => cases h
  | invariantViolation msg => cases h
  | invalidId msg => cases h
  | notFound => cases h
  | conflict msg => cases h
  | unauthorized => cases h

end DispatchError

namespace CommandDispatcher

theorem validateLoadedStream_go_not_onPublish {key : StreamKey} {idx last : Nat}
    {stream : List StoredEvent}
    {err : DispatchError}
    (h : validateLoadedStream.go key idx last stream = .error err) : ¬ err.OnPublish := by
  induction stream generalizing idx last with
  | nil => cases h
  | cons e es ih =>
    rw [validateLoadedStream.go] at h
    rintro ⟨msg, rfl⟩
    split at h
    . cases h
    . split at h
      . cases h
      . split at h
        . cases h
        . split at h
          . cases h
          . exact ih h ⟨msg, rfl⟩

theorem applyHistory_go_not_onPublish {A : Aggregate} [Serde A.Event] {aggregate : A.State}
    {sorted : List StoredEvent} {err : DispatchError}
    (h : applyHistory.go A aggregate sorted = .error err)
    : ¬ err.OnPublish := by
  induction sorted generalizing aggregate with
  | nil => cases h
  | cons stored rest ih =>
    rw [applyHistory.go] at h
    rintro ⟨msg, rfl⟩
    split at h
    . cases h
    . exact ih h ⟨msg, rfl⟩

theorem decideEvents_not_onPublish {A : Aggregate} [Event A.Event] [Serde A.Event]
    {request : Request A}
    {history : List StoredEvent} {freshId : Nat → Uuid} {err : DispatchError}
    (h : decideEvents request history freshId = .error err) : ¬ err.OnPublish := by
  unfold decideEvents at h
  split at h
  . next hvalidate =>
    cases h
    exact validateLoadedStream_go_not_onPublish hvalidate
  . dsimp only at h
    split at h
    . next happly =>
      cases h
      exact applyHistory_go_not_onPublish happly
    . split at h
      . cases h
        exact DispatchError.not_onPublish_ofDomain _
      . cases h
      . split at h
        . cases h
          exact DispatchError.not_onPublish_ofStore _
        . cases h

end CommandDispatcher

namespace PostgresEventStore

def Database.commitsOf (db : Database) (i : Nat) : List TxCommit :=
  db.commits.filter (fun c => c.tx = i)

variable {db db' : Database} {i : Nat}

theorem txs_of_advance (h : Advance db i db') (j : Nat)
    : db'.txs j = db.txs j ∨ (db.txs j).Open := by
  by_cases hj : j = i
  . right
    rw [hj]
    exact h.open
  . left
    exact h.txs_ne hj

theorem txs_of_commit (h : txStep db (.commit i) = some db') (j : Nat)
    : db'.txs j = db.txs j ∨ (db.txs j).Open := by
  dsimp only [txStep] at h
  split at h
  . next hphase =>
    cases h
    by_cases hj : j = i
    . right
      rw [hj, hphase]
      trivial
    . left
      exact if_neg hj
  . cases h

theorem txs_ne_of_begin {call : AppendCall} {j : Nat} (h : txStep db (.begin i call) = some db')
    (hne : j ≠ i)
    : db'.txs j = db.txs j := by
  dsimp only [txStep] at h
  split at h
  . split at h
    . cases h
      exact if_neg hne
    . split at h
      . cases h
        exact if_neg hne
      . cases h
        exact if_neg hne
  . cases h

theorem TxPhase.eq_returned_of_outcome {phase : TxPhase}
    {result : Except EventStoreError (List StoredEvent)}
    (h : phase.outcome = some result) : phase = .returned result := by
  cases phase with
  | returned result' =>
    cases h
    rfl
  | idle => cases h
  | begun call aggregateType => cases h
  | inserting call aggregateType next remaining stored => cases h

/--
A step that commits nothing.
-/
structure Quiet (db db' : Database) : Prop where
  committed : db'.committed = db.committed
  commits : db'.commits = db.commits
  txs : ∀ j, db'.txs j = db.txs j
    ∨ (db.txs j).outcome = none ∧ ∀ stored, db'.txs j = .returned (.ok stored) → stored = []

theorem Quiet.setTx (hopen : (db.txs i).outcome = none) {phase : TxPhase}
    (hphase : ∀ stored, phase = .returned (.ok stored) → stored = []) : Quiet db
    (db.setTx i phase) := by
  refine ⟨rfl, rfl, ?_⟩
  intro j
  rw [txs_setTx]
  split
  . next hj =>
    subst hj
    exact .inr ⟨hopen, hphase⟩
  . exact .inl rfl

theorem quiet_of_begin {call : AppendCall} (h : txStep db (.begin i call) = some db')
    : Quiet db db' := by
  dsimp only [txStep] at h
  split at h
  . next hidle =>
    have hopen : (db.txs i).outcome = none := by
      rw [hidle]
      rfl
    split at h
    . cases h
      apply Quiet.setTx hopen
      intro stored hstored
      cases hstored
      rfl
    . split at h
      . cases h
        apply Quiet.setTx hopen
        intro stored hstored
        cases hstored
      . cases h
        apply Quiet.setTx hopen
        intro stored hstored
        cases hstored
  . cases h

theorem TxPhase.Open.outcome_eq {phase : TxPhase} (h : phase.Open) : phase.outcome = none := by
  cases phase with
  | idle => cases h
  | begun call aggregateType => rfl
  | inserting call aggregateType next remaining stored => rfl
  | returned result => cases h

theorem quiet_of_advance (h : Advance db i db') : Quiet db db' := by
  refine ⟨h.committed, h.commits, ?_⟩
  intro j
  by_cases hj : j = i
  . subst hj
    refine .inr ⟨h.open.outcome_eq, ?_⟩
    intro stored hstored
    cases h with
    | select hphase =>
      rw [txs_setTx, if_pos rfl] at hstored
      cases hstored
    | insert hphase =>
      rw [txs_setTx, if_pos rfl] at hstored
      cases hstored
    | rollback hopen =>
      unfold Database.rollback at hstored
      rw [txs_setTx, if_pos rfl] at hstored
      cases hstored
  . exact .inl (h.txs_ne hj)

theorem commitsOf_commit {call : AppendCall} {stored : List StoredEvent} (j : Nat)
    : (db.commit i call stored).commitsOf j
        =
      if j = i then db.commitsOf i ++ [⟨i, call, db.rowsOf i, stored⟩] else db.commitsOf j := by
  dsimp only [Database.commitsOf, Database.commit, Database.setTx]
  rw [List.filter_append]
  split
  . next hj =>
    subst hj
    simp
  . next hj =>
    have hne : ¬ i = j := fun heq => hj heq.symm
    simp [hne]

end PostgresEventStore

namespace PersistentDispatcher

open CommandDispatcher PostgresEventStore

variable [Lowercase]

/--
The transaction of a caller, as far as the caller has been told of it.
-/
def Phase.Accounted (phase : Phase) (tx : TxPhase) : Prop :=
  match phase with
  | .idle => tx = .idle
  | .loaded _ _ => tx = .idle
  | .appending _ _ _ _ => True
  | .publishing _ committed rest => tx = .returned (.ok committed) ∧ (rest ≠ [] → committed ≠ [])
  | .returned _ (.ok committed) => (tx = .idle ∧ committed = []) ∨ tx = .returned (.ok committed)
  | .returned _ (.error err) =>
    (err.OnPublish ∧ ∃ committed, committed ≠ [] ∧ tx = .returned (.ok committed))
    ∨ (¬ err.OnPublish ∧ (tx = .idle ∨ ∃ e, tx = .returned (.error e)))

-- Whoever has an open transaction waits for it.
theorem Phase.Accounted.of_open {phase : Phase} {tx : TxPhase} (h : phase.Accounted tx)
    (hopen : tx.Open)
    (tx' : TxPhase) : phase.Accounted tx' := by
  cases phase with
  | idle =>
    rw [h] at hopen
    cases hopen
  | loaded call history =>
    rw [h] at hopen
    cases hopen
  | appending call history us expected => trivial
  | publishing call committed rest =>
    rw [h.1] at hopen
    cases hopen
  | returned call result =>
    cases result with
    | ok committed =>
      rcases h with ⟨rfl, -⟩ | rfl
      . cases hopen
      . cases hopen
    | error err =>
      rcases h with ⟨-, committed, -, rfl⟩ | ⟨-, rfl | ⟨e, rfl⟩⟩
      . cases hopen
      . cases hopen
      . cases hopen

variable {B : Type}

def State.Accounted (s : State B) : Prop :=
  ∀ i, (s.phases i).Accounted (s.db.txs i)

variable {s s' : State B} {i : Nat}

theorem State.Accounted.setPhase (h : s.Accounted) {phase : Phase}
    (hphase : phase.Accounted (s.db.txs i))
    : (s.setPhase i phase).Accounted := by
  intro j
  dsimp only [State.setPhase]
  split
  . next hj =>
    rw [hj]
    exact hphase
  . exact h j

theorem State.Accounted.setDb (h : s.Accounted) {db : Database}
    (htxs : ∀ j, db.txs j = s.db.txs j ∨ (s.db.txs j).Open)
    : State.Accounted { s with db } := by
  intro j
  rcases htxs j with hsame | hopen
  . dsimp only
    rw [hsame]
    exact h j
  . exact (h j).of_open hopen _

theorem State.Accounted.begin (h : s.Accounted) {call : AppendCall} {phase : Phase} {db : Database}
    (hphase : ∀ tx, phase.Accounted tx) (hstep : txStep s.db (.begin i call) = some db)
    : State.Accounted ({ s with db }.setPhase i phase) := by
  intro j
  dsimp only [State.setPhase]
  split
  . exact hphase _
  . next hj =>
    rw [txs_ne_of_begin hstep hj]
    exact h j

variable [TextFormat Uuid] [TextFormat DateTime] {timestamptz : DateTime → DateTime}
  {eventBus : EventBus B (EventEnvelope JsonValue)} {action : Action}

theorem accounted_steps (h : s.Accounted) (hsteps : Steps timestamptz eventBus s s')
    : s'.Accounted := by
  cases hsteps with
  | @loaded i call hphase =>
    have hidle := h i
    rw [hphase] at hidle
    exact h.setPhase hidle
  | @unavailable i call err hphase =>
    have hidle := h i
    rw [hphase] at hidle
    exact h.setPhase (.inr ⟨DispatchError.not_onPublish_ofStore err, .inl hidle⟩)
  | @rejected i call history err hphase hdecide =>
    have hidle := h i
    rw [hphase] at hidle
    exact h.setPhase (.inr ⟨decideEvents_not_onPublish hdecide, .inl hidle⟩)
  | @nothing i call history hphase hdecide =>
    have hidle := h i
    rw [hphase] at hidle
    exact h.setPhase (.inl ⟨hidle, rfl⟩)
  | begun _ _ hdb =>
    apply h.begin _ hdb
    intro tx
    trivial
  | advanced _ hadvance => exact h.setDb (txs_of_advance hadvance)
  | committed _ hdb =>
    have hnext := h.setDb (txs_of_commit hdb)
    exact hnext
  | received _ houtcome => exact h.setPhase ⟨TxPhase.eq_returned_of_outcome houtcome, id⟩
  | @refused i call history us expected err _ houtcome =>
    apply h.setPhase
    refine .inr ⟨DispatchError.not_onPublish_ofStore err, .inr ⟨err, ?_⟩⟩
    exact TxPhase.eq_returned_of_outcome houtcome
  | @published i call stored hphase =>
    have hpublishing := h i
    rw [hphase] at hpublishing
    exact h.setPhase (.inr hpublishing.1)
  | @interrupted i call stored rest e b msg hphase hpublish =>
    have hpublishing := h i
    rw [hphase] at hpublishing
    have hne : stored ≠ [] := hpublishing.2 (List.cons_ne_nil _ _)
    have hbus : State.Accounted { s with bus := b } := h
    exact hbus.setPhase (.inl ⟨⟨msg, rfl⟩, stored, hne, hpublishing.1⟩)
  | @publish i call stored rest e b hphase hpublish =>
    have hpublishing := h i
    rw [hphase] at hpublishing
    have hbus : State.Accounted { s with bus := b } := h
    exact hbus.setPhase ⟨hpublishing.1, fun _ => hpublishing.2 (List.cons_ne_nil _ _)⟩

theorem accounted_of_reachable {b : B} (h : (system timestamptz eventBus b).Reachable s)
    : s.Accounted := by
  apply Machine.Reachable.invariant _ _ s h
  . intro s hs
    rw [hs]
    intro i
    rfl
  . intro s action s' hs hstep
    exact accounted_steps hs (steps_of_step hstep)

/--
A commit of all that the call decides on a history of its stream, stored right behind that history.
-/
def Whole (db : Database) (call : DispatchCall) (c : TxCommit) : Prop :=
  ∃ history us expected,
    DecidedFrom call history us expected
    ∧ c.stored = assignSequence (history.length + 1) us
    ∧ history ++ c.stored <+: PostgresEventStore.loadStream db.committed call.key

theorem Whole.mono {db db' : Database} {call : DispatchCall} {c : TxCommit} (h : Whole db call c)
    (hgrow : PostgresEventStore.loadStream db.committed call.key
      <+: PostgresEventStore.loadStream db'.committed call.key)
    : Whole db' call c := by
  rcases h with ⟨history, us, expected, hdecide, hstored, hpre⟩
  exact ⟨history, us, expected, hdecide, hstored, hpre.trans hgrow⟩

theorem Whole.stored_ne_nil {db : Database} {call : DispatchCall} {c : TxCommit}
    (h : Whole db call c)
    : c.stored ≠ [] := by
  rcases h with ⟨history, us, expected, hdecide, hstored, -⟩
  rw [hstored]
  cases us with
  | nil => exact absurd rfl (decideEvents_uniform hdecide).2
  | cons u us => exact List.cons_ne_nil _ _

/--
What a caller's transaction has committed: nothing, or the one batch that it returned.
-/
def State.Recorded (s : State B) (i : Nat) : Prop :=
  (s.db.commitsOf i = [] ∧ ∀ stored, s.db.txs i = .returned (.ok stored) → stored = [])
  ∨ ∃ c call, s.db.commitsOf i = [c] ∧ s.db.txs i = .returned (.ok c.stored)
      ∧ (s.phases i).call = some call ∧ Whole s.db call c

theorem State.Recorded.setPhase (h : ∀ j, s.Recorded j) {phase : Phase}
    (hcall : ∀ call, (s.phases i).call = some call → phase.call = some call) (j : Nat)
    : (s.setPhase i phase).Recorded j := by
  rcases h j with hnothing | ⟨c, call, hc, htx, hphase, hwhole⟩
  . exact .inl hnothing
  . refine .inr ⟨c, call, hc, htx, ?_, hwhole⟩
    dsimp only [State.setPhase]
    split
    . next hj =>
      subst hj
      exact hcall call hphase
    . exact hphase

theorem State.Recorded.quiet (h : ∀ j, s.Recorded j) {db : Database}
    (hquiet : Quiet s.db db) (j : Nat)
    : State.Recorded { s with db } j := by
  have hcommits : db.commitsOf j = s.db.commitsOf j := by
    unfold Database.commitsOf
    rw [hquiet.commits]
  rcases h j with ⟨hnone, hempty⟩ | ⟨c, call, hc, htx, hphase, hwhole⟩
  . refine .inl ⟨hcommits.trans hnone, ?_⟩
    rcases hquiet.txs j with hsame | ⟨-, hnext⟩
    . intro stored hstored
      exact hempty stored (hsame.symm.trans hstored)
    . exact hnext
  . have hsame : db.txs j = s.db.txs j := by
      refine (hquiet.txs j).resolve_right ?_
      rintro ⟨houtcome, -⟩
      rw [htx] at houtcome
      cases houtcome
    refine .inr ⟨c, call, hcommits.trans hc, hsame.trans htx, hphase, ?_⟩
    apply hwhole.mono
    rw [hquiet.committed]

theorem State.Recorded.commit (h : ∀ j, s.Recorded j)
    {bus : InMemoryEventBus (EventEnvelope JsonValue)}
    (hinv : Inv timestamptz bus s) {call : DispatchCall} {history : List StoredEvent}
    {us : List UncommittedEvent} {expected : ExpectedVersion} {db : Database}
    (hphase : s.phases i = .appending call history us expected)
    (hstep : txStep s.db (.commit i) = some db)
    (j : Nat) : State.Recorded { s with db, calls := s.calls ++ [call] } j := by
  have hopen : (s.db.txs i).outcome = none := by
    dsimp only [txStep] at hstep
    split at hstep
    . next hinserting =>
      rw [hinserting]
      rfl
    . cases hstep
  rcases hinv.complete hphase hstep with ⟨stored, rfl, hcomplete, hdecide⟩
  by_cases hj : j = i
  . subst hj
    have hnone : s.db.commitsOf j = [] := by
      rcases h j with ⟨hnone, -⟩ | ⟨c, call', -, htx, -⟩
      . exact hnone
      . rw [htx] at hopen
        cases hopen
    refine .inr ⟨⟨j, ⟨call.key, us, expected⟩, s.db.rowsOf j, stored⟩, call, ?_, ?_, ?_, ?_⟩
    . dsimp only
      rw [commitsOf_commit, if_pos rfl, hnone]
      rfl
    . dsimp only
      rw [txs_commit, if_pos rfl]
    . dsimp only
      rw [hphase]
      rfl
    . refine ⟨_, us, expected, hdecide, hcomplete.batch, ?_⟩
      dsimp only
      rw [hcomplete.streams, if_pos rfl]
  . rcases h j with ⟨hnone, hempty⟩ | ⟨c, call', hc, htx, hcall, hwhole⟩
    . left
      dsimp only
      rw [commitsOf_commit, if_neg hj, txs_commit, if_neg hj]
      exact ⟨hnone, hempty⟩
    . refine .inr ⟨c, call', ?_, ?_, hcall, hwhole.mono (loadStream_grows hcomplete _)⟩
      . dsimp only
        rw [commitsOf_commit, if_neg hj, hc]
      . dsimp only
        rw [txs_commit, if_neg hj, htx]

theorem recorded_steps {bus : InMemoryEventBus (EventEnvelope JsonValue)}
    (hinv : Inv timestamptz bus s)
    (h : ∀ j, s.Recorded j) (hsteps : Steps timestamptz eventBus s s')
    : ∀ j, s'.Recorded j := by
  have hbus : ∀ b : B, ∀ j, State.Recorded { s with bus := b } j := fun _ => h
  -- the call of a caller stays what it is once there is one
  have hcall : ∀ {i : Nat} {phase phase' : Phase}, s.phases i = phase →
      (∀ call, phase.call = some call → phase'.call = some call) →
      ∀ call, (s.phases i).call = some call → phase'.call = some call := by
    rintro i phase phase' rfl hkeeps
    exact hkeeps
  cases hsteps with
  | loaded call hphase =>
    apply State.Recorded.setPhase h
    apply hcall hphase
    rintro call' ⟨⟩
  | unavailable call err hphase =>
    apply State.Recorded.setPhase h
    apply hcall hphase
    rintro call' ⟨⟩
  | rejected hphase => exact State.Recorded.setPhase h (hcall hphase (fun _ => id))
  | nothing hphase => exact State.Recorded.setPhase h (hcall hphase (fun _ => id))
  | begun hphase _ hdb =>
    apply State.Recorded.setPhase (State.Recorded.quiet h (quiet_of_begin hdb))
    exact hcall hphase (fun _ => id)
  | advanced _ hadvance => exact State.Recorded.quiet h (quiet_of_advance hadvance)
  | committed hphase hdb => exact State.Recorded.commit h hinv hphase hdb
  | received hphase => exact State.Recorded.setPhase h (hcall hphase (fun _ => id))
  | refused hphase => exact State.Recorded.setPhase h (hcall hphase (fun _ => id))
  | published hphase => exact State.Recorded.setPhase h (hcall hphase (fun _ => id))
  | interrupted hphase =>
    exact State.Recorded.setPhase (hbus _) (hcall hphase (fun _ => id))
  | publish hphase => exact State.Recorded.setPhase (hbus _) (hcall hphase (fun _ => id))

theorem recorded_of_reachable {b : B} (h : (system timestamptz eventBus b).Reachable s) (i : Nat)
    : s.Recorded i := by
  have hboth : Inv timestamptz ⟨[]⟩ s ∧ ∀ j, s.Recorded j := by
    apply Machine.Reachable.invariant _ _ s h
    . intro s hs
      rw [hs]
      refine ⟨inv_started b, ?_⟩
      intro j
      refine .inl ⟨rfl, ?_⟩
      intro stored hstored
      cases hstored
    . rintro s action s' ⟨hinv, hrecorded⟩ hstep
      exact ⟨inv_steps hinv (steps_of_step hstep), recorded_steps hinv hrecorded (steps_of_step hstep)⟩
  exact hboth.2 i

/--
What the events table holds of a call once its caller has been answered.
-/
def Tells (db : Database) (i : Nat) (call : DispatchCall)
    (answer : Except DispatchError (List StoredEvent))
    : Prop :=
  match answer with
  | .ok [] => db.commitsOf i = []
  | .ok batch => ∃ c, db.commitsOf i = [c] ∧ c.stored = batch ∧ Whole db call c
  | .error (.publish _) => ∃ c, db.commitsOf i = [c] ∧ Whole db call c
  | .error _ => db.commitsOf i = []

theorem tells_of_error {db : Database} {i : Nat} {call : DispatchCall} {err : DispatchError}
    (hpublish : err.OnPublish → ∃ c, db.commitsOf i = [c] ∧ Whole db call c)
    (hother : ¬ err.OnPublish → db.commitsOf i = []) : Tells db i call (.error err) := by
  cases err with
  | publish msg => exact hpublish ⟨msg, rfl⟩
  | _ =>
    apply hother
    rintro ⟨msg, h⟩
    cases h

theorem answers_tell_commits (timestamptz : DateTime → DateTime)
    (eventBus : EventBus B (EventEnvelope JsonValue)) (b : B) (s : State B)
    (h : (system timestamptz eventBus b).Reachable s) (i : Nat) (call : DispatchCall)
    (answer : Except DispatchError (List StoredEvent)) (hphase : s.phases i = .returned call answer)
    : Tells s.db i call answer := by
  have haccounted := accounted_of_reachable h i
  have hrecorded := recorded_of_reachable h i
  unfold State.Recorded at hrecorded
  rw [hphase] at haccounted hrecorded
  cases answer with
  | ok batch =>
    rcases hrecorded with ⟨hnone, hempty⟩ | ⟨c, call', hc, htx, hcall, hwhole⟩
    . have hbatch : batch = [] := by
        rcases haccounted with ⟨-, hbatch⟩ | htx
        . exact hbatch
        . exact hempty batch htx
      subst hbatch
      exact hnone
    . cases hcall
      have hbatch : batch = c.stored := by
        rcases haccounted with ⟨hidle, -⟩ | hok
        . rw [hidle] at htx
          cases htx
        . rw [hok] at htx
          cases htx
          rfl
      have hne := hwhole.stored_ne_nil
      rw [← hbatch] at hne
      cases batch with
      | nil => exact absurd rfl hne
      | cons stored rest => exact ⟨c, hc, hbatch.symm, hwhole⟩
  | error err =>
    apply tells_of_error
    . intro hpublish
      rcases haccounted with ⟨-, committed, hne, hok⟩ | ⟨hnot, -⟩
      . rcases hrecorded with ⟨-, hempty⟩ | ⟨c, call', hc, -, hcall, hwhole⟩
        . exact absurd (hempty committed hok) hne
        . cases hcall
          exact ⟨c, hc, hwhole⟩
      . exact absurd hpublish hnot
    . intro hnot
      rcases hrecorded with ⟨hnone, -⟩ | ⟨c, call', hc, htx, -⟩
      . exact hnone
      . rcases haccounted with ⟨hpublish, -⟩ | ⟨-, hidle | ⟨e, herror⟩⟩
        . exact absurd hpublish hnot
        . rw [hidle] at htx
          cases htx
        . rw [herror] at htx
          cases htx

end PersistentDispatcher

namespace Bolt

open Concrete PersistentDispatcher

theorem answers_tell_commits_race
    : ∃ s call msg, (system microseconds brokenBus ()).run (started ()) createRace = some s
        ∧ s.phases 1 = .returned call (.error (.publish msg))
        ∧ ∃ c, s.db.commitsOf 1 = [c] ∧ Whole s.db call c :=
  ⟨_, _, _, rfl, rfl,
    answers_tell_commits microseconds brokenBus () _ (reachable_of_createRace rfl) 1 _ _ rfl⟩

end Bolt
end ForgeErp
