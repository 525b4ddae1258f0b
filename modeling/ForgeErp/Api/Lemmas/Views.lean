import ForgeErp.Api.Lemmas.ReadModels
import ForgeErp.Api.Lemmas.Requests

/-!
This module contains the read models next to the requests. An event reaches them some time after it
was stored, and not always after those that were stored before it. Even then a row contains nothing
but successive events of its own stream.
-/

namespace ForgeErp
namespace Server

open CommandDispatcher

section Effects

variable [Lowercase]

-- What is still to come for the read models: in the channel, and before that with the request
def State.queue (s : State) : List (EventEnvelope JsonValue) :=
  match s.bus.subscribers with
  | readModels :: _ => readModels.queue
  | [] => []

def Session.pending (session : Session) : List StoredEvent :=
  match session with
  | .publishing _ rest _ => rest
  | _ => []

theorem queue_of_bus {s : State} {toReadModels toSaga : List (EventEnvelope JsonValue)}
    (h : s.bus = busOf toReadModels toSaga) : s.queue = toReadModels := by
  unfold State.queue
  rw [h]
  rfl

structure SameLog (s s' : State) : Prop where
  streams : ∀ key, s'.store.loadStream key = s.store.loadStream key
  commits : s'.commits = s.commits

structure SameRows (s s' : State) : Prop where
  readModels : s'.readModels = s.readModels
  realtime : s'.realtime = s.realtime

theorem pending_setSession (s : State) (i : Nat) (session : Session) (j : Nat)
    : ((s.setSession i session).sessions j).pending
        =
      if j = i then session.pending else (s.sessions j).pending := by
  rw [State.sessions_setSession]
  split <;> rfl

variable [TextFormat Uuid] [TextFormat DateTime]

/--
The effect of a step on the streams and on what the read models have got of them.
-/
inductive Effect (s s' : State) : Prop where
  | quiet :
      SameLog s s' →
      SameRows s s' →
      s'.queue = s.queue →
      (∀ j, (s'.sessions j).pending = (s.sessions j).pending) →
      Effect s s'
  | append {i : Nat} {call : DispatchCall} {committed : List StoredEvent} :
      s'.commits = s.commits ++ [⟨i, call, committed⟩] →
      (∀ key, s'.store.loadStream key
        = if key = call.key then s.store.loadStream call.key ++ committed
            else s.store.loadStream key) →
      SameRows s s' →
      s'.queue = s.queue →
      (s.sessions i).pending = [] →
      (∀ j, (s'.sessions j).pending = if j = i then committed else (s.sessions j).pending) →
      Effect s s'
  | publish {i : Nat} {stored : StoredEvent} {rest : List StoredEvent} :
      SameLog s s' →
      SameRows s s' →
      s'.queue = s.queue ++ [stored.toEnvelope] →
      (s.sessions i).pending = stored :: rest →
      (∀ j, (s'.sessions j).pending = if j = i then rest else (s.sessions j).pending) →
      Effect s s'
  | project {fresh : AggregateId} {now : DateTime} {env : EventEnvelope JsonValue} :
      SameLog s s' →
      s.queue = env :: s'.queue →
      s'.readModels = (s.readModels.project fresh now env).2 →
      s'.realtime = s.realtime ++ (s.readModels.project fresh now env).1 →
      (∀ j, (s'.sessions j).pending = (s.sessions j).pending) →
      Effect s s'

variable {config : Config} {s s' : State}

theorem Effect.of_setSession {t : State} {i : Nat} {session session' : Session}
    (hlog : SameLog s t) (hrows : SameRows s t) (hqueue : t.queue = s.queue)
    (hsessions : t.sessions = s.sessions) (hsession : s.sessions i = session)
    (hpending : session'.pending = session.pending) : Effect s (t.setSession i session') := by
  refine Effect.quiet ⟨hlog.streams, hlog.commits⟩ ⟨hrows.readModels, hrows.realtime⟩ hqueue ?_
  intro j
  rw [pending_setSession, hsessions]
  split
  . next hj => rw [hj, hsession, hpending]
  . rfl

theorem Effect.of_session {i : Nat} {session session' : Session} (hsession : s.sessions i = session)
    (hpending : session'.pending = session.pending) : Effect s (s.setSession i session') :=
  .of_setSession ⟨fun _ => rfl, rfl⟩ ⟨rfl, rfl⟩ rfl rfl hsession hpending

variable [ResponseText] [Rfc3339] [ParseRfc3339]

theorem effect_of_steps (h : Inv config s) (hsteps : Steps config s s') : Effect s s' := by
  cases hsteps with
  | refused hsession => exact .of_session hsession rfl
  | @admitted i adm draws hsession hauth =>
    exact .of_setSession (t := s.enter i adm) ⟨fun _ => rfl, rfl⟩ ⟨rfl, rfl⟩ rfl rfl hsession rfl
  | answered hsession => exact .of_session hsession rfl
  | read hsession => exact .of_session hsession rfl
  | load hsession => exact .of_session hsession rfl
  | rejected hsession => exact .of_session hsession rfl
  | nothing hsession => exact .of_session hsession rfl
  | decide hsession => exact .of_session hsession rfl
  | published hsession => exact .of_session hsession rfl
  | conflicted hsession happend =>
    exact .of_setSession ⟨loadStream_append_error happend, rfl⟩ ⟨rfl, rfl⟩ rfl rfl hsession rfl
  | @append i call history next us expected committed store hsession happend =>
    rcases h.busy hsession (by simp) (by simp) with ⟨adm, hadm, hsends, hpre, hdecide, -⟩
    rw [hsends.type_eq] at hdecide
    refine Effect.append rfl ?_ ⟨rfl, rfl⟩ rfl ?_ (pending_setSession _ i _)
    . intro key
      dsimp only [State.setSession]
      rw [(decides_of_append h.wellFormed hpre hdecide happend).2]
      exact InMemoryEventStore.loadStream_insert _ _ _ _
    . rw [hsession]
      rfl
  | @publish i committed rest stored next hsession =>
    rcases h.channels with ⟨toReadModels, toSaga, hbus, -⟩
    have hpending : (s.sessions i).pending = stored :: rest := by
      rw [hsession]
      rfl
    refine Effect.publish ⟨fun _ => rfl, rfl⟩ ⟨rfl, rfl⟩ ?_ hpending (pending_setSession _ i _)
    rw [queue_of_bus hbus]
    unfold State.queue
    dsimp only [State.setSession]
    rw [hbus]
    rfl
  | @project fresh now env bus hrecv =>
    rcases h.channels with ⟨toReadModels, toSaga, hbus, -⟩
    have hqueue := queue_of_bus hbus
    rw [hbus] at hrecv
    rcases recvAt_zero hrecv with ⟨queue, rfl, rfl⟩
    exact Effect.project ⟨fun _ => rfl, rfl⟩ hqueue rfl rfl (fun _ => rfl)
  | @saga uuid now order env bus hrecv =>
    rw [h.receive_eq hrecv]
    rcases h.channels with ⟨toReadModels, toSaga, hbus, -⟩
    have hqueue := queue_of_bus hbus
    rw [hbus] at hrecv
    rcases recvAt_one hrecv with ⟨queue, rfl, rfl⟩
    exact Effect.quiet ⟨fun _ => rfl, rfl⟩ ⟨rfl, rfl⟩ hqueue.symm (fun _ => rfl)

end Effects

section Lag

variable [Lowercase] [TextFormat Uuid] [TextFormat DateTime]

/--
Rows that may be behind, and may lack events that were published too late. An update was announced
after its event had got into the rows.
-/
structure Lagging (s : State) : Prop where
  inStep : s.readModels.InStep
  views : ∀ (key : StreamKey) (kind : AggregateKind) (commands : List kind.aggregate.Command),
    commandsTo s.commits key = commands.map (Sigma.mk kind) →
    kind.ForViews key s.readModels (fun P view =>
      View.Sees P.modify P.vacant (kind.history key commands) view)
  announced : ∀ message ∈ s.realtime, ∃ (kind : AggregateKind) (e : StoredEvent),
    e ∈ s.store.loadStream e.key ∧ e.aggregateType = kind.aggregateType
    ∧ message = ReadModels.projectionUpdated e.toEnvelope
    ∧ kind.ForViews e.key s.readModels (fun _ view => e.sequenceNumber ≤ view.cursor)

variable {config : Config} {s s' : State}

omit [TextFormat DateTime] in
theorem Lagging.views_of_concat (h : Lagging s) {c : Commit} {key : StreamKey}
    {kind : AggregateKind}
    {commands : List kind.aggregate.Command}
    (hcommands : commandsTo (s.commits ++ [c]) key = commands.map (Sigma.mk kind))
    : kind.ForViews key s.readModels (fun P view =>
        View.Sees P.modify P.vacant (kind.history key commands) view) := by
  rcases commandsTo_of_concat hcommands with ⟨before, hbefore, rfl | ⟨command, rfl⟩⟩
  . exact h.views key kind _ hbefore
  . apply (h.views key kind before hbefore).imp
    intro K R P view hsees
    rcases kind.history_prefix key before command with ⟨more, hmore⟩
    rw [← hmore]
    exact hsees.append P.modify more

theorem Lagging.receive (h : Lagging s) (hinv : Inv config s) {env : EventEnvelope JsonValue}
    (henv : env ∈ s.queue) (fresh : AggregateId) (now : DateTime)
    : Lagging { s with
        readModels := (s.readModels.project fresh now env).2
        realtime := s.realtime ++ (s.readModels.project fresh now env).1
      } := by
  rcases hinv.channels with ⟨toReadModels, toSaga, hbus, hqueued⟩
  rw [queue_of_bus hbus] at henv
  rcases hqueued env (List.mem_append_left _ henv) with ⟨e, he, rfl⟩
  have hkey : e.toEnvelope.key = e.key := rfl
  constructor
  . exact h.inStep.applyEnvelope fresh now
  . intro key kind commands hcommands
    by_cases hsame : key = e.key
    . subst hsame
      apply (h.views e.key kind commands hcommands).feed h.inStep (hinv.wellFormed e.key)
        ((hinv.authentic e.key).sourced_of_map hcommands) he
      intro K R P view ev hev _ hsees
      exact hsees.feed P.modify fresh ((hinv.wellFormed e.key).numbered.mem_bounds he).1 hev
    . exact (h.views key kind commands hcommands).applyEnvelope_ne h.inStep hsame
  . intro message hmessage
    cases List.mem_append.mp hmessage with
    | inl hold =>
      rcases h.announced message hold with ⟨kind, e', he', htype, heq, hviews⟩
      refine ⟨kind, e', he', htype, heq, ?_⟩
      apply hviews.applyEnvelope h.inStep
      intro K R _ P st _ hle
      exact Nat.le_trans hle (P.cursor_le_applyEnvelope fresh st e.toEnvelope e'.key)
    | inr hnew =>
      dsimp only [ReadModels.project] at hnew
      split at hnew
      . next happlied =>
        rcases (hinv.authentic e.key).kind_of_mem he with ⟨kind, htype⟩
        refine ⟨kind, e, he, htype, List.mem_singleton.mp hnew, ?_⟩
        exact AggregateKind.forViews_of_applied htype happlied h.inStep
      . cases hnew

omit [TextFormat DateTime] in
theorem Lagging.frame (h : Lagging s)
    (hstreams : ∀ key, ∀ e ∈ s.store.loadStream key, e ∈ s'.store.loadStream key)
    (hcommits : s'.commits = s.commits) (hrows : SameRows s s') : Lagging s' := by
  constructor
  . rw [hrows.readModels]
    exact h.inStep
  . intro key kind commands hcommands
    rw [hcommits] at hcommands
    rw [hrows.readModels]
    exact h.views key kind commands hcommands
  . intro message hmessage
    rw [hrows.realtime] at hmessage
    rcases h.announced message hmessage with ⟨kind, e, he, htype, heq, hviews⟩
    rw [hrows.readModels]
    exact ⟨kind, e, hstreams e.key e he, htype, heq, hviews⟩

theorem Effect.lagging (h : Lagging s) (hinv : Inv config s) (heffect : Effect s s')
    : Lagging s' := by
  cases heffect with
  | quiet hlog hrows =>
    apply h.frame _ hlog.commits hrows
    intro key e he
    rw [hlog.streams]
    exact he
  | publish hlog hrows =>
    apply h.frame _ hlog.commits hrows
    intro key e he
    rw [hlog.streams]
    exact he
  | @append i call committed hcommits hstreams hrows =>
    constructor
    . rw [hrows.readModels]
      exact h.inStep
    . intro key kind commands hcommands
      rw [hcommits] at hcommands
      rw [hrows.readModels]
      exact h.views_of_concat hcommands
    . intro message hmessage
      rw [hrows.realtime] at hmessage
      rcases h.announced message hmessage with ⟨kind, e, he, htype, heq, hviews⟩
      rw [hrows.readModels]
      refine ⟨kind, e, ?_, htype, heq, hviews⟩
      rw [hstreams]
      split
      . next hkey =>
        rw [hkey] at he
        exact List.mem_append_left _ he
      . exact he
  | @project fresh now env hlog hqueue hreadModels hrealtime =>
    have hreceived := h.receive hinv (by rw [hqueue]; exact List.mem_cons_self) fresh now
    apply hreceived.frame _ hlog.commits ⟨hreadModels, hrealtime⟩
    intro key e he
    rw [hlog.streams]
    exact he

omit [TextFormat DateTime] in
theorem lagging_initial : Lagging initial := by
  constructor
  . intro key
    rfl
  . intro key kind commands _
    cases kind with
    | ledger => trivial
    | user => trivial
    | invoice => exact ⟨.inl rfl, .inl rfl⟩
    | inventoryItem => exact .inl rfl
    | salesOrder => exact .inl rfl
    | purchaseOrder => exact .inl rfl
    | party => exact .inl rfl
    | product => exact .inl rfl
  . intro message hmessage
    cases hmessage

theorem Lagging.sees (h : Lagging s) (hinv : Inv config s) {key : StreamKey}
    {kind : AggregateKind} {evs : List kind.aggregate.Event}
    (htype : ∀ e ∈ s.store.loadStream key, e.aggregateType = kind.aggregateType)
    (htyped : StreamOf (s.store.loadStream key) evs)
    : kind.ForViews key s.readModels (fun P view => View.Sees P.modify P.vacant evs view) := by
  rcases (hinv.authentic key).sourced htype with ⟨commands, hcommands, hsourced⟩
  rw [hsourced.history_eq htyped]
  exact h.views key kind commands hcommands

end Lag

section Runs

variable [Lowercase] [TextFormat Uuid] [TextFormat DateTime] [ResponseText] [Rfc3339] [ParseRfc3339]

theorem lagging_of_reachable {config : Config} {s : State} (h : (system config).Reachable s)
    : Inv config s ∧ Lagging s := by
  apply Machine.Reachable.invariant _ _ s h
  . intro s hs
    rw [hs]
    exact ⟨inv_initial, lagging_initial⟩
  . intro s action s' hinv hstep
    have hsteps := steps_of_step hstep
    exact ⟨inv_steps hinv.1 hsteps, (effect_of_steps hinv.1 hsteps).lagging hinv.2 hinv.1⟩

theorem rows_lag (config : Config) (s : State) (h : (system config).Reachable s) (key : StreamKey)
    (kind : AggregateKind) (evs : List kind.aggregate.Event)
    (htype : ∀ e ∈ s.store.loadStream key, e.aggregateType = kind.aggregateType)
    (htyped : StreamOf (s.store.loadStream key) evs)
    : kind.ForViews key s.readModels (fun P view => View.Sees P.modify P.vacant evs view) := by
  rcases lagging_of_reachable h with ⟨hinv, hlagging⟩
  exact hlagging.sees hinv htype htyped

theorem announced_rows_show (config : Config) (s : State) (h : (system config).Reachable s)
    (message : RealtimeMessage) (hmessage : message ∈ s.realtime)
    : ∃ (kind : AggregateKind) (e : StoredEvent) (evs : List kind.aggregate.Event),
        message = ReadModels.projectionUpdated e.toEnvelope
        ∧ e ∈ s.store.loadStream e.key
        ∧ (∀ e' ∈ s.store.loadStream e.key, e'.aggregateType = kind.aggregateType)
        ∧ StreamOf (s.store.loadStream e.key) evs
        ∧ kind.ForViews e.key s.readModels (fun P view =>
            e.sequenceNumber ≤ view.cursor ∧ View.Segment P.modify P.vacant evs view) := by
  rcases lagging_of_reachable h with ⟨hinv, hlagging⟩
  rcases hlagging.announced message hmessage with ⟨kind, e, he, htype, heq, hviews⟩
  have htypes : ∀ e' ∈ s.store.loadStream e.key, e'.aggregateType = kind.aggregateType := by
    intro e' he'
    rw [← htype]
    exact (hinv.wellFormed e.key).type_eq e' he' e he
  rcases (hinv.authentic e.key).sourced htypes with ⟨commands, -, hsourced⟩
  refine ⟨kind, e, _, heq, he, htypes, hsourced.streamOf, ?_⟩
  apply (hviews.and (hlagging.sees hinv htypes hsourced.streamOf)).imp
  rintro K R P view ⟨hle, hsees⟩
  refine ⟨hle, ?_⟩
  cases hsees with
  | inl hempty =>
    have := ((hinv.wellFormed e.key).numbered.mem_bounds he).1
    rw [hempty] at hle
    dsimp only at hle
    omega
  | inr hsegment => exact hsegment

end Runs

end Server

namespace Workshop

open Concrete Server

def created : InventoryEvent :=
  .itemCreated {
    tenantId := key.tenantId
    itemId := ⟨key.aggregateId⟩
    name := "Bolt"
    occurredAt := ⟨0⟩
  }

def adjusted (delta : Int64) : InventoryEvent :=
  .stockAdjusted { tenantId := key.tenantId, itemId := ⟨key.aggregateId⟩, delta, occurredAt := ⟨0⟩ }

-- The adjustment that was published too early is missing from the row.
theorem rows_lag_racing
    : ∃ s, (system config).run initial racing = some s
        ∧ AggregateKind.ForViews .inventoryItem key s.readModels (fun P view =>
            view.cursor = 2
            ∧ View.Sees P.modify P.vacant [created, adjusted 5, adjusted 7] view) := by
  have hrun : ∃ s, (system config).run initial racing = some s
      ∧ (s.store.loadStream key).map StoredEvent.aggregateType
        = ["inventory.item", "inventory.item", "inventory.item"]
      ∧ StreamOf (s.store.loadStream key) [created, adjusted 5, adjusted 7]
      ∧ AggregateKind.ForViews .inventoryItem key s.readModels (fun _ view => view.cursor = 2) :=
    ⟨_, rfl, rfl, .cons ⟨rfl, rfl, rfl, rfl⟩ (.cons ⟨rfl, rfl, rfl, rfl⟩
      (.cons ⟨rfl, rfl, rfl, rfl⟩ .nil)), rfl⟩
  rcases hrun with ⟨s, hs, htypes, htyped, hcursor⟩
  refine ⟨s, hs, hcursor.and ?_⟩
  apply rows_lag config s (reachable_of_run racing hs) key .inventoryItem _ _ htyped
  intro e he
  have htype := List.mem_map_of_mem (f := StoredEvent.aggregateType) he
  rw [htypes] at htype
  have hitem : e.aggregateType = "inventory.item" := by simpa using htype
  exact hitem

theorem announced_rows_show_racing
    : ∃ s, (system config).run initial racing = some s
        ∧ ∃ first message, s.realtime = [first, message]
          ∧ ∃ (kind : AggregateKind) (e : StoredEvent) (evs : List kind.aggregate.Event),
              message = ReadModels.projectionUpdated e.toEnvelope
              ∧ StreamOf (s.store.loadStream e.key) evs
              ∧ kind.ForViews e.key s.readModels (fun P view =>
                  e.sequenceNumber ≤ view.cursor ∧ View.Segment P.modify P.vacant evs view) := by
  have hrun : ∃ s, (system config).run initial racing = some s
      ∧ ∃ first message, s.realtime = [first, message] :=
    ⟨_, rfl, _, _, rfl⟩
  rcases hrun with ⟨s, hs, first, message, hmessages⟩
  have hmessage : message ∈ s.realtime := by
    rw [hmessages]
    simp
  rcases announced_rows_show config s (reachable_of_run racing hs) message hmessage with
    ⟨kind, e, evs, heq, -, -, htyped, hviews⟩
  exact ⟨s, hs, first, message, hmessages, kind, e, evs, heq, htyped, hviews⟩

end Workshop
end ForgeErp
