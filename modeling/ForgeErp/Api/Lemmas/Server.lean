import ForgeErp.Api.Lemmas.Handlers
import ForgeErp.Dispatcher.Lemmas.Authentic
import ForgeErp.Dispatcher.Lemmas.Optimistic

/-!
This module contains the invariant of the server: whatever the requests do between each other's
steps, what is stored was asked for by the request it was stored for.
-/

namespace ForgeErp
namespace Server

open CommandDispatcher
open Routes (Fits RouteCall)

section Channels

def busOf (toReadModels toSaga : List (EventEnvelope JsonValue))
    : InMemoryEventBus (EventEnvelope JsonValue) :=
  ⟨[⟨toReadModels, true⟩, ⟨toSaga, true⟩]⟩

variable {toReadModels toSaga : List (EventEnvelope JsonValue)} {env : EventEnvelope JsonValue}
  {bus : InMemoryEventBus (EventEnvelope JsonValue)}

theorem recvAt_zero (h : (busOf toReadModels toSaga).recvAt 0 = some (env, bus))
    : ∃ queue, toReadModels = env :: queue ∧ bus = busOf queue toSaga := by
  cases toReadModels with
  | nil => cases h
  | cons env' queue =>
    cases h
    exact ⟨queue, rfl, rfl⟩

theorem recvAt_one (h : (busOf toReadModels toSaga).recvAt 1 = some (env, bus))
    : ∃ queue, toSaga = env :: queue ∧ bus = busOf toReadModels queue := by
  cases toSaga with
  | nil => cases h
  | cons env' queue =>
    cases h
    exact ⟨queue, rfl, rfl⟩

end Channels

section Sessions

variable [Lowercase]

@[simp]
theorem State.sessions_setSession (s : State) (i : Nat) (session : Session) (j : Nat)
    : (s.setSession i session).sessions j = if j = i then session else s.sessions j := rfl

@[simp]
theorem State.admissions_enter (s : State) (i : Nat) (admission : Admission) (j : Nat)
    : (s.enter i admission).admissions j = if j = i then some admission else s.admissions j := rfl

def Admission.Sends (adm : Admission) (call : DispatchCall) : Prop :=
  RouteCall adm.claims.tenantContext adm.claims.principalContext call

-- What is left of the handler after `n` batches were stored for the request
def Admission.Owes (adm : Admission) (n : Nat) (handler : Handler) : Prop :=
  Routes.Serves adm.claims.tenantContext adm.claims.principalContext adm.request.commands n handler

structure Admission.Awaits (adm : Admission) (n : Nat)
    (next : Except DispatchError (List StoredEvent) → Handler)
    : Prop where
  error : ∀ err, adm.Owes n (next (.error err))
  ok : ∀ committed : List StoredEvent, committed.length = 1 →
    adm.Owes (n + 1) (next (.ok committed))

theorem Admission.Owes.awaits {adm : Admission} {n : Nat} {call : DispatchCall}
    {next : Except DispatchError (List StoredEvent) → Handler}
    (h : adm.Owes n (.ask (.dispatch call) next)) : adm.Awaits n next := by
  constructor
  . intro err
    exact h.next rfl
  . intro committed hone
    exact h.next ⟨rfl, hone⟩

/--
What was stored for the requests: by stream, in the order of the stream,
-/
def commandsTo (commits : List Commit) (key : StreamKey)
    : List ((kind : AggregateKind) × kind.aggregate.Command) :=
  (commits.filter (fun c => c.call.key = key)).map (fun c => ⟨c.call.kind, c.call.command⟩)

def batchesTo (commits : List Commit) (key : StreamKey) : List StoredEvent :=
  (commits.filter (fun c => c.call.key = key)).flatMap Commit.batch

-- and by request.
def batchesOf (commits : List Commit) (i : Nat) : List Commit :=
  commits.filter (fun c => c.session = i)

theorem commandsTo_concat (commits : List Commit) (c : Commit) (key : StreamKey)
    : commandsTo (commits ++ [c]) key
        =
      if key = c.call.key then commandsTo commits key ++ [⟨c.call.kind, c.call.command⟩]
      else commandsTo commits key := by
  unfold commandsTo
  rw [List.filter_append, List.map_append]
  by_cases hkey : key = c.call.key
  . subst hkey
    simp
  . simp [hkey, Ne.symm hkey]

theorem commandsTo_of_concat {commits : List Commit} {c : Commit} {key : StreamKey}
    {kind : AggregateKind}
    {commands' : List kind.aggregate.Command}
    (h : commandsTo (commits ++ [c]) key = commands'.map (Sigma.mk kind))
    : ∃ commands, commandsTo commits key = commands.map (Sigma.mk kind)
        ∧ (commands' = commands ∨ ∃ command, commands' = commands ++ [command]) := by
  rw [commandsTo_concat] at h
  split at h
  . cases List.eq_nil_or_concat commands' with
    | inl hnil =>
      rw [hnil] at h
      exact absurd h (by simp)
    | inr hconcat =>
      rcases hconcat with ⟨commands, command, rfl⟩
      rw [List.concat_eq_append, List.map_append] at h
      exact ⟨commands, (List.append_inj' h rfl).1, .inr ⟨command, List.concat_eq_append⟩⟩
  . exact ⟨commands', h, .inl rfl⟩

theorem batchesTo_concat (commits : List Commit) (c : Commit) (key : StreamKey)
    : batchesTo (commits ++ [c]) key
        =
      if key = c.call.key then batchesTo commits key ++ c.batch else batchesTo commits key := by
  unfold batchesTo
  rw [List.filter_append, List.flatMap_append]
  by_cases hkey : key = c.call.key
  . subst hkey
    simp
  . simp [hkey, Ne.symm hkey]

theorem batchesOf_concat (commits : List Commit) (c : Commit) (j : Nat)
    : batchesOf (commits ++ [c]) j
        =
      if j = c.session then batchesOf commits j ++ [c] else batchesOf commits j := by
  unfold batchesOf
  rw [List.filter_append]
  by_cases hj : j = c.session
  . subst hj
    simp
  . simp [hj, Ne.symm hj]

variable [TextFormat Uuid] [TextFormat DateTime]

/--
Where a request that was let in stands, for which `n` batches were stored: what is left of its
handler, the part of the stream it has loaded, what it has stored but not published yet.
-/
def Session.Consistent (store : InMemoryEventStore) (adm : Admission) (n : Nat) (session : Session)
    : Prop :=
  match session with
  | .idle => False
  | .running handler => adm.Owes n handler
  | .loaded call history next =>
    adm.Sends call ∧ history <+: store.loadStream call.key ∧ adm.Awaits n next
  | .decided call history us expected next =>
    adm.Sends call ∧ history <+: store.loadStream call.key
    ∧ decideEvents (call.kind.request call.key call.aggregateType call.command) history call.freshId
      = .ok (some (us, expected))
    ∧ adm.Awaits n next
  | .publishing committed rest next =>
    (∀ e ∈ rest, e ∈ store.loadStream e.key ∧ e.tenantId = adm.claims.tenantId)
    ∧ adm.Owes n (next (.ok committed))
  | .answered response => Fits adm.request.commands n response

theorem Session.Consistent.mono {store store' : InMemoryEventStore} {adm : Admission} {n : Nat}
    {session : Session} (h : session.Consistent store adm n)
    (hgrow : ∀ key, store.loadStream key <+: store'.loadStream key)
    : session.Consistent store' adm n := by
  cases session with
  | idle => exact h
  | answered response => exact h
  | running handler => exact h
  | loaded call history next => exact ⟨h.1, h.2.1.trans (hgrow _), h.2.2⟩
  | decided call history us expected next => exact ⟨h.1, h.2.1.trans (hgrow _), h.2.2⟩
  | publishing committed rest next =>
    exact ⟨fun e he => ⟨(hgrow _).subset (h.1 e he).1, (h.1 e he).2⟩, h.2⟩

variable (config : Config)

-- A request without a valid token has got no further than the answer that says so.
def Accounted (s : State) (i : Nat) (session : Session) : Prop :=
  match s.admissions i with
  | none => session = .idle ∨ session = .answered ⟨401, ""⟩
  | some adm =>
    AuthMiddleware.authenticate config.jwt adm.authorization adm.now = some adm.claims
    ∧ session.Consistent s.store adm (batchesOf s.commits i).length

structure Inv (s : State) : Prop where
  wellFormed : s.store.WellFormed
  authentic : ∀ key, Authentic key (s.store.loadStream key) (commandsTo s.commits key)
  sessions : ∀ i, Accounted config s i (s.sessions i)
  commits : ∀ c ∈ s.commits,
    (∃ adm, s.admissions c.session = some adm ∧ adm.Sends c.call) ∧ c.batch.length = 1
  covered : ∀ key, s.store.loadStream key = batchesTo s.commits key
  channels : ∃ toReadModels toSaga, s.bus = busOf toReadModels toSaga
    ∧ ∀ env ∈ toReadModels ++ toSaga, ∃ e ∈ s.store.loadStream e.key, env = e.toEnvelope

variable {config} {s : State} {i : Nat} {adm : Admission}

theorem Accounted.of_admission {session : Session} (hadm : s.admissions i = some adm)
    : Accounted config s i session
        ↔
      AuthMiddleware.authenticate config.jwt adm.authorization adm.now = some adm.claims
      ∧ session.Consistent s.store adm (batchesOf s.commits i).length := by
  unfold Accounted
  rw [hadm]

theorem Accounted.grow {s' : State} {session : Session} (h : Accounted config s i session)
    (hadmissions : s'.admissions i = s.admissions i)
    (hcommits : batchesOf s'.commits i = batchesOf s.commits i)
    (hgrow : ∀ key, s.store.loadStream key <+: s'.store.loadStream key)
    : Accounted config s' i session := by
  unfold Accounted at h ⊢
  rw [hadmissions, hcommits]
  cases hadm : s.admissions i with
  | none =>
    rw [hadm] at h
    exact h
  | some adm =>
    rw [hadm] at h
    exact ⟨h.1, h.2.mono hgrow⟩

theorem Inv.busy (h : Inv config s) {session : Session} (hsession : s.sessions i = session)
    (hidle : session ≠ .idle) (hrefused : session ≠ .answered ⟨401, ""⟩)
    : ∃ adm, s.admissions i = some adm
        ∧ session.Consistent s.store adm (batchesOf s.commits i).length := by
  have haccounted := h.sessions i
  rw [hsession] at haccounted
  cases hadm : s.admissions i with
  | none =>
    unfold Accounted at haccounted
    rw [hadm] at haccounted
    cases haccounted with
    | inl heq => exact absurd heq hidle
    | inr heq => exact absurd heq hrefused
  | some adm =>
    rw [Accounted.of_admission hadm] at haccounted
    exact ⟨adm, rfl, haccounted.2⟩

theorem Inv.authenticated (h : Inv config s) (hadm : s.admissions i = some adm)
    : AuthMiddleware.authenticate config.jwt adm.authorization adm.now = some adm.claims :=
  ((Accounted.of_admission hadm).mp (h.sessions i)).1

theorem Inv.admissions_idle (h : Inv config s) (hsession : s.sessions i = .idle)
    : s.admissions i = none := by
  cases hadm : s.admissions i with
  | none => rfl
  | some adm =>
    have haccounted := h.sessions i
    rw [Accounted.of_admission hadm, hsession] at haccounted
    exact absurd haccounted.2 id

theorem Inv.batchesOf_none (h : Inv config s) (hnone : s.admissions i = none)
    : batchesOf s.commits i = [] := by
  unfold batchesOf
  rw [List.filter_eq_nil_iff]
  intro c hc hi
  rcases h.commits c hc with ⟨⟨adm, hadm, -⟩, -⟩
  rw [of_decide_eq_true hi, hnone] at hadm
  cases hadm

theorem Inv.setSession (h : Inv config s) {session : Session} (hadm : s.admissions i = some adm)
    (hsession : session.Consistent s.store adm (batchesOf s.commits i).length)
    : Inv config (s.setSession i session) := by
  refine ⟨h.wellFormed, h.authentic, ?_, h.commits, h.covered, h.channels⟩
  intro j
  rw [State.sessions_setSession]
  split
  . next hj =>
    rw [hj]
    exact (Accounted.of_admission hadm).mpr ⟨h.authenticated hadm, hsession⟩
  . exact h.sessions j

theorem Inv.setStore (h : Inv config s) {store : InMemoryEventStore}
    (hstore : ∀ key, store.loadStream key = s.store.loadStream key)
    : Inv config { s with store } := by
  constructor
  . intro key
    rw [hstore]
    exact h.wellFormed key
  . intro key
    dsimp only
    rw [hstore]
    exact h.authentic key
  . intro j
    apply Accounted.grow (h.sessions j)
    . rfl
    . rfl
    . intro key
      dsimp only
      rw [hstore]
  . exact h.commits
  . intro key
    dsimp only
    rw [hstore]
    exact h.covered key
  . rcases h.channels with ⟨toReadModels, toSaga, hbus, hqueued⟩
    refine ⟨toReadModels, toSaga, hbus, ?_⟩
    intro env henv
    rcases hqueued env henv with ⟨e, he, rfl⟩
    refine ⟨e, ?_, rfl⟩
    dsimp only
    rw [hstore]
    exact he

theorem Inv.setBus (h : Inv config s) (toReadModels toSaga : List (EventEnvelope JsonValue))
    (hqueued : ∀ env ∈ toReadModels ++ toSaga, ∃ e ∈ s.store.loadStream e.key, env = e.toEnvelope)
    (readModels : ReadModels) (realtime : List RealtimeMessage)
    : Inv config { s with bus := busOf toReadModels toSaga, readModels, realtime } :=
  ⟨h.wellFormed, h.authentic, h.sessions, h.commits, h.covered, toReadModels, toSaga, rfl, hqueued⟩

-- What an append adds that a request has waited for since it loaded the stream
theorem Inv.append (h : Inv config s) {call : DispatchCall} {history : List StoredEvent}
    {next : Except DispatchError (List StoredEvent) → Handler} {us : List UncommittedEvent}
    {expected : ExpectedVersion} {committed : List StoredEvent} {store : InMemoryEventStore}
    (hsession : s.sessions i = .decided call history us expected next)
    (happend : s.store.append us expected = (.ok committed, store))
    : Inv config
        ({ s with store, commits := s.commits ++ [Commit.mk i call committed] }.setSession i
          (.publishing committed committed next)) := by
  rcases h.busy hsession (by simp) (by simp) with ⟨adm, hadm, hsends, hpre, hdecide, hawaits⟩
  rw [hsends.type_eq] at hdecide
  rcases decides_of_append h.wellFormed hpre hdecide happend
      with ⟨⟨state, decided, hdecides⟩, hstore⟩
  have hload : ∀ key, store.loadStream key
      = if key = call.key then s.store.loadStream call.key ++ committed
          else s.store.loadStream key := by
    intro key
    rw [hstore]
    exact InMemoryEventStore.loadStream_insert _ _ _ _
  have hgrow : ∀ key, s.store.loadStream key <+: store.loadStream key := by
    intro key
    rw [hload]
    split
    . next hkey =>
      rw [hkey]
      exact List.prefix_append _ _
    . exact List.prefix_rfl
  have hwf : store.WellFormed := by
    have := InMemoryEventStore.wellFormed_append h.wellFormed us expected
    rw [happend] at this
    exact this
  constructor
  . exact hwf
  . intro key
    dsimp only [State.setSession]
    rw [hload, commandsTo_concat]
    split
    . next hkey =>
      rw [hkey]
      exact (h.authentic call.key).extend (h.wellFormed call.key) hsends.ids_eq hdecides
    . exact h.authentic key
  . intro j
    rw [State.sessions_setSession]
    have hcommits := batchesOf_concat s.commits ⟨i, call, committed⟩ j
    split
    . next hj =>
      subst hj
      rw [if_pos rfl] at hcommits
      refine (@Accounted.of_admission _ _ _ _ _ _ adm _ ?_).mpr ?_
      . exact hadm
      dsimp only [State.setSession]
      rw [hcommits, List.length_append]
      refine ⟨h.authenticated hadm, ?_, hawaits.ok committed (Authentic.one hdecides)⟩
      intro e he
      have hkey : e.key = call.key := by
        apply (hwf call.key).key_eq
        rw [hload, if_pos rfl]
        exact List.mem_append_right _ he
      refine ⟨?_, (congrArg StreamKey.tenantId hkey).trans hsends.tenant_eq⟩
      rw [hload, hkey, if_pos rfl]
      exact List.mem_append_right _ he
    . next hj =>
      rw [if_neg hj] at hcommits
      apply Accounted.grow (h.sessions j)
      . rfl
      . exact hcommits
      . exact hgrow
  . intro c hc
    cases List.mem_append.mp hc with
    | inl hc => exact h.commits c hc
    | inr hc =>
      rw [List.mem_singleton.mp hc]
      exact ⟨⟨adm, hadm, hsends⟩, Authentic.one hdecides⟩
  . intro key
    dsimp only [State.setSession]
    rw [hload, batchesTo_concat, h.covered, h.covered]
    split
    . next hkey => rw [hkey]
    . rfl
  . rcases h.channels with ⟨toReadModels, toSaga, hbus, hqueued⟩
    refine ⟨toReadModels, toSaga, hbus, ?_⟩
    intro env henv
    rcases hqueued env henv with ⟨e, he, rfl⟩
    exact ⟨e, (hgrow _).subset he, rfl⟩

theorem Inv.publish (h : Inv config s) {committed rest : List StoredEvent} {stored : StoredEvent}
    {next : Except DispatchError (List StoredEvent) → Handler}
    (hsession : s.sessions i = .publishing committed (stored :: rest) next)
    : Inv config
        ({ s with bus := (InMemoryEventBus.publish s.bus stored.toEnvelope).2 }.setSession i
          (.publishing committed rest next)) := by
  rcases h.busy hsession (by simp) (by simp) with ⟨adm, hadm, hconsistent⟩
  rcases h.channels with ⟨toReadModels, toSaga, hbus, hqueued⟩
  rw [hbus]
  have hnext := h.setBus (toReadModels ++ [stored.toEnvelope]) (toSaga ++ [stored.toEnvelope]) ?_
    s.readModels s.realtime
  . refine hnext.setSession hadm ⟨?_, hconsistent.2⟩
    intro e he
    exact hconsistent.1 e (List.mem_cons_of_mem _ he)
  . intro env henv
    rw [List.mem_append, List.mem_append, List.mem_append, List.mem_singleton] at henv
    rcases henv with (henv | henv) | henv | henv
    . exact hqueued env (List.mem_append_left _ henv)
    . exact ⟨stored, (hconsistent.1 stored (by simp)).1, henv⟩
    . exact hqueued env (List.mem_append_right _ henv)
    . exact ⟨stored, (hconsistent.1 stored (by simp)).1, henv⟩

-- The envelopes on the bus are of no interest to the saga.
theorem Inv.receive_eq (h : Inv config s) {env : EventEnvelope JsonValue}
    {bus : InMemoryEventBus (EventEnvelope JsonValue)} (hrecv : s.bus.recvAt 1 = some (env, bus))
    (surroundings : SalesArSaga.Surroundings)
    : SalesArSaga.receive InMemoryEventBus.toEventBus config.defaultLedgerId surroundings
        (s.store, bus) env
        = (s.store, bus) := by
  rcases h.channels with ⟨toReadModels, toSaga, hbus, hqueued⟩
  rw [hbus] at hrecv
  rcases recvAt_one hrecv with ⟨queue, hqueue, -⟩
  rcases hqueued env (by simp [hqueue]) with ⟨e, he, rfl⟩
  unfold SalesArSaga.receive
  have htagged : TaggedPayload e.toEnvelope.payload := (h.authentic e.key).tagged e he
  rw [SalesArSaga.correlate_of_tagged htagged]

theorem inv_initial : Inv config initial := by
  refine ⟨InMemoryEventStore.wellFormed_new, ?_, ?_, ?_, ?_, ⟨[], [], rfl, ?_⟩⟩
  . intro key
    exact .nil
  . intro i
    exact .inl rfl
  . intro c hc
    cases hc
  . intro key
    rfl
  . intro env henv
    cases henv

end Sessions

variable [Lowercase] [TextFormat Uuid] [TextFormat DateTime] [ResponseText] [Rfc3339] [ParseRfc3339]

/--
Everything a step can do.
-/
inductive Steps (config : Config) (s : State) : State → Prop where
  | refused {i : Nat} :
      s.sessions i = .idle →
      Steps config s (s.setSession i (.answered ⟨401, ""⟩))
  | admitted {i : Nat} {adm : Admission} {draws : Draws} :
      s.sessions i = .idle →
      AuthMiddleware.authenticate config.jwt adm.authorization adm.now = some adm.claims →
      Steps config s ((s.enter i adm).setSession i
        (.running (adm.request.handle config.defaultLedgerId
        adm.claims.tenantContext adm.claims.principalContext draws)))
  | answered {i : Nat} {response : HttpResponse} :
      s.sessions i = .running (.done response) →
      Steps config s (s.setSession i (.answered response))
  | read {i : Nat} {query : Query} {next : query.Answer → Handler} :
      s.sessions i = .running (.ask (.read query) next) →
      Steps config s (s.setSession i (.running (next (s.readModels.read query))))
  | load {i : Nat} {call : DispatchCall}
    {next : Except DispatchError (List StoredEvent) → Handler} :
      s.sessions i = .running (.ask (.dispatch call) next) →
      Steps config s (s.setSession i (.loaded call (s.store.loadStream call.key) next))
  | rejected {i : Nat} {call : DispatchCall} {history : List StoredEvent}
      {next : Except DispatchError (List StoredEvent) → Handler} {err : DispatchError} :
      s.sessions i = .loaded call history next →
      Steps config s (s.setSession i (.running (next (.error err))))
  | nothing {i : Nat} {call : DispatchCall} {history : List StoredEvent}
      {next : Except DispatchError (List StoredEvent) → Handler} :
      s.sessions i = .loaded call history next →
      decideEvents (call.kind.request call.key call.aggregateType call.command) history call.freshId
        = .ok none →
      Steps config s (s.setSession i (.running (next (.ok []))))
  | decide {i : Nat} {call : DispatchCall} {history : List StoredEvent}
      {next : Except DispatchError (List StoredEvent) → Handler} {us : List UncommittedEvent}
      {expected : ExpectedVersion} :
      s.sessions i = .loaded call history next →
      decideEvents (call.kind.request call.key call.aggregateType call.command) history call.freshId
        = .ok (some (us, expected)) →
      Steps config s (s.setSession i (.decided call history us expected next))
  | conflicted {i : Nat} {call : DispatchCall} {history : List StoredEvent}
      {next : Except DispatchError (List StoredEvent) → Handler} {us : List UncommittedEvent}
      {expected : ExpectedVersion} {err : EventStoreError} {store : InMemoryEventStore} :
      s.sessions i = .decided call history us expected next →
      s.store.append us expected = (.error err, store) →
      Steps config s ({ s with store }.setSession i (.running (next (.error (.ofStore err)))))
  | append {i : Nat} {call : DispatchCall} {history : List StoredEvent}
      {next : Except DispatchError (List StoredEvent) → Handler} {us : List UncommittedEvent}
      {expected : ExpectedVersion} {committed : List StoredEvent} {store : InMemoryEventStore} :
      s.sessions i = .decided call history us expected next →
      s.store.append us expected = (.ok committed, store) →
      Steps config s
        ({ s with store, commits := s.commits ++ [Commit.mk i call committed] }.setSession i
          (.publishing committed committed next))
  | published {i : Nat} {committed : List StoredEvent}
      {next : Except DispatchError (List StoredEvent) → Handler} :
      s.sessions i = .publishing committed [] next →
      Steps config s (s.setSession i (.running (next (.ok committed))))
  | publish {i : Nat} {committed rest : List StoredEvent} {stored : StoredEvent}
      {next : Except DispatchError (List StoredEvent) → Handler} :
      s.sessions i = .publishing committed (stored :: rest) next →
      Steps config s
        ({ s with bus := (InMemoryEventBus.publish s.bus stored.toEnvelope).2 }.setSession i
          (.publishing committed rest next))
  | project {fresh : AggregateId} {now : DateTime} {env : EventEnvelope JsonValue}
      {bus : InMemoryEventBus (EventEnvelope JsonValue)} :
      s.bus.recvAt 0 = some (env, bus) →
      Steps config s
        { s with
          bus
          readModels := (s.readModels.project fresh now env).2
          realtime := s.realtime ++ (s.readModels.project fresh now env).1
        }
  | saga {uuid : Nat → Nat → Uuid} {now : Nat → Nat → DateTime} {order : Option SalesOrderReadModel}
      {env : EventEnvelope JsonValue} {bus : InMemoryEventBus (EventEnvelope JsonValue)} :
      s.bus.recvAt 1 = some (env, bus) →
      Steps config s
        { s with
          store := (SalesArSaga.receive InMemoryEventBus.toEventBus config.defaultLedgerId
            ⟨uuid, now, order⟩ (s.store, bus) env).1
          bus := (SalesArSaga.receive InMemoryEventBus.toEventBus config.defaultLedgerId
            ⟨uuid, now, order⟩ (s.store, bus) env).2
        }

omit [ResponseText] [Rfc3339] [ParseRfc3339] in
theorem steps_of_advance [ResponseText] [Rfc3339] [ParseRfc3339] {config : Config}
    {s s' : State} {i : Nat}
    (h : advance s i = some s') : Steps config s s' := by
  unfold advance at h
  cases hsession : s.sessions i with
  | idle =>
    rw [hsession] at h
    cases h
  | answered response =>
    rw [hsession] at h
    cases h
  | running handler =>
    rw [hsession] at h
    cases handler with
    | done response =>
      cases h
      exact .answered hsession
    | ask question next =>
      cases question with
      | read query =>
        cases h
        exact .read hsession
      | dispatch call =>
        cases h
        exact .load hsession
  | loaded call history next =>
    rw [hsession] at h
    dsimp only at h
    split at h
    . cases h
      exact .rejected hsession
    . next hdecide =>
      cases h
      exact .nothing hsession hdecide
    . next hdecide =>
      cases h
      exact .decide hsession hdecide
  | decided call history us expected next =>
    rw [hsession] at h
    dsimp only at h
    split at h
    . next happend =>
      cases h
      exact .conflicted hsession happend
    . next happend =>
      cases h
      exact .append hsession happend
  | publishing committed rest next =>
    rw [hsession] at h
    cases rest with
    | nil =>
      cases h
      exact .published hsession
    | cons stored rest =>
      cases h
      exact .publish hsession

theorem steps_of_step {config : Config} {s s' : State} {action : Action}
    (h : step config s action = some s') : Steps config s s' := by
  cases action with
  | advance i => exact steps_of_advance h
  | arrive i authorization now request draws =>
    dsimp only [step, arrive] at h
    split at h
    . next hidle =>
      split at h
      . cases h
        exact .refused hidle
      . next claims hclaims =>
        cases h
        exact .admitted hidle hclaims
    . cases h
  | project fresh now =>
    dsimp only [step, project] at h
    split at h
    . cases h
    . next env bus hrecv =>
      cases h
      exact .project hrecv
  | saga uuid now =>
    dsimp only [step, saga] at h
    split at h
    . cases h
    . next env bus hrecv =>
      cases h
      exact .saga hrecv

theorem inv_steps {config : Config} {s s' : State} (h : Inv config s) (hsteps : Steps config s s')
    : Inv config s' := by
  cases hsteps with
  | @refused i hsession =>
    refine ⟨h.wellFormed, h.authentic, ?_, h.commits, h.covered, h.channels⟩
    intro j
    rw [State.sessions_setSession]
    split
    . next hj =>
      rw [hj]
      unfold Accounted
      dsimp only [State.setSession]
      rw [h.admissions_idle hsession]
      exact .inr rfl
    . exact Accounted.grow (h.sessions j) rfl rfl (fun _ => List.prefix_rfl)
  | @admitted i adm draws hsession hauth =>
    have hnew := h.admissions_idle hsession
    have hadmissions : ∀ j adm', s.admissions j = some adm' → (s.enter i adm).admissions j
      = some adm' := by
      intro j adm' hadm'
      rw [State.admissions_enter, if_neg]
      . exact hadm'
      . intro hj
        rw [hj, hnew] at hadm'
        cases hadm'
    refine ⟨h.wellFormed, h.authentic, ?_, ?_, h.covered, h.channels⟩
    . intro j
      rw [State.sessions_setSession]
      split
      . next hj =>
        subst hj
        refine (@Accounted.of_admission _ _ _ _ _ _ adm _ (if_pos rfl)).mpr ⟨hauth, ?_⟩
        dsimp only [State.setSession, State.enter]
        rw [h.batchesOf_none hnew]
        exact Routes.handle_serves adm.request config.defaultLedgerId
      . next hj => exact Accounted.grow (h.sessions j) (if_neg hj) rfl (fun _ => List.prefix_rfl)
    . intro c hc
      rcases h.commits c hc with ⟨⟨adm', hadm', hsends⟩, hone⟩
      exact ⟨⟨adm', hadmissions _ _ hadm', hsends⟩, hone⟩
  | @answered i response hsession =>
    rcases h.busy hsession (by simp) (by simp) with ⟨adm, hadm, hconsistent⟩
    exact h.setSession hadm hconsistent.result
  | @read i query next hsession =>
    rcases h.busy hsession (by simp) (by simp) with ⟨adm, hadm, hconsistent⟩
    exact h.setSession hadm (hconsistent.next rfl)
  | @load i call next hsession =>
    rcases h.busy hsession (by simp) (by simp) with ⟨adm, hadm, hconsistent⟩
    exact h.setSession hadm ⟨hconsistent.question, List.prefix_rfl, hconsistent.awaits⟩
  | @rejected i call history next err hsession =>
    rcases h.busy hsession (by simp) (by simp) with ⟨adm, hadm, hconsistent⟩
    exact h.setSession hadm (hconsistent.2.2.error err)
  | @nothing i call history next hsession hdecide =>
    exfalso
    apply decideEvents_ne_none _ hdecide
    intro state hnil
    rcases AggregateKind.handle_one hnil with ⟨ev, hev⟩
    cases hev
  | @decide i call history next us expected hsession hdecide =>
    rcases h.busy hsession (by simp) (by simp) with ⟨adm, hadm, hconsistent⟩
    exact h.setSession hadm ⟨hconsistent.1, hconsistent.2.1, hdecide, hconsistent.2.2⟩
  | @conflicted i call history next us expected err store hsession happend =>
    rcases h.busy hsession (by simp) (by simp) with ⟨adm, hadm, hconsistent⟩
    have hstore := h.setStore (loadStream_append_error happend)
    exact hstore.setSession hadm (hconsistent.2.2.2.error _)
  | append hsession happend => exact h.append hsession happend
  | @published i committed next hsession =>
    rcases h.busy hsession (by simp) (by simp) with ⟨adm, hadm, hconsistent⟩
    exact h.setSession hadm hconsistent.2
  | publish hsession => exact h.publish hsession
  | @project fresh now env bus hrecv =>
    rcases h.channels with ⟨toReadModels, toSaga, hbus, hqueued⟩
    rw [hbus] at hrecv
    rcases recvAt_zero hrecv with ⟨queue, hqueue, rfl⟩
    apply h.setBus
    intro env' henv'
    apply hqueued
    rw [hqueue]
    exact List.mem_cons_of_mem _ henv'
  | @saga uuid now order env bus hrecv =>
    rw [h.receive_eq hrecv]
    rcases h.channels with ⟨toReadModels, toSaga, hbus, hqueued⟩
    rw [hbus] at hrecv
    rcases recvAt_one hrecv with ⟨queue, hqueue, rfl⟩
    refine h.setBus _ _ ?_ s.readModels s.realtime
    intro env' henv'
    apply hqueued
    rw [hqueue]
    simp only [List.mem_append, List.mem_cons] at henv' ⊢
    exact henv'.imp_right .inr

theorem inv_of_reachable {config : Config} {s : State} (h : (system config).Reachable s)
    : Inv config s := by
  apply Machine.Reachable.invariant _ _ s h
  . intro s hs
    rw [hs]
    exact inv_initial
  . intro s action s' hinv hstep
    exact inv_steps hinv (steps_of_step hstep)

end Server
end ForgeErp
