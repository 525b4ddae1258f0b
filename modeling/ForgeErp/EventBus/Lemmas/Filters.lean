import ForgeErp.EventBus.Lemmas.Deliveries

/-!
This module contains the subscriptions of one group that each let through the messages of one
tenant. An entry is assigned to whoever polls, whether the filter lets it through or not.
-/

namespace ForgeErp

open RedisStreamsEventBus RedisServer

namespace RedisStreamsEventBus

-- The filter of a subscription does not hold a message back.
def LetsThrough (tenantId : Option TenantId) (message : EventEnvelope JsonValue) : Prop :=
  ∀ filterTenant ∈ tenantId, message.tenantId = filterTenant

-- The entries that `XREADGROUP` hands to the consumer. No pending ones come up before them.
def handedOut (redis : RedisServer) (consumer : Nat) (outage : Outage) (now : Nat)
    : List (StreamEntry StreamFields) :=
  if outage.connect || outage.xreadgroup.isSome then
    []
  else
    (redis.group.read redis.stream consumer 10 now).1

variable {redis : RedisServer} {consumer : Nat} {outage : Outage} {now : Nat}

-- The entries are the next ones of the stream.
theorem mem_handedOut_iff {id : Nat}
    : (∃ entry ∈ handedOut redis consumer outage now, entry.id = id)
        ↔ redis.group.lastDelivered ≤ id
          ∧ id < (assigned redis consumer outage now).group.lastDelivered := by
  unfold handedOut assigned
  split
  . constructor
    . rintro ⟨entry, hentry, -⟩
      cases hentry
    . omega
  . rw [← List.mem_map, ConsumerGroup.read_ids, List.mem_range'_1]
    rfl

theorem handedOut_value {entry : StreamEntry StreamFields}
    (hentry : entry ∈ handedOut redis consumer outage now)
    : redis.stream[entry.id]? = some entry.value := by
  unfold handedOut at hentry
  split at hentry
  . cases hentry
  . exact ConsumerGroup.read_value hentry

end RedisStreamsEventBus

namespace StreamFloor

variable [TextFormat Uuid] [EnvelopeText]

-- The subscription lets the message through.
def Serves (s : StreamFloor) (message : EventEnvelope JsonValue) (who : Nat)
    (thread : PollingThread)
    : Prop :=
  s.threads who = some thread ∧ LetsThrough thread.subscription.tenantId message

/--
A message that some subscription is there for has been sent to such a subscription, or is unassigned
or pending for one.
-/
def NoLoss (s : StreamFloor) : Prop :=
  ∀ id message, s.redis.stream[id]? = some (entryFields message) →
    (∃ who thread, s.Serves message who thread ∧ thread.running = true) →
    (∃ who thread, s.Serves message who thread ∧ entryId id ∈ thread.sent)
      ∨ ∃ who thread, s.Serves message who thread ∧ thread.running = true
        ∧ (s.redis.group.lastDelivered ≤ id
          ∨ ∃ entry ∈ s.redis.group.pending, entry.id = id ∧ entry.consumer = who)

-- Some later poll of a subscription that is there for the message returns it.
def Returned [RedisReplies] (bus : RedisStreamsEventBus) (s : StreamFloor) (id : Nat)
    (message : EventEnvelope JsonValue)
    : Prop :=
  ∃ moves t who thread outage now messages redis, (runs bus).run s moves = some t
    ∧ t.Serves message who thread
    ∧ bus.readGroupSync t.redis who thread.subscription.tenantId 10 outage now
        = (.ok messages, redis)
    ∧ entryId id ∈ messages.map StreamMessage.messageId

/--
The same, with what a later poll does return in the place of what it might.
-/
def NoLossToPolls [RedisReplies] (bus : RedisStreamsEventBus) (s : StreamFloor) : Prop :=
  ∀ id message, s.redis.stream[id]? = some (entryFields message) →
    (∃ who thread, s.Serves message who thread ∧ thread.running = true) →
    (∃ who thread, s.Serves message who thread ∧ entryId id ∈ thread.sent)
      ∨ Returned bus s id message

/--
What is handed to a consumer is let through by its filter, unless nobody is there for it. A
subscription that starts finds that all it is there for is pending for such a subscription, as far
as it has been handed out.
-/
def WellAimed (s : StreamFloor) (move : StreamMove) : Prop :=
  match move with
  | .turn who outage now _ =>
    ∀ thread, s.threads who = some thread →
      ∀ entry ∈ handedOut s.redis who outage now, ∀ message,
        entry.value = entryFields message →
        LetsThrough thread.subscription.tenantId message
        ∨ ∀ who' thread', ¬ s.Serves message who' thread'
  | .subscribe _ tenantId =>
    ∀ entry ∈ s.redis.group.pending, ∀ message,
      s.redis.stream[entry.id]? = some (entryFields message) → LetsThrough tenantId message →
      ∃ thread, s.Serves message entry.consumer thread
  | .publish _ => True
  | .hangUp _ => True

-- No subscription is there for what is published, before or after it is.
def Unwatched (s : StreamFloor) (move : StreamMove) : Prop :=
  match move with
  | .publish message => ∀ who thread, ¬ s.Serves message who thread
  | .subscribe _ tenantId =>
    ∀ (id : Nat) message, s.redis.stream[id]? = some (entryFields message) →
      ¬ LetsThrough tenantId message
  | .turn _ _ _ _ => True
  | .hangUp _ => True

variable {bus : RedisStreamsEventBus} {s s' : StreamFloor} {message : EventEnvelope JsonValue}

-- Nothing has been sent, so that only those count for whom a message is pending.
def Aimed (s : StreamFloor) : Prop :=
  ∀ entry ∈ s.redis.group.pending, ∀ message,
    s.redis.stream[entry.id]? = some (entryFields message) →
    (∃ who thread, s.Serves message who thread) → ∃ thread, s.Serves message entry.consumer thread

namespace Silent

theorem stream_append (h : s.Silent) {entry : PendingEntry Nat}
    (hentry : entry ∈ s.redis.group.pending) (message : EventEnvelope JsonValue)
    : (publishSync s.redis message).stream[entry.id]? = s.redis.stream[entry.id]? := by
  apply List.getElem?_append_left
  exact (h.wellFormed.pending entry hentry).trans_le h.wellFormed.delivered

theorem noLoss_iff_aimed (h : s.Silent) : s.NoLoss ↔ s.Aimed := by
  constructor
  . rintro hnoLoss entry hentry message hmessage ⟨who, thread, hserves⟩
    have hrunning := (h.threads who thread hserves.1).2.2
    rcases hnoLoss entry.id message hmessage ⟨who, thread, hserves, hrunning⟩ with
      ⟨who, thread, hserves, hsent⟩ | ⟨who, thread, hserves, -, hle | ⟨entry', hentry', hid, rfl⟩⟩
    . rw [h.sent hserves.1] at hsent
      cases hsent
    . have hlt := h.wellFormed.pending entry hentry
      omega
    . cases h.wellFormed.eq_of_id hentry' hentry hid
      exact ⟨thread, hserves⟩
  . rintro haimed id message hmessage ⟨who, thread, hserves, hrunning⟩
    right
    by_cases hlt : id < s.redis.group.lastDelivered
    . rcases h.keepsAll.exists_pending hlt with ⟨entry, hentry, rfl⟩
      rcases haimed entry hentry message hmessage ⟨who, thread, hserves⟩ with ⟨thread', hserves'⟩
      exact ⟨entry.consumer, thread', hserves', (h.threads _ _ hserves'.1).2.2,
        .inr ⟨entry, hentry, rfl, rfl⟩⟩
    . exact ⟨who, thread, hserves, hrunning, .inl (Nat.le_of_not_lt hlt)⟩

theorem aimed_publish (h : s.Silent) (message : EventEnvelope JsonValue)
    : Aimed { s with redis := publishSync s.redis message } ↔ s.Aimed := by
  apply forall₂_congr
  intro entry hentry
  apply forall_congr'
  intro message'
  dsimp only
  rw [h.stream_append hentry message]
  rfl

end Silent

section SetThread

variable {who who' : Nat} {thread thread' : PollingThread}

omit [TextFormat Uuid] [EnvelopeText] in
theorem serves_setThread (h : LetsThrough thread.subscription.tenantId message)
    : (s.setThread who thread).Serves message who thread := by
  rcases setThread_cases s who who thread with ⟨-, hthread⟩ | ⟨hne, -⟩
  . exact ⟨hthread, h⟩
  . exact absurd rfl hne

omit [TextFormat Uuid] [EnvelopeText] in
theorem Serves.setThread (h : s.Serves message who' thread') (hne : who' ≠ who)
    : (s.setThread who thread).Serves message who' thread' := by
  rcases setThread_cases s who who' thread with ⟨heq, -⟩ | ⟨-, hthread⟩
  . exact absurd heq hne
  . exact ⟨hthread.trans h.1, h.2⟩

omit [TextFormat Uuid] [EnvelopeText] in
theorem Serves.of_setThread (h : (s.setThread who thread).Serves message who' thread')
    : (who' = who ∧ thread' = thread) ∨ (who' ≠ who ∧ s.Serves message who' thread') := by
  rcases setThread_cases s who who' thread with ⟨heq, hthread⟩ | ⟨hne, hthread⟩
  . have hself := h.1
    rw [hthread] at hself
    cases hself
    exact .inl ⟨heq, rfl⟩
  . have hother := h.1
    rw [hthread] at hother
    exact .inr ⟨hne, hother, h.2⟩

-- A subscription that hangs up is there for the same messages.
omit [TextFormat Uuid] [EnvelopeText] in
theorem serves_hangUp (hthread : s.threads who = some thread) (tx : Channel StreamMessage)
    : (∃ thread', (s.setThread who { thread with tx }).Serves message who' thread')
        ↔ ∃ thread', s.Serves message who' thread' := by
  constructor
  . rintro ⟨thread', hserves⟩
    rcases hserves.of_setThread with ⟨rfl, rfl⟩ | ⟨-, hserves⟩
    . exact ⟨thread, hthread, hserves.2⟩
    . exact ⟨thread', hserves⟩
  . rintro ⟨thread', hserves⟩
    by_cases hwho : who' = who
    . subst hwho
      cases hthread.symm.trans hserves.1
      exact ⟨{ thread with tx }, serves_setThread hserves.2⟩
    . exact ⟨thread', hserves.setThread hwho⟩

end SetThread

namespace Silent

variable {who : Nat} {thread : PollingThread}

theorem aimed_subscribe (h : s.Silent) (haimed : s.Aimed)
    (hnone : s.threads who = none) (tenantId : Option TenantId)
    : (s.setThread who (.new tenantId)).Aimed ↔ WellAimed s (.subscribe who tenantId) := by
  constructor
  . intro haimed' entry hentry message hmessage hlets
    have hserved : (s.setThread who (.new tenantId)).Serves message who (.new tenantId) :=
      serves_setThread hlets
    rcases haimed' entry hentry message hmessage ⟨who, _, hserved⟩ with ⟨thread, hserves⟩
    rcases hserves.of_setThread with ⟨hconsumer, -⟩ | ⟨-, hserves⟩
    . have howner := h.owners entry hentry
      rw [hconsumer, hnone] at howner
      cases howner
    . exact ⟨thread, hserves⟩
  . rintro hfound entry hentry message hmessage ⟨who', thread', hserves⟩
    have hold : ∃ thread, s.Serves message entry.consumer thread := by
      rcases hserves.of_setThread with ⟨-, rfl⟩ | ⟨-, hserves⟩
      . exact hfound entry hentry message hmessage hserves.2
      . exact haimed entry hentry message hmessage ⟨who', thread', hserves⟩
    rcases hold with ⟨thread, hserves⟩
    refine ⟨thread, hserves.setThread ?_⟩
    intro hconsumer
    rw [hconsumer] at hserves
    cases hnone.symm.trans hserves.1

theorem aimed_turn (h : s.Silent) (haimed : s.Aimed) (hthread : s.threads who = some thread)
    (outage : Outage) (now : Nat) (failedAt : DateTime)
    : Aimed { s with redis := assigned s.redis who outage now }
        ↔ WellAimed s (.turn who outage now failedAt) := by
  constructor
  . intro haimed' thread' hthread' entry hentry message hvalue
    cases hthread.symm.trans hthread'
    have hmessage := (handedOut_value hentry).trans (congrArg some hvalue)
    rcases mem_handedOut_iff.mp ⟨entry, hentry, rfl⟩ with ⟨hle, hlt⟩
    rcases (h.turn hthread outage now).keepsAll.exists_pending hlt with ⟨pending, hpending, hid⟩
    rw [← hid] at hmessage hle
    have hconsumer : pending.consumer = who := by
      rcases assigned_pending hpending with hold | ⟨hconsumer, -⟩
      . have hlt := h.wellFormed.pending pending hold
        omega
      . exact hconsumer
    by_cases hserved : ∃ who' thread', s.Serves message who' thread'
    . rw [← assigned_stream] at hmessage
      rcases haimed' pending hpending message hmessage hserved with ⟨thread', hserves⟩
      rw [hconsumer] at hserves
      cases hthread.symm.trans hserves.1
      exact .inl hserves.2
    . right
      intro who' thread' hserves
      exact hserved ⟨who', thread', hserves⟩
  . rintro hok entry hentry message hmessage ⟨who', thread', hserves⟩
    rw [assigned_stream] at hmessage
    rcases assigned_pending hentry with hold | ⟨rfl, -, hle⟩
    . exact haimed entry hold message hmessage ⟨who', thread', hserves⟩
    . have hlt := (h.turn hthread outage now).wellFormed.pending entry hentry
      have hgiven : ∃ handed ∈ handedOut s.redis entry.consumer outage now,
          handed.id = entry.id := mem_handedOut_iff.mpr ⟨hle, hlt⟩
      rcases hgiven with ⟨handed, hhanded, hid⟩
      have hvalue := handedOut_value hhanded
      rw [hid, hmessage] at hvalue
      rcases hok thread hthread handed hhanded message (Option.some.inj hvalue).symm with
        hlets | hnobody
      . exact ⟨thread, hthread, hlets⟩
      . exact absurd hserves (hnobody who' thread')

theorem aimed_moves [RedisReplies] (h : s.Silent) (haimed : s.Aimed) {move : StreamMove}
    (hmove : Moves bus s move s')
    : s'.Aimed ↔ WellAimed s move := by
  cases hmove with
  | publish message => exact iff_of_true ((h.aimed_publish message).mpr haimed) trivial
  | subscribe tenantId hnone => exact h.aimed_subscribe haimed hnone tenantId
  | turn outage now failedAt hthread =>
    exact h.aimed_turn haimed hthread outage now failedAt
  | hangUp hthread =>
    refine iff_of_true ?_ trivial
    rintro entry hentry message hmessage ⟨who', hserved⟩
    apply (serves_hangUp hthread _).mpr
    exact haimed entry hentry message hmessage ⟨who', (serves_hangUp hthread _).mp hserved⟩

end Silent

-- No subscription is there for anything that has been published.
def Unserved (s : StreamFloor) : Prop :=
  ∀ (id : Nat) message who, s.redis.stream[id]? = some (entryFields message) →
    ¬ ∃ thread, s.Serves message who thread

theorem letsThrough_of_entryFields {message' : EventEnvelope JsonValue} {tenantId : Option TenantId}
    (hfields : entryFields message = entryFields message') (hlets : LetsThrough tenantId message)
    : LetsThrough tenantId message' := by
  simp only [entryFields, List.cons.injEq, Prod.mk.injEq, true_and] at hfields
  have huuid := congrArg (TextFormat.parse (α := Uuid)) hfields.1
  rw [TextFormat.parse_print, TextFormat.parse_print] at huuid
  intro filterTenant hfilter
  rw [← hlets filterTenant hfilter]
  exact congrArg TenantId.mk (Option.some.inj huuid).symm

namespace Silent

variable [RedisReplies]

theorem not_returned (hredis : RedisReplies.Documented) {id : Nat}
    : ¬ Returned bus s id message := by
  rintro ⟨moves, t, who, thread, outage, now, messages, redis, -, -, hread, hmem⟩
  have hnone := (readGroupSync_reads hredis bus t.redis who
    thread.subscription.tenantId outage now).2
  rw [hnone messages (congrArg Prod.fst hread)] at hmem
  cases hmem

theorem noLossToPolls_iff (hredis : RedisReplies.Documented) (h : s.Silent)
    : NoLossToPolls bus s ↔ s.Unserved := by
  constructor
  . rintro hnoLoss id message who hmessage ⟨thread, hserves⟩
    have hrunning := (h.threads who thread hserves.1).2.2
    rcases hnoLoss id message hmessage ⟨who, thread, hserves, hrunning⟩ with
      ⟨who, thread, hserves, hsent⟩ | hreturned
    . rw [h.sent hserves.1] at hsent
      cases hsent
    . exact not_returned hredis hreturned
  . rintro hunserved id message hmessage ⟨who, thread, hserves, -⟩
    exact absurd ⟨thread, hserves⟩ (hunserved id message who hmessage)

theorem unserved_moves (hunserved : s.Unserved) {move : StreamMove} (hmove : Moves bus s move s')
    : s'.Unserved ↔ Unwatched s move := by
  cases hmove with
  | publish message =>
    constructor
    . intro hunserved' who thread hserves
      refine hunserved' s.redis.stream.length message who ?_ ⟨thread, hserves⟩
      exact List.getElem?_concat_length
    . rintro hnobody id message' who hmessage ⟨thread, hserves⟩
      by_cases hlt : id < s.redis.stream.length
      . refine hunserved id message' who ?_ ⟨thread, hserves⟩
        exact (List.getElem?_append_left hlt).symm.trans hmessage
      . have hfields := List.mem_of_getElem?
          ((List.getElem?_append_right (Nat.le_of_not_lt hlt)).symm.trans hmessage)
        rw [List.mem_singleton] at hfields
        exact hnobody who thread ⟨hserves.1, letsThrough_of_entryFields hfields hserves.2⟩
  | @subscribe who tenantId hnone =>
    constructor
    . intro hunserved' id message hmessage hlets
      exact hunserved' id message who hmessage ⟨.new tenantId, serves_setThread hlets⟩
    . rintro hnobody id message who' hmessage ⟨thread, hserves⟩
      rcases hserves.of_setThread with ⟨-, rfl⟩ | ⟨-, hserves⟩
      . exact hnobody id message hmessage hserves.2
      . exact hunserved id message who' hmessage ⟨thread, hserves⟩
  | turn outage now failedAt hthread =>
    refine iff_of_true ?_ trivial
    intro id message who hmessage
    rw [assigned_stream] at hmessage
    exact hunserved id message who hmessage
  | hangUp hthread =>
    refine iff_of_true ?_ trivial
    intro id message who hmessage hserved
    exact hunserved id message who hmessage ((serves_hangUp hthread _).mp hserved)

end Silent

/--
Nothing is lost along a run if and only if every move of it is well aimed, where what is pending for
a subscription counts as not lost. No poll gives it back, however.
-/
theorem noLoss_iff [RedisReplies] (hredis : RedisReplies.Documented) (bus : RedisStreamsEventBus)
    (moves : List StreamMove) (s : StreamFloor) (hrun : (runs bus).run .new moves = some s)
    : ((runs bus).HoldsAlong NoLoss .new moves ↔ (runs bus).OkAlong WellAimed .new moves)
      ∧ ((runs bus).HoldsAlong (NoLossToPolls bus) .new moves
          ↔ (runs bus).OkAlong Unwatched .new moves) := by
  constructor
  . have hnew : Aimed .new := by
      intro entry hentry
      cases hentry
    apply @Machine.holdsAlong_iff _ _ _ Silent _ _ _ _ _ _ .new
      (Silent.new.noLoss_iff_aimed.mpr hnew) hrun
    intro s move s' hsilent hnoLoss hstep
    have hmove := hsilent.moves hredis hstep
    refine ⟨hsilent.step hmove, ?_⟩
    rw [(hsilent.step hmove).noLoss_iff_aimed]
    exact hsilent.aimed_moves (hsilent.noLoss_iff_aimed.mp hnoLoss) hmove
  . have hnew : Unserved .new := by
      intro id message who hmessage
      cases hmessage
    apply @Machine.holdsAlong_iff _ _ _ Silent _ _ _ _ _ _ .new
      ((Silent.new.noLossToPolls_iff hredis).mpr hnew) hrun
    intro s move s' hsilent hnoLoss hstep
    have hmove := hsilent.moves hredis hstep
    refine ⟨hsilent.step hmove, ?_⟩
    rw [(hsilent.step hmove).noLossToPolls_iff hredis]
    exact Silent.unserved_moves ((hsilent.noLossToPolls_iff hredis).mp hnoLoss) hmove

end StreamFloor

namespace Redelivery

open StreamFloor

-- Two tenants have a subscription each, and one of them publishes an event.
def twoTenants : List StreamMove := [
  .subscribe 0 (some ⟨⟨2⟩⟩),
  .subscribe 1 (some ⟨⟨7⟩⟩),
  .publish (event 1)]

theorem noLoss_iff_own
    : ∃ s, (runs bus).run .new (twoTenants ++ [round 0]) = some s
        ∧ ((runs bus).HoldsAlong NoLoss .new (twoTenants ++ [round 0])
            ↔ (runs bus).OkAlong WellAimed .new (twoTenants ++ [round 0]))
        ∧ ((runs bus).HoldsAlong (NoLossToPolls bus) .new (twoTenants ++ [round 0])
            ↔ (runs bus).OkAlong Unwatched .new (twoTenants ++ [round 0])) := by
  have hrun : ((runs bus).run .new (twoTenants ++ [round 0])).isSome := by decide +kernel
  rcases Option.isSome_iff_exists.mp hrun with ⟨s, hs⟩
  exact ⟨s, hs, noLoss_iff documented bus _ s hs⟩

-- The event is handed to the subscription of the other tenant, which polls first.
theorem event_strayed : ¬ ∀ s, (runs bus).Reachable s → s.NoLoss := by
  intro h
  have hrun : ((runs bus).run .new (twoTenants ++ [.turn 1 calm 0 ⟨0⟩])).map (fun s =>
      decide ((s.redis.group.pending.map fun entry => (entry.id, entry.consumer)) = [(0, 1)])
        && decide (s.redis.stream[0]? = some (entryFields (event 1)))
        && decide ((s.threads 0).map (fun thread => thread.subscription.tenantId)
          = some (some ⟨⟨2⟩⟩))
        && decide ((s.threads 1).map (fun thread => thread.subscription.tenantId)
          = some (some ⟨⟨7⟩⟩)))
      = some true := by
    decide +kernel
  rcases exists_run hrun with ⟨s, -, hreachable, hp⟩
  simp only [Bool.and_eq_true, decide_eq_true_iff, Option.map_eq_some_iff,
    List.map_eq_singleton_iff, Prod.mk.injEq] at hp
  rcases hp with ⟨⟨⟨⟨entry, hentries, hid, hconsumer⟩, hmessage⟩, waiting, hwaiting, htenant⟩,
    other, hother, htenant'⟩
  have haimed := (Silent.of_reachable documented hreachable).noLoss_iff_aimed.mp (h s hreachable)
  have hserves : s.Serves (event 1) 0 waiting := by
    refine ⟨hwaiting, ?_⟩
    rw [htenant]
    rintro filterTenant ⟨⟩
    rfl
  rw [← hid] at hmessage
  have hentry : entry ∈ s.redis.group.pending := hentries ▸ List.mem_singleton_self entry
  rcases haimed entry hentry (event 1) hmessage ⟨0, waiting, hserves⟩ with ⟨thread, hthread, hlets⟩
  rw [hconsumer, hother] at hthread
  cases hthread
  exact absurd (hlets ⟨⟨7⟩⟩ htenant') (by decide)

end Redelivery

end ForgeErp
