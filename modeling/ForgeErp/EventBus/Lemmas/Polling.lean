import ForgeErp.EventBus.Lemmas.RedisStreams

/-!
This module contains what holds in every state that the subscriptions of a group can reach: what has
been assigned is pending for a subscription of the group, and nothing has been sent.
-/

namespace ForgeErp

open RedisStreamsEventBus

namespace RedisStreamsEventBus

variable {redis : RedisServer} {consumer now : Nat} {outage : Outage}

theorem assigned_cases (redis : RedisServer) (consumer : Nat) (outage : Outage) (now : Nat)
    : assigned redis consumer outage now = redis
      ∨ assigned redis consumer outage now
          = { redis with group := (redis.group.read redis.stream consumer 10 now).2 } := by
  unfold assigned
  split
  . exact .inl rfl
  . exact .inr rfl

theorem assigned_stream : (assigned redis consumer outage now).stream = redis.stream := by
  rcases assigned_cases redis consumer outage now with h | h <;> rw [h]

theorem assigned_dlq : (assigned redis consumer outage now).dlq = redis.dlq := by
  rcases assigned_cases redis consumer outage now with h | h <;> rw [h]

-- What is new is pending for the consumer that polls.
theorem assigned_pending {entry : PendingEntry Nat}
    (h : entry ∈ (assigned redis consumer outage now).group.pending)
    : entry ∈ redis.group.pending
      ∨ (entry.consumer = consumer ∧ entry.deliveries = 1
        ∧ redis.group.lastDelivered ≤ entry.id) := by
  rcases assigned_cases redis consumer outage now with heq | heq
  . rw [heq] at h
    exact .inl h
  . rw [heq, ConsumerGroup.read_pending, List.mem_append] at h
    refine h.imp id ?_
    intro hnew
    rcases List.mem_map.mp hnew with ⟨fresh, hfresh, rfl⟩
    exact ⟨rfl, rfl, (ConsumerGroup.read_bounds hfresh).1⟩

end RedisStreamsEventBus

namespace StreamFloor

variable [TextFormat Uuid] [EnvelopeText]

/--
Everything that has been assigned is pending after its first delivery, no thread has sent anything
and nothing has been buried.
-/
structure Silent (s : StreamFloor) : Prop where
  published : ∀ fields ∈ s.redis.stream, ∃ message, fields = entryFields message
  wellFormed : s.redis.group.WellFormed s.redis.stream
  keepsAll : s.redis.group.KeepsAll
  deliveries : ∀ entry ∈ s.redis.group.pending, entry.deliveries = 1
  owners : ∀ entry ∈ s.redis.group.pending, (s.threads entry.consumer).isSome
  dlq : s.redis.dlq = []
  threads : ∀ who thread, s.threads who = some thread →
    thread.tx.queue = [] ∧ thread.subscription.buffer = [] ∧ thread.running = true

section SetThread

variable {s : StreamFloor} {who who' : Nat} {thread : PollingThread}

omit [TextFormat Uuid] [EnvelopeText] in
theorem setThread_cases (s : StreamFloor) (who who' : Nat) (thread : PollingThread)
    : (who' = who ∧ (s.setThread who thread).threads who' = some thread)
      ∨ (who' ≠ who ∧ (s.setThread who thread).threads who' = s.threads who') := by
  by_cases h : who' = who
  . exact .inl ⟨h, by simp [setThread, h]⟩
  . exact .inr ⟨h, by simp [setThread, h]⟩

omit [TextFormat Uuid] [EnvelopeText] in
theorem setThread_self (hthread : s.threads who = some thread) : s.setThread who thread = s := by
  rcases s with ⟨redis, threads⟩
  unfold setThread
  congr 1
  funext who'
  split
  . next heq =>
    rw [heq]
    exact hthread.symm
  . rfl

omit [TextFormat Uuid] [EnvelopeText] in
theorem isSome_setThread (h : (s.threads who').isSome)
    : ((s.setThread who thread).threads who').isSome := by
  rcases setThread_cases s who who' thread with ⟨-, hthread⟩ | ⟨-, hthread⟩ <;> rw [hthread]
  . rfl
  . exact h

omit [TextFormat Uuid] [EnvelopeText] in
theorem threads_setThread {p : Nat → PollingThread → Prop} (hself : p who thread)
    (hothers : ∀ who thread, s.threads who = some thread → p who thread)
    : ∀ who' thread', (s.setThread who thread).threads who' = some thread' → p who' thread' := by
  intro who' thread' hthread'
  rcases setThread_cases s who who' thread with ⟨rfl, hthread⟩ | ⟨-, hthread⟩
  . rw [hthread] at hthread'
    cases hthread'
    exact hself
  . rw [hthread] at hthread'
    apply hothers who' thread' hthread'

end SetThread

variable {bus : RedisStreamsEventBus} {s s' : StreamFloor}

/--
The state after a move, case by case.
-/
inductive Moves [RedisReplies] (bus : RedisStreamsEventBus) (s : StreamFloor)
    : StreamMove → StreamFloor → Prop where
  | publish (message : EventEnvelope JsonValue) :
      Moves bus s (.publish message) { s with redis := publishSync s.redis message }
  | subscribe {who : Nat} (tenantId : Option TenantId) :
      s.threads who = none →
      Moves bus s (.subscribe who tenantId) (s.setThread who (.new tenantId))
  | turn {who : Nat} {thread : PollingThread} (outage : Outage) (now : Nat) (failedAt : DateTime) :
      s.threads who = some thread →
      Moves bus s (.turn who outage now failedAt)
        { s with redis := assigned s.redis who outage now }
  | hangUp {who : Nat} {thread : PollingThread} :
      s.threads who = some thread →
      Moves bus s (.hangUp who) (s.setThread who { thread with tx := ⟨thread.tx.queue, false⟩ })

namespace Silent

theorem moves [RedisReplies] (hredis : RedisReplies.Documented) (h : s.Silent) {move : StreamMove}
    (hstep : (runs bus).step s move = some s') : Moves bus s move s' := by
  cases move with
  | publish message =>
    cases hstep
    apply Moves.publish
  | subscribe who tenantId =>
    simp only [runs, StreamFloor.step] at hstep
    split at hstep
    . cases hstep
    . next hnone =>
      cases hstep
      apply Moves.subscribe tenantId hnone
  | turn who outage now failedAt =>
    simp only [runs, StreamFloor.step] at hstep
    split at hstep
    . next thread hthread =>
      rcases h.threads who thread hthread with ⟨-, hbuffer, hrunning⟩
      rw [if_pos hrunning, PollingThread.turn_eq _ _ _ _ _ _ hredis hbuffer, ← hrunning] at hstep
      cases hstep
      rw [setThread_self (by exact hthread)]
      apply Moves.turn outage now failedAt hthread
    . cases hstep
  | hangUp who =>
    simp only [runs, StreamFloor.step] at hstep
    split at hstep
    . next thread hthread =>
      cases hstep
      apply Moves.hangUp hthread
    . cases hstep

theorem turn (h : s.Silent) {who : Nat} {thread : PollingThread}
    (hthread : s.threads who = some thread) (outage : Outage) (now : Nat)
    : Silent { s with redis := assigned s.redis who outage now } where
  published := by
    change ∀ fields ∈ (assigned s.redis who outage now).stream, _
    rw [assigned_stream]
    exact h.published
  wellFormed := by
    change (assigned s.redis who outage now).group.WellFormed
      (assigned s.redis who outage now).stream
    rcases assigned_cases s.redis who outage now with heq | heq <;> rw [heq]
    . exact h.wellFormed
    . exact h.wellFormed.read who 10 now
  keepsAll := by
    change (assigned s.redis who outage now).group.KeepsAll
    rcases assigned_cases s.redis who outage now with heq | heq <;> rw [heq]
    . exact h.keepsAll
    . exact h.keepsAll.read s.redis.stream who 10 now
  deliveries entry hentry := by
    rcases assigned_pending hentry with hold | ⟨-, hone, -⟩
    . exact h.deliveries entry hold
    . exact hone
  owners entry hentry := by
    rcases assigned_pending hentry with hold | ⟨hconsumer, -⟩
    . exact h.owners entry hold
    . rw [hconsumer, hthread]
      rfl
  dlq := assigned_dlq.trans h.dlq
  threads := h.threads

theorem step (h : s.Silent) [RedisReplies] {move : StreamMove} (hmove : Moves bus s move s')
    : s'.Silent := by
  cases hmove with
  | publish message =>
    refine ⟨?_, h.wellFormed.append _, h.keepsAll, h.deliveries, h.owners, h.dlq, h.threads⟩
    intro fields hfields
    rcases List.mem_append.mp hfields with hold | hnew
    . apply h.published fields hold
    . exact ⟨message, List.mem_singleton.mp hnew⟩
  | subscribe tenantId hnone =>
    refine ⟨h.published, h.wellFormed, h.keepsAll, h.deliveries, ?_, h.dlq, ?_⟩
    . intro entry hentry
      exact isSome_setThread (h.owners entry hentry)
    . exact threads_setThread ⟨rfl, rfl, rfl⟩ h.threads
  | turn outage now _ hthread => exact h.turn hthread outage now
  | hangUp hthread =>
    refine ⟨h.published, h.wellFormed, h.keepsAll, h.deliveries, ?_, h.dlq, ?_⟩
    . intro entry hentry
      exact isSome_setThread (h.owners entry hentry)
    . apply threads_setThread _ h.threads
      apply h.threads _ _ hthread

theorem new : StreamFloor.new.Silent where
  published fields hfields := by cases hfields
  wellFormed := ConsumerGroup.wellFormed_new _
  keepsAll := rfl
  deliveries entry hentry := by cases hentry
  owners entry hentry := by cases hentry
  dlq := rfl
  threads who thread hthread := by cases hthread

theorem of_reachable [RedisReplies] (hredis : RedisReplies.Documented)
    (hs : (runs bus).Reachable s) : s.Silent := by
  apply Machine.Reachable.invariant _ _ s hs
  . rintro _ rfl
    exact new
  . intro s move s' h hstep
    exact h.step (h.moves hredis hstep)

-- Nothing has been sent.
theorem sent (h : s.Silent) {who : Nat} {thread : PollingThread}
    (hthread : s.threads who = some thread) : thread.sent = [] :=
  congrArg (List.map StreamMessage.messageId) (h.threads who thread hthread).1

end Silent

end StreamFloor

end ForgeErp
