import ForgeErp.EventBus.RedisStreams

/-!
This module contains the specification of one round of a polling thread: what it reads, what the
server has assigned by then and what is sent.
-/

namespace ForgeErp

/--
How the `redis` crate converts the replies. A map is read from keys and values that alternate, and
the parts of tuples follow one another in a list, whereas the server nests both.
-/
structure RedisReplies.Documented [RedisReplies] : Prop where
  streamData_nil : streamData .nil = .ok .empty
  streamData_odd : ∀ items map, items.length % 2 = 1 → streamData (.bulk items) ≠ .ok map
  pendingInfo_nested : ∀ items entries, (∀ item ∈ items, ∃ parts, item = .bulk parts) →
    pendingInfo (.bulk items) = .ok entries → entries = []

namespace RedisStreamsEventBus

/--
The server after the command for new entries of a poll.
-/
def assigned (redis : RedisServer) (consumer : Nat) (outage : Outage) (now : Nat) : RedisServer :=
  if outage.connect || outage.xreadgroup.isSome then
    redis
  else
    { redis with group := (redis.group.read redis.stream consumer 10 now).2 }

section Reads

variable [TextFormat Uuid] [EnvelopeText] [RedisReplies] (h : RedisReplies.Documented)
variable (bus : RedisStreamsEventBus) (redis : RedisServer) (consumer : Nat)
variable (tenantId : Option TenantId) (count : Nat) (outage : Outage) (now : Nat)
include h

omit [TextFormat Uuid] [EnvelopeText] in
theorem pendingInfo_xpending {entries : List PendingInfo}
    (hok : RedisReplies.pendingInfo (redis.xpending consumer count now) = .ok entries)
    : entries = [] := by
  apply h.pendingInfo_nested _ _ _ hok
  intro item hitem
  rcases List.mem_map.mp hitem with ⟨entry, -, rfl⟩
  exact ⟨_, rfl⟩

-- What is pending never comes up again.
theorem readPendingSync_eq
    : bus.readPendingSync redis consumer tenantId count outage now = ([], redis) := by
  have hpending := @pendingInfo_xpending _ h redis consumer count now
  unfold readPendingSync
  split
  . rfl
  . split
    . rfl
    . next entries hok => simp [hpending hok]

omit [TextFormat Uuid] [EnvelopeText] in
theorem streamData_of_queryNew {streamData : KeyMap String (List RespValue)}
    (hok : (bus.queryNew redis consumer count outage now).1 = .ok streamData)
    : streamData = .empty := by
  unfold queryNew at hok
  split at hok
  . cases hok
  . unfold RedisServer.xreadgroup at hok
    dsimp only at hok
    split at hok
    . rw [h.streamData_nil] at hok
      cases hok
      rfl
    . exact absurd hok (h.streamData_odd _ _ rfl)

omit h [TextFormat Uuid] [EnvelopeText] in
theorem queryNew_server (hconnect : outage.connect = false)
    : (bus.queryNew redis consumer 10 outage now).2 = assigned redis consumer outage now := by
  unfold queryNew assigned RedisServer.xreadgroup
  cases hxreadgroup : outage.xreadgroup <;> simp [hconnect]

theorem readNewSync_reads
    : (bus.readNewSync redis consumer tenantId count outage now).2
          = (bus.queryNew redis consumer count outage now).2
        ∧ ∀ messages, (bus.readNewSync redis consumer tenantId count outage now).1 = .ok messages →
          messages = [] := by
  have hempty := @streamData_of_queryNew _ h bus redis consumer count outage now
  unfold readNewSync
  split
  . next e redis' hquery =>
    rw [hquery]
    split
    . refine ⟨rfl, ?_⟩
      rintro messages ⟨⟩
      rfl
    . refine ⟨rfl, ?_⟩
      rintro messages ⟨⟩
  . next streamData redis' hquery =>
    rw [hquery]
    refine ⟨rfl, ?_⟩
    rintro messages ⟨⟩
    rw [hempty (congrArg Prod.fst hquery)]
    rfl

/--
A poll reads nothing: entries that are new are assigned, but their reply is refused.
-/
theorem readGroupSync_reads
    : (bus.readGroupSync redis consumer tenantId 10 outage now).2
          = assigned redis consumer outage now
        ∧ ∀ messages, (bus.readGroupSync redis consumer tenantId 10 outage now).1 = .ok messages →
          messages = [] := by
  unfold readGroupSync
  cases hconnect : outage.connect with
  | true =>
    rw [if_pos rfl]
    refine ⟨?_, ?_⟩
    . simp [assigned, hconnect]
    . rintro messages ⟨⟩
  | false =>
    rw [if_neg (by simp), readPendingSync_eq h]
    dsimp only
    rw [if_pos (by rfl), ← queryNew_server bus redis consumer outage now hconnect]
    apply readNewSync_reads h

end Reads

end RedisStreamsEventBus

namespace RedisStreamsSubscription

theorem foldl_take [EnvelopeText] (bus : RedisStreamsEventBus) (outage : Outage)
    (failedAt : DateTime)
    {messages : List StreamMessage} (hretry : ∀ msg ∈ messages, msg.retryCount < bus.maxRetries)
    (self : RedisStreamsSubscription) (redis : RedisServer)
    : messages.foldl (take bus outage failedAt) (self, redis)
        = ({ self with
            buffer := self.buffer ++ messages
            unacked := self.unacked ++ messages.map StreamMessage.messageId }, redis) := by
  induction messages generalizing self with
  | nil => simp
  | cons msg messages ih =>
    have hmsg := UInt32.not_le.mpr (hretry msg List.mem_cons_self)
    have hrest := ih (fun msg hmem => hretry msg (List.mem_cons_of_mem _ hmem))
    rw [List.foldl_cons]
    unfold take
    dsimp only
    rw [if_neg hmsg]
    exact (hrest _).trans (by simp)

theorem drain_alive (popped : List StreamMessage) (queue : List StreamMessage)
    : drain popped ⟨queue, true⟩ = (⟨queue ++ popped, true⟩, true) := by
  induction popped generalizing queue with
  | nil => simp [drain]
  | cons msg popped ih =>
    unfold drain InMemoryEventBus.send
    rw [if_pos rfl]
    dsimp only
    rw [ih, List.append_assoc, List.singleton_append]

end RedisStreamsSubscription

namespace PollingThread

open RedisStreamsEventBus

variable [TextFormat Uuid] [EnvelopeText] [RedisReplies]
variable (bus : RedisStreamsEventBus) (redis : RedisServer) (consumer : Nat)
variable (outage : Outage) (now : Nat) (failedAt : DateTime)

/--
Messages that are read together are sent from the last one to the first one.
-/
theorem sent_turn {self : PollingThread} {messages : List StreamMessage} {redis' : RedisServer}
    (hread : bus.readGroupSync redis consumer self.subscription.tenantId 10 outage now
      = (.ok messages, redis'))
    (hretry : ∀ msg ∈ messages, msg.retryCount < bus.maxRetries)
    (hbuffer : self.subscription.buffer = []) (halive : self.tx.receiverAlive = true)
    : (self.turn bus redis consumer outage now failedAt).1.sent
        = self.sent ++ (messages.map StreamMessage.messageId).reverse := by
  rcases self with ⟨subscription, ⟨queue, receiverAlive⟩, running⟩
  dsimp only at hread hbuffer halive
  subst halive
  unfold turn RedisStreamsSubscription.poll sent
  dsimp only
  rw [hread]
  dsimp only
  rw [RedisStreamsSubscription.foldl_take bus outage failedAt hretry, hbuffer, List.nil_append]
  dsimp only
  rw [RedisStreamsSubscription.drain_alive, List.map_append, List.map_reverse]

theorem turn_eq (h : RedisReplies.Documented) {self : PollingThread}
    (hbuffer : self.subscription.buffer = [])
    : self.turn bus redis consumer outage now failedAt
        = ({ self with running := true }, assigned redis consumer outage now) := by
  rcases self with ⟨⟨tenantId, buffer, unacked⟩, tx, running⟩
  dsimp only at hbuffer
  subst hbuffer
  rcases readGroupSync_reads h bus redis consumer tenantId outage now with ⟨hserver, hnone⟩
  have hpoll : (RedisStreamsSubscription.mk tenantId [] unacked).poll bus redis consumer outage now
      failedAt = (⟨tenantId, [], unacked⟩, assigned redis consumer outage now) := by
    unfold RedisStreamsSubscription.poll
    generalize bus.readGroupSync redis consumer tenantId 10 outage now = result at hserver hnone
    rcases result with ⟨messages | messages, redis'⟩
    . rw [← hserver]
    . rw [← hserver, hnone messages rfl]
      rfl
  unfold turn
  dsimp only
  rw [hpoll]
  rfl

end PollingThread

end ForgeErp
