import ForgeErp.Core.Serde
import ForgeErp.Events.Basic
import ForgeErp.Library.ConsumerGroup
import ForgeErp.Library.KeyMap
import ForgeErp.Library.Machine
import Mathlib.Data.List.Infix

/-!
This module contains the event bus over Redis Streams and the threads that poll it, one for each
subscription. The server is the stream of all events with one of its consumer groups, and the stream
of dead letters. A command that does not get through leaves it as it is, whereas one whose reply
cannot be read has done its work. Consumers are numbered.
-/

namespace ForgeErp

inductive RedisStreamsError where
  | connection (msg : String)
  | command (msg : String)
  | serialization (msg : String)
  | deserialization (msg : String)
  | consumerGroup (msg : String)

/--
`redis::Value`, with data that is text.
-/
inductive RespValue where
  | nil
  | int (val : Int)
  | data (text : String)
  | bulk (items : List RespValue)
  | status (text : String)
  | okay

structure RedisError where
  -- the kind of the error is `ErrorKind::TypeError`
  typeError : Bool
  text : String

abbrev RedisResult (α : Type) : Type :=
  Except RedisError α

abbrev PendingInfo : Type :=
  String × String × UInt64 × UInt64

/--
`FromRedisValue` of the `redis` crate, at the types that the replies to `XREADGROUP`, `XPENDING` and
`XCLAIM` are converted to.
-/
class RedisReplies where
  streamData : RespValue → RedisResult (KeyMap String (List RespValue))
  pendingInfo : RespValue → RedisResult (List PendingInfo)
  values : RespValue → RedisResult (List RespValue)

/--
`serde_json::to_string` and `serde_json::from_str`, on envelopes.
-/
class EnvelopeText where
  toText : EventEnvelope JsonValue → String
  fromText : String → Except String (EventEnvelope JsonValue)

abbrev StreamFields : Type :=
  List (String × String)

structure DlqEntry where
  originalMessageId : String
  retryCount : UInt32
  failedAt : DateTime
  payload : String

structure RedisServer where
  stream : List StreamFields
  group : ConsumerGroup Nat
  dlq : List DlqEntry

/--
Which of the commands of a poll do not get through.
-/
structure Outage where
  connect : Bool
  xpending : Bool
  xclaim : Bool
  xreadgroup : Option RedisError
  dlq : Bool

structure StreamMessage where
  messageId : String
  envelope : EventEnvelope JsonValue
  retryCount : UInt32

structure RedisStreamsSubscription where
  tenantId : Option TenantId
  -- of the messages in the buffer the source keeps the envelopes only
  buffer : List StreamMessage
  unacked : List String

structure RedisStreamsEventBus where
  streamKey : String
  maxRetries : UInt32
  pendingTimeoutMs : Nat

-- The text of the error is that of the `uuid` crate.
def parseTenantId [TextFormat Uuid] (s : String) : Except String TenantId :=
  match TextFormat.parse s with
  | some uuid => .ok ⟨uuid⟩
  | none => .error "invalid UUID"

-- `str::parse::<u32>`
def parseU32 (s : String) : Option UInt32 :=
  let digits :=
    match s.toList with
    | '+' :: digits => digits
    | digits => digits
  if digits ≠ [] ∧ digits.all Char.isDigit then
    let n := digits.foldl (fun n c => n * 10 + (c.toNat - '0'.toNat)) 0
    if n < 2 ^ 32 then some (.ofNat n) else none
  else
    none

namespace RedisServer

def new : RedisServer where
  stream := []
  group := .new
  dlq := []

-- The identifier that the server generates for the entry at a position.
def entryId (position : Nat) : String :=
  toString position ++ "-0"

def position (redis : RedisServer) (id : String) : Option Nat :=
  (List.range redis.stream.length).find? fun position => entryId position == id

def fieldsReply (fields : StreamFields) : List RespValue :=
  fields.flatMap fun (key, value) => [.data key, .data value]

def entryReply (entry : StreamEntry StreamFields) : RespValue :=
  .bulk [.data (entryId entry.id), .bulk (fieldsReply entry.value)]

-- Without new entries the command blocks until it times out.
def xreadgroup (redis : RedisServer) (streamKey : String) (consumer count now : Nat)
    : RespValue × RedisServer :=
  let (entries, group) := redis.group.read redis.stream consumer count now
  let reply :=
    if entries.isEmpty then
      .nil
    else
      .bulk [.bulk [.data streamKey, .bulk (entries.map entryReply)]]
  (reply, { redis with group })

def xpending (redis : RedisServer) (consumer count now : Nat) : RespValue :=
  .bulk ((redis.group.pendingOf consumer count).map fun entry => .bulk [
    .data (entryId entry.id),
    .data (toString entry.consumer),
    .int ((now - entry.deliveredAt : Nat) : Int),
    .int (entry.deliveries : Int)])

def xclaim (redis : RedisServer) (consumer minIdle now : Nat) (ids : List String) (retryCount : Nat)
    : RespValue × RedisServer :=
  let (entries, group) := redis.group.claim redis.stream consumer minIdle now
    (ids.filterMap redis.position) retryCount
  (.bulk (entries.map entryReply), { redis with group })

end RedisServer

namespace RedisStreamsEventBus

def new (streamKey : Option String) : RedisStreamsEventBus where
  streamKey := streamKey.getD "forgeerp:events"
  maxRetries := 5
  pendingTimeoutMs := 60000

variable [TextFormat Uuid] [EnvelopeText]

def entryFields (message : EventEnvelope JsonValue) : StreamFields := [
  ("tenant_id", TextFormat.print message.tenantId.asUuid),
  ("aggregate_id", TextFormat.print message.aggregateId.asUuid),
  ("aggregate_type", message.aggregateType),
  ("sequence_number", toString message.sequenceNumber),
  ("payload", EnvelopeText.toText message)]

def publishSync (redis : RedisServer) (message : EventEnvelope JsonValue) : RedisServer :=
  { redis with stream := redis.stream ++ [entryFields message] }

def sendToDlqSync (redis : RedisServer) (message : StreamMessage) (failedAt : DateTime)
    : RedisServer :=
  { redis with
    dlq := redis.dlq ++ [{
      originalMessageId := message.messageId
      retryCount := message.retryCount
      failedAt
      payload := EnvelopeText.toText message.envelope
    }] }

def acknowledgeSync (redis : RedisServer) (messageIds : List String) : RedisServer :=
  { redis with group := redis.group.ack (messageIds.filterMap redis.position) }

def parseMessageId (value : RespValue) : Except RedisStreamsError String :=
  match value with
  | .data text => .ok text
  -- sometimes the identifier is in a nested bulk
  | .bulk (.data text :: _) => .ok text
  | _ => .error (.deserialization "Invalid message ID format")

-- Fields come in pairs, and those that are not data are passed over.
def fieldMap (fields : List RespValue) : KeyMap String String :=
  go fields .empty
where
  go : List RespValue → KeyMap String String → KeyMap String String
    | .data key :: .data value :: rest, map => go rest (map.insert key value)
    | _ :: _ :: rest, map => go rest map
    | _, map => map

def retryCount (fields : KeyMap String String) : UInt32 :=
  ((fields.get "retry_count").bind parseU32).getD 0

def parseFields (messageId : String) (fields : KeyMap String String) (tenantId : Option TenantId)
    : Except RedisStreamsError StreamMessage :=
  match fields.get "tenant_id" with
  | none => .error (.deserialization "Missing tenant_id field")
  | some msgTenantIdStr =>
    match parseTenantId msgTenantIdStr with
    | .error e => .error (.deserialization s!"Invalid tenant_id: {e}")
    | .ok msgTenantId =>
      if tenantId.any fun filterTenant => msgTenantId ≠ filterTenant then
        .error (.deserialization "Tenant mismatch (skipping)")
      else
        match fields.get "payload" with
        | none => .error (.deserialization "Missing payload field")
        | some payloadStr =>
          match EnvelopeText.fromText payloadStr with
          | .error e => .error (.deserialization s!"Failed to deserialize envelope: {e}")
          | .ok envelope => .ok { messageId, envelope, retryCount := retryCount fields }

def parseStreamEntry (entry : RespValue) (tenantId : Option TenantId)
    : Except RedisStreamsError StreamMessage :=
  match entry with
  | .bulk (id :: fields :: _) =>
    match parseMessageId id with
    | .error e => .error e
    | .ok messageId =>
      match fields with
      | .bulk fields => parseFields messageId (fieldMap fields) tenantId
      | _ => .error (.deserialization "Invalid fields format")
  | .bulk _ => .error (.deserialization "Entry too short")
  | _ => .error (.deserialization "Invalid entry format")

-- Entries that cannot be parsed, or are not meant for the tenant, are passed over.
def parseEntries (entries : List RespValue) (tenantId : Option TenantId) : List StreamMessage :=
  entries.filterMap fun entry => (parseStreamEntry entry tenantId).toOption

variable [RedisReplies]

def readPendingSync (bus : RedisStreamsEventBus) (redis : RedisServer) (consumer : Nat)
    (tenantId : Option TenantId) (count : Nat) (outage : Outage) (now : Nat)
    : List StreamMessage × RedisServer :=
  if outage.xpending then
    ([], redis)
  else
    match RedisReplies.pendingInfo (redis.xpending consumer count now) with
    | .error _ => ([], redis)
    | .ok entries =>
      let pendingIds := entries.map Prod.fst
      if pendingIds.isEmpty then
        ([], redis)
      else if outage.xclaim then
        ([], redis)
      else
        let (reply, redis) := redis.xclaim consumer bus.pendingTimeoutMs now pendingIds
          bus.maxRetries.toNat
        match RedisReplies.values reply with
        | .error _ => ([], redis)
        | .ok claimedEntries => (parseEntries claimedEntries tenantId, redis)

-- What the crate makes of the reply is known only after the server has assigned the entries.
def queryNew (bus : RedisStreamsEventBus) (redis : RedisServer) (consumer count : Nat)
    (outage : Outage) (now : Nat)
    : RedisResult (KeyMap String (List RespValue)) × RedisServer :=
  match outage.xreadgroup with
  | some e => (.error e, redis)
  | none =>
    let (reply, redis) := redis.xreadgroup bus.streamKey consumer count now
    (RedisReplies.streamData reply, redis)

def readNewSync (bus : RedisStreamsEventBus) (redis : RedisServer) (consumer : Nat)
    (tenantId : Option TenantId) (count : Nat) (outage : Outage) (now : Nat)
    : Except RedisStreamsError (List StreamMessage) × RedisServer :=
  match bus.queryNew redis consumer count outage now with
  | (.error e, redis) =>
    if e.typeError ∧ "timeout".toList <:+: e.text.toList then
      (.ok [], redis)
    else
      (.error (.command s!"XREADGROUP failed: {e.text}"), redis)
  | (.ok streamData, redis) =>
    (.ok (parseEntries ((streamData.get bus.streamKey).getD []) tenantId), redis)

def readGroupSync (bus : RedisStreamsEventBus) (redis : RedisServer) (consumer : Nat)
    (tenantId : Option TenantId) (count : Nat) (outage : Outage) (now : Nat)
    : Except RedisStreamsError (List StreamMessage) × RedisServer :=
  if outage.connect then
    (.error (.connection "connection refused"), redis)
  else
    let (pending, redis) := bus.readPendingSync redis consumer tenantId count outage now
    if pending.isEmpty then
      bus.readNewSync redis consumer tenantId count outage now
    else
      (.ok pending, redis)

end RedisStreamsEventBus

namespace RedisStreamsSubscription

variable [TextFormat Uuid] [EnvelopeText] [RedisReplies]

def new (tenantId : Option TenantId) : RedisStreamsSubscription where
  tenantId
  buffer := []
  unacked := []

-- What `poll` does with one message that it has read.
def take (bus : RedisStreamsEventBus) (outage : Outage) (failedAt : DateTime)
    (s : RedisStreamsSubscription × RedisServer) (msg : StreamMessage)
    : RedisStreamsSubscription × RedisServer :=
  let (self, redis) := s
  if msg.retryCount ≥ bus.maxRetries then
    let redis :=
      if outage.dlq then redis else RedisStreamsEventBus.sendToDlqSync redis msg failedAt
    ({ self with unacked := self.unacked ++ [msg.messageId] }, redis)
  else
    ({ self with
      buffer := self.buffer ++ [msg]
      unacked := self.unacked ++ [msg.messageId] }, redis)

def poll (self : RedisStreamsSubscription) (bus : RedisStreamsEventBus) (redis : RedisServer)
    (consumer : Nat) (outage : Outage) (now : Nat) (failedAt : DateTime)
    : RedisStreamsSubscription × RedisServer :=
  match bus.readGroupSync redis consumer self.tenantId 10 outage now with
  | (.ok messages, redis) => messages.foldl (take bus outage failedAt) (self, redis)
  | (.error _, redis) => (self, redis)

-- Nobody calls it: what has been read stays pending.
def acknowledge (self : RedisStreamsSubscription) (redis : RedisServer) (count : Nat)
    : RedisStreamsSubscription × RedisServer :=
  if count ≤ self.unacked.length then
    ({ self with unacked := self.unacked.drop count },
      RedisStreamsEventBus.acknowledgeSync redis (self.unacked.take count))
  else
    (self, redis)

/--
`while let Some(msg) = buffer.pop()`, for a buffer that is given from its end. The flag tells
whether the thread goes on.
-/
def drain (popped : List StreamMessage) (tx : Channel StreamMessage)
    : Channel StreamMessage × Bool :=
  match popped with
  | [] => (tx, true)
  | msg :: popped =>
    match InMemoryEventBus.send tx msg with
    | some tx => drain popped tx
    | none => (tx, false)

end RedisStreamsSubscription

/--
The thread behind a subscription.
-/
structure PollingThread where
  subscription : RedisStreamsSubscription
  tx : Channel StreamMessage
  running : Bool

namespace PollingThread

variable [TextFormat Uuid] [EnvelopeText] [RedisReplies]

def new (tenantId : Option TenantId) : PollingThread where
  subscription := .new tenantId
  tx := ⟨[], true⟩
  running := true

def sent (self : PollingThread) : List String :=
  self.tx.queue.map StreamMessage.messageId

/--
One round of the loop. What is left in the buffer when the thread stops is lost with it.
-/
def turn (self : PollingThread) (bus : RedisStreamsEventBus) (redis : RedisServer) (consumer : Nat)
    (outage : Outage) (now : Nat) (failedAt : DateTime)
    : PollingThread × RedisServer :=
  let (subscription, redis) := self.subscription.poll bus redis consumer outage now failedAt
  let (tx, running) := RedisStreamsSubscription.drain subscription.buffer.reverse self.tx
  ({
    subscription := { subscription with buffer := [] }
    tx
    running
  }, redis)

end PollingThread

structure StreamFloor where
  redis : RedisServer
  threads : Nat → Option PollingThread

inductive StreamMove where
  | publish (message : EventEnvelope JsonValue)
  | subscribe (who : Nat) (tenantId : Option TenantId)
  | turn (who : Nat) (outage : Outage) (now : Nat) (failedAt : DateTime)
  | hangUp (who : Nat)

namespace StreamFloor

def new : StreamFloor where
  redis := .new
  threads _ := none

def setThread (s : StreamFloor) (who : Nat) (thread : PollingThread) : StreamFloor :=
  { s with threads := fun n => if n = who then some thread else s.threads n }

variable [TextFormat Uuid] [EnvelopeText] [RedisReplies]

def step (bus : RedisStreamsEventBus) (s : StreamFloor) (move : StreamMove) : Option StreamFloor :=
  match move with
  | .publish message => some { s with redis := RedisStreamsEventBus.publishSync s.redis message }
  | .subscribe who tenantId =>
    match s.threads who with
    | some _ => none
    | none => some (s.setThread who (.new tenantId))
  | .turn who outage now failedAt =>
    match s.threads who with
    | some thread =>
      if thread.running then
        let (thread, redis) := thread.turn bus s.redis who outage now failedAt
        some ({ s with redis }.setThread who thread)
      else
        none
    | none => none
  | .hangUp who =>
    match s.threads who with
    | some thread => some (s.setThread who { thread with tx := ⟨thread.tx.queue, false⟩ })
    | none => none

def runs (bus : RedisStreamsEventBus) : Machine StreamFloor StreamMove where
  init s := s = .new
  step := step bus

end StreamFloor

end ForgeErp
