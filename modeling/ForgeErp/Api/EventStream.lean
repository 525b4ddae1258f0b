import ForgeErp.Api.Admin
import ForgeErp.Events.Basic
import ForgeErp.Library.JsonText
import ForgeErp.Library.TextPrefix

/-!
This module contains the stream of events for the dashboard. The task behind it dies when it panics,
and with it the stream of its tenant.
-/

namespace ForgeErp

-- `char::is_uppercase`, which reads the Unicode tables.
class Uppercase where
  isUppercase : Char → Bool

-- `DateTime<Utc>::to_rfc3339`, which ends in `+00:00`.
class Rfc3339 where
  toRfc3339 : DateTime → String

namespace EventStream

structure SseEvent where
  event : String
  data : String
  deriving DecidableEq, Repr

inductive Received where
  | envelope (envelope : EventEnvelope JsonValue)
  | timeout
  | disconnected

-- What `recv_timeout` returns, with what is read from the surroundings after it.
structure Reception where
  received : Received
  clock : Nat
  now : DateTime
  receiverDropped : Bool

structure Connection where
  sent : List SseEvent
  lastHeartbeat : Nat
  deriving DecidableEq, Repr

inductive Task where
  | running (connection : Connection)
  | ended (connection : Connection)
  | panicked
  deriving DecidableEq, Repr

def streamEvents (tenant : TenantContext) (principal : PrincipalContext) (clock : Nat)
    : Except (Nat × String) Task :=
  match authorizeCommand tenant principal ["admin.users.read"] with
  | .error e => .error (403, s!"Forbidden: {e.toString}")
  | .ok () => .ok (.running ⟨[], clock⟩)

def send (connection : Connection) (r : Reception) (event : SseEvent) : Task :=
  if r.receiverDropped then
    .ended connection
  else
    .running { sent := connection.sent ++ [event], lastHeartbeat := r.clock }

variable [FloatJson]

def truncatePayload (payload : JsonValue) : Option String :=
  let jsonStr := payload.text
  if jsonStr.utf8ByteSize > 500 then
    (jsonStr.prefixBytes 500).map fun head => head ++ "..."
  else
    some jsonStr

variable [Uppercase]

def extractEventType (payload : JsonValue) : Option String :=
  match payload with
  | .object fields =>
    match fields.lookup "event_type" with
    | some (.string s) => some s
    | _ =>
      match fields with
      | [(key, _)] => if key.toList.head?.any Uppercase.isUppercase then some key else none
      | _ => none
  | _ => none

variable [TextFormat Uuid] [Rfc3339]

def eventData (envelope : EventEnvelope JsonValue) (now : DateTime) (preview : String)
    : List (String × JsonValue) :=
  let metadata := JsonValue.ofFields [
    ("event_id", .string (TextFormat.print envelope.eventId)),
    ("tenant_id", .string (TextFormat.print envelope.tenantId.asUuid)),
    ("aggregate_id", .string (TextFormat.print envelope.aggregateId.asUuid)),
    ("aggregate_type", .string envelope.aggregateType),
    ("sequence_number", .number envelope.sequenceNumber),
    ("occurred_at", .string (Rfc3339.toRfc3339 now)),
    ("payload_preview", .string preview)]
  match extractEventType envelope.payload with
  | some eventType => JsonValue.insertField metadata "event_type" (.string eventType)
  | none => metadata

-- One round of the forwarding loop, while it runs.
def receive (tenantId : TenantId) (connection : Connection) (r : Reception) : Task :=
  match r.received with
  | .envelope envelope =>
    if envelope.tenantId ≠ tenantId then
      .running connection
    else
      match truncatePayload envelope.payload with
      | none => .panicked
      | some preview =>
        let data := JsonValue.object (eventData envelope r.now preview)
        send connection r ⟨"event", data.text⟩
  | .timeout =>
    if 15 * 10 ^ 9 < r.clock - connection.lastHeartbeat then
      send connection r ⟨"heartbeat", "".braced⟩
    else
      .running connection
  | .disconnected => .ended connection

def forward (tenantId : TenantId) (task : Task) (r : Reception) : Task :=
  match task with
  | .running connection => receive tenantId connection r
  | task => task

def run (tenantId : TenantId) (task : Task) (receptions : List Reception) : Task :=
  receptions.foldl (forward tenantId) task

end EventStream

end ForgeErp
