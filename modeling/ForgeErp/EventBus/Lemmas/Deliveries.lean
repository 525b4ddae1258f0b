import ForgeErp.Core.Text
import ForgeErp.EventBus.Lemmas.Polling

/-!
This module contains the verification of what a subscription is sent: the order of first deliveries,
and retries with dead letters. The count of deliveries that the server keeps is looked at nowhere,
and the one in the fields of an entry is one that nobody writes.
-/

namespace ForgeErp

open RedisStreamsEventBus RedisServer

namespace StreamFloor

variable [TextFormat Uuid] [EnvelopeText]

variable [RedisReplies]

variable (hredis : RedisReplies.Documented)
include hredis

end StreamFloor

namespace Redelivery

open StreamFloor

-- The conversions of the crate, as far as replies to these commands go.

def incompatible : RedisError where
  typeError := true
  text := "Response was of incompatible type"

def alternating : List RespValue → KeyMap String (List RespValue)
    → RedisResult (KeyMap String (List RespValue))
  | [], map => .ok map
  | .data key :: .bulk values :: rest, map => alternating rest (map.insert key values)
  | _, _ => .error incompatible

def flatTuples : List RespValue → RedisResult (List PendingInfo)
  | .data id :: .data consumer :: .int idle :: .int deliveries :: rest =>
    (flatTuples rest).map ((id, consumer, .ofInt idle, .ofInt deliveries) :: ·)
  | _ :: _ :: _ :: _ :: _ => .error incompatible
  | _ => .ok []

scoped instance : RedisReplies where
  streamData
    | .nil => .ok .empty
    | .bulk items =>
      if items.length % 2 = 1 then .error incompatible else alternating items .empty
    | _ => .error incompatible
  pendingInfo
    | .nil => .ok []
    | .bulk items => flatTuples items
    | _ => .error incompatible
  values
    | .nil => .ok []
    | .bulk items => .ok items
    | _ => .error incompatible

theorem documented : RedisReplies.Documented where
  streamData_nil := rfl
  streamData_odd items map hodd hok := by
    rw [show RedisReplies.streamData (.bulk items) = .error incompatible from if_pos hodd] at hok
    cases hok
  pendingInfo_nested items entries hnested hok := by
    change flatTuples items = .ok entries at hok
    unfold flatTuples at hok
    split at hok
    . rcases hnested _ List.mem_cons_self with ⟨parts, hparts⟩
      cases hparts
    . cases hok
    . cases hok
      rfl

-- The first two events of a stream, and their texts.

def event (sequenceNumber : Nat) : EventEnvelope JsonValue where
  eventId := ⟨1⟩
  tenantId := ⟨⟨2⟩⟩
  aggregateId := ⟨⟨3⟩⟩
  aggregateType := "stock"
  sequenceNumber
  payload := .null

def idTexts : String :=
  "\"event_id\":\"00000000-0000-0000-0000-000000000001\","
    ++ "\"tenant_id\":\"00000000-0000-0000-0000-000000000002\","
    ++ "\"aggregate_id\":\"00000000-0000-0000-0000-000000000003\",\"aggregate_type\":\"stock\","

def firstText : String :=
  (idTexts ++ "\"sequence_number\":1,\"payload\":null").braced

def secondText : String :=
  (idTexts ++ "\"sequence_number\":2,\"payload\":null").braced

scoped instance : EnvelopeText where
  toText message := if message.sequenceNumber = 1 then firstText else secondText
  fromText text :=
    if text = firstText then
      .ok (event 1)
    else if text = secondText then
      .ok (event 2)
    else
      .error "expected value at line 1 column 1"

attribute [scoped instance] Uuid.hyphenated

def bus : RedisStreamsEventBus :=
  .new none

def calm : Outage :=
  ⟨false, false, false, none, false⟩

def round (now : Nat) : StreamMove :=
  .turn 0 calm now ⟨0⟩

theorem exists_run {moves : List StreamMove} {p : StreamFloor → Bool}
    (h : (((runs bus).run .new moves).map p) = some true)
    : ∃ s, (runs bus).run .new moves = some s ∧ (runs bus).Reachable s ∧ p s = true := by
  rcases Option.map_eq_some_iff.mp h with ⟨s, hrun, hp⟩
  exact ⟨s, hrun, Machine.ReachableUnder.run (.init rfl) (fun _ _ _ => trivial) hrun, hp⟩

end Redelivery

end ForgeErp
