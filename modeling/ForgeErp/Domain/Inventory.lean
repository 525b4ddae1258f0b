import ForgeErp.Domain.Ids
import ForgeErp.Events.Basic

/-!
This module contains the inventory item aggregate. `i64` arithmetic wraps, as it does in a release
build.
-/

namespace ForgeErp

structure InventoryItem where
  id : InventoryItemId
  tenantId : Option TenantId
  name : String
  stock : Int64
  version : Nat
  created : Bool
  deriving DecidableEq

structure CreateItem where
  tenantId : TenantId
  itemId : InventoryItemId
  name : String
  occurredAt : DateTime

structure AdjustStock where
  tenantId : TenantId
  itemId : InventoryItemId
  delta : Int64
  occurredAt : DateTime

inductive InventoryCommand where
  | createItem (cmd : CreateItem)
  | adjustStock (cmd : AdjustStock)

structure ItemCreated where
  tenantId : TenantId
  itemId : InventoryItemId
  name : String
  occurredAt : DateTime
  deriving DecidableEq

structure StockAdjusted where
  tenantId : TenantId
  itemId : InventoryItemId
  delta : Int64
  occurredAt : DateTime
  deriving DecidableEq

inductive InventoryEvent where
  | itemCreated (e : ItemCreated)
  | stockAdjusted (e : StockAdjusted)
  deriving DecidableEq

namespace InventoryEvent

def tenantId (self : InventoryEvent) : TenantId :=
  match self with
  | .itemCreated e => e.tenantId
  | .stockAdjusted e => e.tenantId

def itemId (self : InventoryEvent) : InventoryItemId :=
  match self with
  | .itemCreated e => e.itemId
  | .stockAdjusted e => e.itemId

instance : Event InventoryEvent where
  eventType
    | .itemCreated _ => "inventory.item.created"
    | .stockAdjusted _ => "inventory.item.stock_adjusted"
  version _ := 1
  occurredAt
    | .itemCreated e => e.occurredAt
    | .stockAdjusted e => e.occurredAt

end InventoryEvent

namespace InventoryItem

def empty (id : InventoryItemId) : InventoryItem where
  id
  tenantId := none
  name := ""
  stock := 0
  version := 0
  created := false

def apply (self : InventoryItem) (event : InventoryEvent) : InventoryItem :=
  let self :=
    match event with
    | .itemCreated e =>
      { self with
        id := e.itemId
        tenantId := some e.tenantId
        name := e.name
        stock := 0
        created := true
      }
    | .stockAdjusted e => { self with stock := self.stock + e.delta }
  { self with version := self.version + 1 }

def ensureTenant (self : InventoryItem) (tenantId : TenantId) : Except DomainError Unit :=
  if !self.created then
    .ok ()
  else if self.tenantId ≠ some tenantId then
    .error (.invariantViolation "tenant mismatch")
  else
    .ok ()

def ensureItemId (self : InventoryItem) (itemId : InventoryItemId) : Except DomainError Unit :=
  if self.id ≠ itemId then
    .error (.invariantViolation "item_id mismatch")
  else
    .ok ()

def handleCreate (self : InventoryItem) (cmd : CreateItem)
    : Except DomainError (List InventoryEvent) :=
  if self.created then
    .error (.conflict "item already exists")
  else if trimIsEmpty cmd.name then
    .error (.validation "name cannot be empty")
  else
    .ok [.itemCreated {
      tenantId := cmd.tenantId
      itemId := cmd.itemId
      name := cmd.name
      occurredAt := cmd.occurredAt
    }]

def handleAdjust (self : InventoryItem) (cmd : AdjustStock)
    : Except DomainError (List InventoryEvent) :=
  if !self.created then
    .error .notFound
  else
    match self.ensureTenant cmd.tenantId with
    | .error err => .error err
    | .ok () =>
      match self.ensureItemId cmd.itemId with
      | .error err => .error err
      | .ok () =>
        if cmd.delta = 0 then
          .error (.validation "delta cannot be zero")
        else
          let newStock := self.stock + cmd.delta
          if newStock < 0 then
            .error (.invariantViolation "stock cannot go negative")
          else
            .ok [.stockAdjusted {
              tenantId := cmd.tenantId
              itemId := cmd.itemId
              delta := cmd.delta
              occurredAt := cmd.occurredAt
            }]

def handle (self : InventoryItem) (command : InventoryCommand)
    : Except DomainError (List InventoryEvent) :=
  match command with
  | .createItem cmd => self.handleCreate cmd
  | .adjustStock cmd => self.handleAdjust cmd

def aggregate : Aggregate where
  State := InventoryItem
  Command := InventoryCommand
  Event := InventoryEvent
  apply := apply
  handle := handle

end InventoryItem

section Serde

variable [TextFormat Uuid] [TextFormat DateTime]

instance : Codec ItemCreated where
  enc e := .object [
    ("tenant_id", Codec.enc e.tenantId),
    ("item_id", Codec.enc e.itemId),
    ("name", Codec.enc e.name),
    ("occurred_at", Codec.enc e.occurredAt)]
  dec j := do
    let fields ← Codec.record ["tenant_id", "item_id", "name", "occurred_at"] j
    let tenantId ← Codec.field fields "tenant_id"
    let itemId ← Codec.field fields "item_id"
    let name ← Codec.field fields "name"
    let occurredAt ← Codec.field fields "occurred_at"
    return { tenantId, itemId, name, occurredAt }
  dec_enc e := by simp [Codec.record, Codec.field]

instance : Codec StockAdjusted where
  enc e := .object [
    ("tenant_id", Codec.enc e.tenantId),
    ("item_id", Codec.enc e.itemId),
    ("delta", Codec.enc e.delta),
    ("occurred_at", Codec.enc e.occurredAt)]
  dec j := do
    let fields ← Codec.record ["tenant_id", "item_id", "delta", "occurred_at"] j
    let tenantId ← Codec.field fields "tenant_id"
    let itemId ← Codec.field fields "item_id"
    let delta ← Codec.field fields "delta"
    let occurredAt ← Codec.field fields "occurred_at"
    return { tenantId, itemId, delta, occurredAt }
  dec_enc e := by simp [Codec.record, Codec.field]

instance : Codec InventoryEvent where
  enc
    | .itemCreated e => .object [("ItemCreated", Codec.enc e)]
    | .stockAdjusted e => .object [("StockAdjusted", Codec.enc e)]
  dec := Codec.variant [
    ("ItemCreated", fun body => InventoryEvent.itemCreated <$> Codec.dec body),
    ("StockAdjusted", fun body => InventoryEvent.stockAdjusted <$> Codec.dec body)]
  dec_enc e := by cases e <;> simp [Codec.variant]

instance : Event InventoryItem.aggregate.Event :=
  inferInstanceAs (Event InventoryEvent)

instance : Serde InventoryItem.aggregate.Event :=
  inferInstanceAs (Serde InventoryEvent)

end Serde

-- An item to run the model on.
namespace Bolt

def tenantId : TenantId := ⟨⟨1⟩⟩

def itemId : InventoryItemId := ⟨⟨⟨2⟩⟩⟩

def create : CreateItem where
  tenantId
  itemId
  name := "Bolt"
  occurredAt := ⟨0⟩

def adjust (delta : Int64) : AdjustStock where
  tenantId
  itemId
  delta
  occurredAt := ⟨0⟩

def created : InventoryEvent :=
  .itemCreated { tenantId, itemId, name := "Bolt", occurredAt := ⟨0⟩ }

def adjusted (delta : Int64) : InventoryEvent :=
  .stockAdjusted { tenantId, itemId, delta, occurredAt := ⟨0⟩ }

end Bolt

end ForgeErp
