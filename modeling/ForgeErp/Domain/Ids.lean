import ForgeErp.Core.Serde
import Mathlib.Logic.Equiv.Defs

/-!
This module contains the identifiers of the domain crates: transparent newtypes over `AggregateId`,
and for users over `Uuid`.
-/

namespace ForgeErp

structure InventoryItemId where
  aggregateId : AggregateId
  deriving DecidableEq, Repr

structure ProductId where
  aggregateId : AggregateId
  deriving DecidableEq, Repr

structure PartyId where
  aggregateId : AggregateId
  deriving DecidableEq, Repr

structure SalesOrderId where
  aggregateId : AggregateId
  deriving DecidableEq, Repr

structure PurchaseOrderId where
  aggregateId : AggregateId
  deriving DecidableEq, Repr

structure InvoiceId where
  aggregateId : AggregateId
  deriving DecidableEq, Repr

structure LedgerId where
  aggregateId : AggregateId
  deriving DecidableEq, Repr

structure UserId where
  asUuid : Uuid
  deriving DecidableEq, Repr

-- The two `From` conversions between user and aggregate identifiers.

def UserId.ofAggregateId (value : AggregateId) : UserId :=
  ⟨value.asUuid⟩

def UserId.aggregateId (value : UserId) : AggregateId :=
  ⟨value.asUuid⟩

variable [TextFormat Uuid] [TextFormat DateTime]

instance : Codec InventoryItemId :=
  Codec.transparent InventoryItemId.aggregateId InventoryItemId.mk (fun _ => rfl)

instance : Codec ProductId :=
  Codec.transparent ProductId.aggregateId ProductId.mk (fun _ => rfl)

instance : Codec PartyId :=
  Codec.transparent PartyId.aggregateId PartyId.mk (fun _ => rfl)

instance : Codec SalesOrderId :=
  Codec.transparent SalesOrderId.aggregateId SalesOrderId.mk (fun _ => rfl)

instance : Codec PurchaseOrderId :=
  Codec.transparent PurchaseOrderId.aggregateId PurchaseOrderId.mk (fun _ => rfl)

instance : Codec InvoiceId :=
  Codec.transparent InvoiceId.aggregateId InvoiceId.mk (fun _ => rfl)

instance : Codec LedgerId :=
  Codec.transparent LedgerId.aggregateId LedgerId.mk (fun _ => rfl)

instance : Codec UserId :=
  Codec.transparent UserId.asUuid UserId.mk (fun _ => rfl)

-- The identifiers under which a projection keeps the row of an aggregate.

def InventoryItemId.equiv : InventoryItemId ≃ AggregateId :=
  ⟨InventoryItemId.aggregateId, InventoryItemId.mk, fun _ => rfl, fun _ => rfl⟩

def PartyId.equiv : PartyId ≃ AggregateId :=
  ⟨PartyId.aggregateId, PartyId.mk, fun _ => rfl, fun _ => rfl⟩

def SalesOrderId.equiv : SalesOrderId ≃ AggregateId :=
  ⟨SalesOrderId.aggregateId, SalesOrderId.mk, fun _ => rfl, fun _ => rfl⟩

def PurchaseOrderId.equiv : PurchaseOrderId ≃ AggregateId :=
  ⟨PurchaseOrderId.aggregateId, PurchaseOrderId.mk, fun _ => rfl, fun _ => rfl⟩

def InvoiceId.equiv : InvoiceId ≃ AggregateId :=
  ⟨InvoiceId.aggregateId, InvoiceId.mk, fun _ => rfl, fun _ => rfl⟩

def ProductId.equiv : ProductId ≃ AggregateId :=
  ⟨ProductId.aggregateId, ProductId.mk, fun _ => rfl, fun _ => rfl⟩

end ForgeErp
