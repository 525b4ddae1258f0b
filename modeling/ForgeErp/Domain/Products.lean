import ForgeErp.Domain.Ids
import ForgeErp.Events.Basic

/-!
This module contains the product aggregate.
-/

namespace ForgeErp

inductive ProductStatus where
  | draft
  | active
  | archived
  deriving DecidableEq, Repr

structure PricingMetadata where
  basePrice : Option UInt64
  currency : Option String
  deriving DecidableEq

def PricingMetadata.default : PricingMetadata where
  basePrice := none
  currency := none

structure Product where
  id : ProductId
  tenantId : Option TenantId
  sku : String
  name : String
  status : ProductStatus
  pricing : PricingMetadata
  version : Nat
  created : Bool
  deriving DecidableEq

structure CreateProduct where
  tenantId : TenantId
  productId : ProductId
  sku : String
  name : String
  pricing : Option PricingMetadata
  occurredAt : DateTime

structure ActivateProduct where
  tenantId : TenantId
  productId : ProductId
  occurredAt : DateTime

structure ArchiveProduct where
  tenantId : TenantId
  productId : ProductId
  occurredAt : DateTime

inductive ProductCommand where
  | createProduct (cmd : CreateProduct)
  | activateProduct (cmd : ActivateProduct)
  | archiveProduct (cmd : ArchiveProduct)

structure ProductCreated where
  tenantId : TenantId
  productId : ProductId
  sku : String
  name : String
  pricing : PricingMetadata
  occurredAt : DateTime
  deriving DecidableEq

structure ProductActivated where
  tenantId : TenantId
  productId : ProductId
  occurredAt : DateTime
  deriving DecidableEq

structure ProductArchived where
  tenantId : TenantId
  productId : ProductId
  occurredAt : DateTime
  deriving DecidableEq

inductive ProductEvent where
  | productCreated (e : ProductCreated)
  | productActivated (e : ProductActivated)
  | productArchived (e : ProductArchived)
  deriving DecidableEq

namespace ProductEvent

def tenantId (self : ProductEvent) : TenantId :=
  match self with
  | .productCreated e => e.tenantId
  | .productActivated e => e.tenantId
  | .productArchived e => e.tenantId

def productId (self : ProductEvent) : ProductId :=
  match self with
  | .productCreated e => e.productId
  | .productActivated e => e.productId
  | .productArchived e => e.productId

instance : Event ProductEvent where
  eventType
    | .productCreated _ => "products.product.created"
    | .productActivated _ => "products.product.activated"
    | .productArchived _ => "products.product.archived"
  version _ := 1
  occurredAt
    | .productCreated e => e.occurredAt
    | .productActivated e => e.occurredAt
    | .productArchived e => e.occurredAt

end ProductEvent

namespace Product

def empty (id : ProductId) : Product where
  id
  tenantId := none
  sku := ""
  name := ""
  status := .draft
  pricing := .default
  version := 0
  created := false

def apply (self : Product) (event : ProductEvent) : Product :=
  let self :=
    match event with
    | .productCreated e =>
      { self with
        id := e.productId
        tenantId := some e.tenantId
        sku := e.sku
        name := e.name
        status := .draft
        pricing := e.pricing
        created := true
      }
    | .productActivated _ => { self with status := .active }
    | .productArchived _ => { self with status := .archived }
  { self with version := self.version + 1 }

def ensureTenant (self : Product) (tenantId : TenantId) : Except DomainError Unit :=
  if !self.created then
    .ok ()
  else if self.tenantId ≠ some tenantId then
    .error (.invariantViolation "tenant mismatch")
  else
    .ok ()

def ensureProductId (self : Product) (productId : ProductId) : Except DomainError Unit :=
  if self.id ≠ productId then
    .error (.invariantViolation "product_id mismatch")
  else
    .ok ()

def handleCreate (self : Product) (cmd : CreateProduct) : Except DomainError (List ProductEvent) :=
  if self.created then
    .error (.conflict "product already exists")
  else if trimIsEmpty cmd.name then
    .error (.validation "name cannot be empty")
  else if trimIsEmpty cmd.sku then
    .error (.validation "SKU cannot be empty")
  else
    .ok [.productCreated {
      tenantId := cmd.tenantId
      productId := cmd.productId
      sku := cmd.sku
      name := cmd.name
      pricing := cmd.pricing.getD .default
      occurredAt := cmd.occurredAt
    }]

def ensureExisting (self : Product) (tenantId : TenantId) (productId : ProductId)
    : Except DomainError Unit :=
  if !self.created then
    .error .notFound
  else
    match self.ensureTenant tenantId with
    | .error err => .error err
    | .ok () => self.ensureProductId productId

def handleActivate (self : Product) (cmd : ActivateProduct)
    : Except DomainError (List ProductEvent) :=
  match self.ensureExisting cmd.tenantId cmd.productId with
  | .error err => .error err
  | .ok () =>
    if self.status = .active then
      .error (.conflict "product is already active")
    else if self.status = .archived then
      .error (.invariantViolation "archived products cannot be activated")
    else
      .ok [.productActivated {
        tenantId := cmd.tenantId
        productId := cmd.productId
        occurredAt := cmd.occurredAt
      }]

def handleArchive (self : Product) (cmd : ArchiveProduct)
    : Except DomainError (List ProductEvent) :=
  match self.ensureExisting cmd.tenantId cmd.productId with
  | .error err => .error err
  | .ok () =>
    if self.status = .archived then
      .error (.conflict "product is already archived")
    else
      .ok [.productArchived {
        tenantId := cmd.tenantId
        productId := cmd.productId
        occurredAt := cmd.occurredAt
      }]

def handle (self : Product) (command : ProductCommand) : Except DomainError (List ProductEvent) :=
  match command with
  | .createProduct cmd => self.handleCreate cmd
  | .activateProduct cmd => self.handleActivate cmd
  | .archiveProduct cmd => self.handleArchive cmd

def aggregate : Aggregate where
  State := Product
  Command := ProductCommand
  Event := ProductEvent
  apply := apply
  handle := handle

end Product

section Serde

variable [TextFormat Uuid] [TextFormat DateTime]

instance : Codec (Option UInt64) where
  enc
    | none => .null
    | some n => Codec.enc n
  dec
    | .null => .ok none
    | j => some <$> Codec.dec j
  dec_enc o := by
    cases o with
    | none => rfl
    | some n =>
      have h := Codec.dec_enc n
      simp only [Codec.enc] at h ⊢
      rw [h]
      rfl

-- A missing optional number reads as `None`, too.
def optNumber (fields : List (String × JsonValue)) (name : String)
    : Except String (Option UInt64) :=
  match fields.lookup name with
  | some value => Codec.dec value
  | none => .ok none

instance : Codec PricingMetadata where
  enc e := .object [
    ("base_price", Codec.enc e.basePrice),
    ("currency", Codec.enc e.currency)]
  dec j := do
    let fields ← Codec.record ["base_price", "currency"] j
    let basePrice ← optNumber fields "base_price"
    let currency ← Codec.optField fields "currency"
    return { basePrice, currency }
  dec_enc e := by simp [Codec.record, Codec.optField, optNumber]

instance : Codec ProductCreated where
  enc e := .object [
    ("tenant_id", Codec.enc e.tenantId),
    ("product_id", Codec.enc e.productId),
    ("sku", Codec.enc e.sku),
    ("name", Codec.enc e.name),
    ("pricing", Codec.enc e.pricing),
    ("occurred_at", Codec.enc e.occurredAt)]
  dec j := do
    let fields ← Codec.record ["tenant_id", "product_id", "sku", "name", "pricing", "occurred_at"] j
    let tenantId ← Codec.field fields "tenant_id"
    let productId ← Codec.field fields "product_id"
    let sku ← Codec.field fields "sku"
    let name ← Codec.field fields "name"
    let pricing ← Codec.field fields "pricing"
    let occurredAt ← Codec.field fields "occurred_at"
    return { tenantId, productId, sku, name, pricing, occurredAt }
  dec_enc e := by simp [Codec.record, Codec.field]

instance : Codec ProductActivated where
  enc e := .object [
    ("tenant_id", Codec.enc e.tenantId),
    ("product_id", Codec.enc e.productId),
    ("occurred_at", Codec.enc e.occurredAt)]
  dec j := do
    let fields ← Codec.record ["tenant_id", "product_id", "occurred_at"] j
    let tenantId ← Codec.field fields "tenant_id"
    let productId ← Codec.field fields "product_id"
    let occurredAt ← Codec.field fields "occurred_at"
    return { tenantId, productId, occurredAt }
  dec_enc e := by simp [Codec.record, Codec.field]

instance : Codec ProductArchived where
  enc e := .object [
    ("tenant_id", Codec.enc e.tenantId),
    ("product_id", Codec.enc e.productId),
    ("occurred_at", Codec.enc e.occurredAt)]
  dec j := do
    let fields ← Codec.record ["tenant_id", "product_id", "occurred_at"] j
    let tenantId ← Codec.field fields "tenant_id"
    let productId ← Codec.field fields "product_id"
    let occurredAt ← Codec.field fields "occurred_at"
    return { tenantId, productId, occurredAt }
  dec_enc e := by simp [Codec.record, Codec.field]

instance : Codec ProductEvent where
  enc
    | .productCreated e => .object [("ProductCreated", Codec.enc e)]
    | .productActivated e => .object [("ProductActivated", Codec.enc e)]
    | .productArchived e => .object [("ProductArchived", Codec.enc e)]
  dec := Codec.variant [
    ("ProductCreated", fun body => ProductEvent.productCreated <$> Codec.dec body),
    ("ProductActivated", fun body => ProductEvent.productActivated <$> Codec.dec body),
    ("ProductArchived", fun body => ProductEvent.productArchived <$> Codec.dec body)]
  dec_enc e := by cases e <;> simp [Codec.variant]

instance Product.instEvent : Event Product.aggregate.Event :=
  inferInstanceAs (Event ProductEvent)

instance Product.instSerde : Serde Product.aggregate.Event :=
  inferInstanceAs (Serde ProductEvent)

end Serde

end ForgeErp
