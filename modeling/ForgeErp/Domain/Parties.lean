import ForgeErp.Domain.Ids
import ForgeErp.Events.Basic

/-!
This module contains the party aggregate: customers and suppliers.
-/

namespace ForgeErp

inductive PartyKind where
  | customer
  | supplier
  deriving DecidableEq, Repr

inductive PartyStatus where
  | active
  | suspended
  deriving DecidableEq, Repr

structure ContactInfo where
  email : Option String
  phone : Option String
  address : Option String
  deriving DecidableEq

def ContactInfo.default : ContactInfo where
  email := none
  phone := none
  address := none

structure Party where
  id : PartyId
  tenantId : Option TenantId
  kind : PartyKind
  name : String
  contact : ContactInfo
  status : PartyStatus
  version : Nat
  created : Bool
  deriving DecidableEq

structure RegisterParty where
  tenantId : TenantId
  partyId : PartyId
  kind : PartyKind
  name : String
  contact : Option ContactInfo
  occurredAt : DateTime

structure UpdateDetails where
  tenantId : TenantId
  partyId : PartyId
  name : Option String
  contact : Option ContactInfo
  occurredAt : DateTime

structure SuspendParty where
  tenantId : TenantId
  partyId : PartyId
  reason : Option String
  occurredAt : DateTime

inductive PartyCommand where
  | registerParty (cmd : RegisterParty)
  | updateDetails (cmd : UpdateDetails)
  | suspendParty (cmd : SuspendParty)

structure PartyRegistered where
  tenantId : TenantId
  partyId : PartyId
  kind : PartyKind
  name : String
  contact : ContactInfo
  occurredAt : DateTime
  deriving DecidableEq

structure PartyUpdated where
  tenantId : TenantId
  partyId : PartyId
  name : String
  contact : ContactInfo
  occurredAt : DateTime
  deriving DecidableEq

structure PartySuspended where
  tenantId : TenantId
  partyId : PartyId
  reason : Option String
  occurredAt : DateTime
  deriving DecidableEq

inductive PartyEvent where
  | partyRegistered (e : PartyRegistered)
  | partyUpdated (e : PartyUpdated)
  | partySuspended (e : PartySuspended)
  deriving DecidableEq

namespace PartyEvent

def tenantId (self : PartyEvent) : TenantId :=
  match self with
  | .partyRegistered e => e.tenantId
  | .partyUpdated e => e.tenantId
  | .partySuspended e => e.tenantId

def partyId (self : PartyEvent) : PartyId :=
  match self with
  | .partyRegistered e => e.partyId
  | .partyUpdated e => e.partyId
  | .partySuspended e => e.partyId

instance : Event PartyEvent where
  eventType
    | .partyRegistered _ => "parties.party.registered"
    | .partyUpdated _ => "parties.party.updated"
    | .partySuspended _ => "parties.party.suspended"
  version _ := 1
  occurredAt
    | .partyRegistered e => e.occurredAt
    | .partyUpdated e => e.occurredAt
    | .partySuspended e => e.occurredAt

end PartyEvent

namespace Party

def empty (id : PartyId) : Party where
  id
  tenantId := none
  kind := .customer
  name := ""
  contact := .default
  status := .active
  version := 0
  created := false

def apply (self : Party) (event : PartyEvent) : Party :=
  let self :=
    match event with
    | .partyRegistered e =>
      { self with
        id := e.partyId
        tenantId := some e.tenantId
        kind := e.kind
        name := e.name
        contact := e.contact
        status := .active
        created := true
      }
    | .partyUpdated e => { self with name := e.name, contact := e.contact }
    | .partySuspended _ => { self with status := .suspended }
  { self with version := self.version + 1 }

def ensureTenant (self : Party) (tenantId : TenantId) : Except DomainError Unit :=
  if !self.created then
    .ok ()
  else if self.tenantId ≠ some tenantId then
    .error (.invariantViolation "tenant mismatch")
  else
    .ok ()

def ensurePartyId (self : Party) (partyId : PartyId) : Except DomainError Unit :=
  if self.id ≠ partyId then
    .error (.invariantViolation "party_id mismatch")
  else
    .ok ()

def handleRegister (self : Party) (cmd : RegisterParty) : Except DomainError (List PartyEvent) :=
  if self.created then
    .error (.conflict "party already exists")
  else if trimIsEmpty cmd.name then
    .error (.validation "name cannot be empty")
  else
    .ok [.partyRegistered {
      tenantId := cmd.tenantId
      partyId := cmd.partyId
      kind := cmd.kind
      name := cmd.name
      contact := cmd.contact.getD .default
      occurredAt := cmd.occurredAt
    }]

def ensureExisting (self : Party) (tenantId : TenantId) (partyId : PartyId)
    : Except DomainError Unit :=
  if !self.created then
    .error .notFound
  else
    match self.ensureTenant tenantId with
    | .error err => .error err
    | .ok () => self.ensurePartyId partyId

def handleUpdate (self : Party) (cmd : UpdateDetails) : Except DomainError (List PartyEvent) :=
  match self.ensureExisting cmd.tenantId cmd.partyId with
  | .error err => .error err
  | .ok () =>
    let newName := cmd.name.getD self.name
    if trimIsEmpty newName then
      .error (.validation "name cannot be empty")
    else
      .ok [.partyUpdated {
        tenantId := cmd.tenantId
        partyId := cmd.partyId
        name := newName
        contact := cmd.contact.getD self.contact
        occurredAt := cmd.occurredAt
      }]

def handleSuspend (self : Party) (cmd : SuspendParty) : Except DomainError (List PartyEvent) :=
  match self.ensureExisting cmd.tenantId cmd.partyId with
  | .error err => .error err
  | .ok () =>
    if self.status = .suspended then
      .error (.conflict "party is already suspended")
    else
      .ok [.partySuspended {
        tenantId := cmd.tenantId
        partyId := cmd.partyId
        reason := cmd.reason
        occurredAt := cmd.occurredAt
      }]

def handle (self : Party) (command : PartyCommand) : Except DomainError (List PartyEvent) :=
  match command with
  | .registerParty cmd => self.handleRegister cmd
  | .updateDetails cmd => self.handleUpdate cmd
  | .suspendParty cmd => self.handleSuspend cmd

def aggregate : Aggregate where
  State := Party
  Command := PartyCommand
  Event := PartyEvent
  apply := apply
  handle := handle

end Party

section Serde

variable [TextFormat Uuid] [TextFormat DateTime]

instance : Codec PartyKind where
  enc
    | .customer => .string "customer"
    | .supplier => .string "supplier"
  dec := Codec.unitVariant [("customer", .customer), ("supplier", .supplier)]
  dec_enc e := by cases e <;> rfl

instance : Codec ContactInfo where
  enc e := .object [
    ("email", Codec.enc e.email),
    ("phone", Codec.enc e.phone),
    ("address", Codec.enc e.address)]
  dec j := do
    let fields ← Codec.record ["email", "phone", "address"] j
    let email ← Codec.optField fields "email"
    let phone ← Codec.optField fields "phone"
    let address ← Codec.optField fields "address"
    return { email, phone, address }
  dec_enc e := by simp [Codec.record, Codec.optField]

instance : Codec PartyRegistered where
  enc e := .object [
    ("tenant_id", Codec.enc e.tenantId),
    ("party_id", Codec.enc e.partyId),
    ("kind", Codec.enc e.kind),
    ("name", Codec.enc e.name),
    ("contact", Codec.enc e.contact),
    ("occurred_at", Codec.enc e.occurredAt)]
  dec j := do
    let fields ← Codec.record ["tenant_id", "party_id", "kind", "name", "contact", "occurred_at"] j
    let tenantId ← Codec.field fields "tenant_id"
    let partyId ← Codec.field fields "party_id"
    let kind ← Codec.field fields "kind"
    let name ← Codec.field fields "name"
    let contact ← Codec.field fields "contact"
    let occurredAt ← Codec.field fields "occurred_at"
    return { tenantId, partyId, kind, name, contact, occurredAt }
  dec_enc e := by simp [Codec.record, Codec.field]

instance : Codec PartyUpdated where
  enc e := .object [
    ("tenant_id", Codec.enc e.tenantId),
    ("party_id", Codec.enc e.partyId),
    ("name", Codec.enc e.name),
    ("contact", Codec.enc e.contact),
    ("occurred_at", Codec.enc e.occurredAt)]
  dec j := do
    let fields ← Codec.record ["tenant_id", "party_id", "name", "contact", "occurred_at"] j
    let tenantId ← Codec.field fields "tenant_id"
    let partyId ← Codec.field fields "party_id"
    let name ← Codec.field fields "name"
    let contact ← Codec.field fields "contact"
    let occurredAt ← Codec.field fields "occurred_at"
    return { tenantId, partyId, name, contact, occurredAt }
  dec_enc e := by simp [Codec.record, Codec.field]

instance : Codec PartySuspended where
  enc e := .object [
    ("tenant_id", Codec.enc e.tenantId),
    ("party_id", Codec.enc e.partyId),
    ("reason", Codec.enc e.reason),
    ("occurred_at", Codec.enc e.occurredAt)]
  dec j := do
    let fields ← Codec.record ["tenant_id", "party_id", "reason", "occurred_at"] j
    let tenantId ← Codec.field fields "tenant_id"
    let partyId ← Codec.field fields "party_id"
    let reason ← Codec.optField fields "reason"
    let occurredAt ← Codec.field fields "occurred_at"
    return { tenantId, partyId, reason, occurredAt }
  dec_enc e := by simp [Codec.record, Codec.field, Codec.optField]

instance : Codec PartyEvent where
  enc
    | .partyRegistered e => .object [("PartyRegistered", Codec.enc e)]
    | .partyUpdated e => .object [("PartyUpdated", Codec.enc e)]
    | .partySuspended e => .object [("PartySuspended", Codec.enc e)]
  dec := Codec.variant [
    ("PartyRegistered", fun body => PartyEvent.partyRegistered <$> Codec.dec body),
    ("PartyUpdated", fun body => PartyEvent.partyUpdated <$> Codec.dec body),
    ("PartySuspended", fun body => PartyEvent.partySuspended <$> Codec.dec body)]
  dec_enc e := by cases e <;> simp [Codec.variant]

instance Party.instEvent : Event Party.aggregate.Event :=
  inferInstanceAs (Event PartyEvent)

instance Party.instSerde : Serde Party.aggregate.Event :=
  inferInstanceAs (Serde PartyEvent)

end Serde

end ForgeErp
