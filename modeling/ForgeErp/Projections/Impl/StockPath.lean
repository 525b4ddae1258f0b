import ForgeErp.Library.Machine
import ForgeErp.Projections.Impl.Members
import ForgeErp.Projections.Impl.Summaries

/-!
This module contains the stock of an item on its way from a command to the two projections that add
it up once more, in a build with or without overflow checks. `none` is the panic of a sum that does
not fit into an `i64`.
-/

namespace ForgeErp

def addI64 (overflowChecks : Bool) (a b : Int64) : Option Int64 :=
  let sum := a.toInt + b.toInt
  if overflowChecks && (sum < Int64.minValue.toInt || Int64.maxValue.toInt < sum) then
    none
  else
    some (a + b)

namespace InventoryItem

variable (overflowChecks : Bool)

def applyIn (self : InventoryItem) (event : InventoryEvent) : Option InventoryItem :=
  match event with
  | .itemCreated e =>
    some { self with
      id := e.itemId
      tenantId := some e.tenantId
      name := e.name
      stock := 0
      created := true
      version := self.version + 1
    }
  | .stockAdjusted e =>
    match addI64 overflowChecks self.stock e.delta with
    | none => none
    | some stock => some { self with stock, version := self.version + 1 }

def handleAdjustIn (self : InventoryItem) (cmd : AdjustStock)
    : Option (Except DomainError (List InventoryEvent)) :=
  if !self.created then
    some (.error .notFound)
  else
    match self.ensureTenant cmd.tenantId with
    | .error err => some (.error err)
    | .ok () =>
      match self.ensureItemId cmd.itemId with
      | .error err => some (.error err)
      | .ok () =>
        if cmd.delta = 0 then
          some (.error (.validation "delta cannot be zero"))
        else
          match addI64 overflowChecks self.stock cmd.delta with
          | none => none
          | some newStock =>
            if newStock < 0 then
              some (.error (.invariantViolation "stock cannot go negative"))
            else
              some (.ok [.stockAdjusted {
                tenantId := cmd.tenantId
                itemId := cmd.itemId
                delta := cmd.delta
                occurredAt := cmd.occurredAt
              }])

def handleIn (self : InventoryItem) (command : InventoryCommand)
    : Option (Except DomainError (List InventoryEvent)) :=
  match command with
  | .createItem cmd => some (self.handleCreate cmd)
  | .adjustStock cmd => self.handleAdjustIn overflowChecks cmd

end InventoryItem

def InventoryStockProjection.modifyIn (overflowChecks : Bool) (rm : InventoryReadModel)
    (ev : InventoryEvent)
    : Option InventoryReadModel :=
  match ev with
  | .itemCreated e => some { itemId := e.itemId, name := e.name, quantity := 0 }
  | .stockAdjusted e =>
    match addI64 overflowChecks rm.quantity e.delta with
    | none => none
    | some quantity => some { rm with quantity }

def InventoryValuationProjection.modifyIn (overflowChecks : Bool) (val : InventoryValuation)
    (ev : InventoryEvent)
    : Option InventoryValuation :=
  match ev with
  | .itemCreated e => some (.new e.itemId e.name)
  | .stockAdjusted e =>
    match addI64 overflowChecks val.quantity e.delta with
    | none => none
    | some quantity => some { val with quantity }.recalculateValue

-- `apply_envelope` when `modifyIn`, the change of the row, may panic. Nothing is written before it.
def CursorProjection.applyEnvelopeIn {K R E : Type} [DecidableEq K] [Codec E]
    (P : CursorProjection K R E) (modifyIn : R → E → Option R) (fresh : AggregateId)
    (self : Projection K R) (envelope : EventEnvelope JsonValue)
    : Option (Except ProjectionError Unit × Projection K R) :=
  if envelope.aggregateType ≠ P.aggregateType then
    some (.ok (), self)
  else
    let seq := envelope.sequenceNumber
    let last := self.getCursor envelope.key
    if seq = 0 then
      some (.error (.nonMonotonicSequence last seq), self)
    else if seq ≤ last then
      some (.ok (), self)
    else if seq ≠ last + 1 ∧ last ≠ 0 then
      some (.error (.nonMonotonicSequence last seq), self)
    else
      match (Codec.dec envelope.payload : Except String E) with
      | .error err => some (.error (.deserialize err), self)
      | .ok ev =>
        if P.tenantOf ev ≠ envelope.tenantId then
          some (.error (.tenantIsolation "event tenant_id does not match envelope tenant_id"), self)
        else if P.id (P.idOf ev) ≠ envelope.aggregateId then
          let idName := P.idName
          some
            (.error (.tenantIsolation s!"event {idName} does not match envelope aggregate_id"), self)
        else
          let row := self.store.get envelope.tenantId (P.idOf ev)
          match modifyIn (row.getD (P.vacant fresh ev)) ev with
          | none => none
          | some row =>
            let self := self.upsert envelope.tenantId (P.idOf ev) row
            some (.ok (), self.updateCursor envelope.key seq)

-- An item with its stream, and the two projections wherever they are in it.
structure StockPath where
  item : InventoryItem
  history : List InventoryEvent
  stock : Projection InventoryItemId InventoryReadModel
  valuation : Projection InventoryItemId InventoryValuation

namespace StockPath

inductive Action where
  | command (command : InventoryCommand)
  | applyToStock (fresh : AggregateId) (envelope : EventEnvelope JsonValue)
  | applyToValuation (fresh : AggregateId) (envelope : EventEnvelope JsonValue)
  | setUnitCost (tenantId : TenantId) (itemId : InventoryItemId) (unitCost : UInt64)

variable [TextFormat Uuid] [TextFormat DateTime] (overflowChecks : Bool)

def execute (s : StockPath) (command : InventoryCommand) : Option StockPath :=
  match s.item.handleIn overflowChecks command with
  | none => none
  | some (.error _) => some s
  | some (.ok decided) =>
    (decided.foldlM (InventoryItem.applyIn overflowChecks) s.item).map fun item =>
      { s with item, history := s.history ++ decided }

def applyToStock (s : StockPath) (fresh : AggregateId) (envelope : EventEnvelope JsonValue)
    : Option StockPath :=
  (InventoryStockProjection.projection.applyEnvelopeIn
    (InventoryStockProjection.modifyIn overflowChecks) fresh s.stock envelope).map fun result =>
      { s with stock := result.2 }

def applyToValuation (s : StockPath) (fresh : AggregateId) (envelope : EventEnvelope JsonValue)
    : Option StockPath :=
  (InventoryValuationProjection.projection.applyEnvelopeIn
    (InventoryValuationProjection.modifyIn overflowChecks) fresh s.valuation envelope).map
      fun result => { s with valuation := result.2 }

def step (s : StockPath) (action : Action) : Option StockPath :=
  match action with
  | .command command => s.execute overflowChecks command
  | .applyToStock fresh envelope => s.applyToStock overflowChecks fresh envelope
  | .applyToValuation fresh envelope => s.applyToValuation overflowChecks fresh envelope
  | .setUnitCost tenantId itemId unitCost =>
    some { s with
      valuation :=
        InventoryValuationProjection.setUnitCost s.valuation tenantId itemId unitCost
    }

-- `key` is where the dispatcher keeps the stream of the item.
def machine (key : StreamKey) : Machine StockPath Action where
  init s :=
    s.item = .empty ⟨key.aggregateId⟩
    ∧ s.history = []
    ∧ (s.stock.store = .new ∧ ∀ key, s.stock.getCursor key = 0)
    ∧ (s.valuation.store = .new ∧ ∀ key, s.valuation.getCursor key = 0)
  step := step overflowChecks

-- The envelope brings the event at its number in the stream of the item, the first one first.
def Own (s : StockPath) (cursor : Nat) (envelope : EventEnvelope JsonValue) : Prop :=
  (∃ ev, s.history[envelope.sequenceNumber - 1]? = some ev ∧ envelope.payload = Codec.enc ev)
  ∧ (cursor = 0 → envelope.sequenceNumber ≤ 1)

-- Envelopes of other streams are arbitrary.
def Admissible (key : StreamKey) (s : StockPath) (action : Action) : Prop :=
  match action with
  | .applyToStock _ envelope =>
    envelope.key = key → s.Own (s.stock.getCursor key) envelope
  | .applyToValuation _ envelope =>
    envelope.key = key → s.Own (s.valuation.getCursor key) envelope
  | _ => True

end StockPath

end ForgeErp
