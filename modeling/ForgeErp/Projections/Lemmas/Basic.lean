import ForgeErp.EventStore.Lemmas.InMemory
import ForgeErp.Dispatcher.Lemmas.Decide
import ForgeErp.Library.View
import ForgeErp.Projections.Impl.Basic

/-!
This module contains the specification of `applyEnvelope`: a projection is one `View` per stream,
and an envelope is fed to the view of its own stream or leaves the projection as it is.
-/

namespace ForgeErp

namespace Projection

variable {K R : Type}

@[simp]
theorem getCursor_upsert [DecidableEq K] (self : Projection K R) (tenantId : TenantId) (k : K)
    (row : R) (key : StreamKey)
    : (self.upsert tenantId k row).getCursor key = self.getCursor key := rfl

@[simp]
theorem getCursor_updateCursor_self (self : Projection K R) (key : StreamKey) (n : Nat)
    : (self.updateCursor key n).getCursor key = n := by
  unfold getCursor updateCursor CursorTable.getCursor CursorTable.updateCursor
  cases self.cursorStore <;> simp

@[simp]
theorem getCursor_updateCursor_ne (self : Projection K R) {key key' : StreamKey} (n : Nat)
    (h : key' ≠ key) : (self.updateCursor key n).getCursor key' = self.getCursor key' := by
  unfold getCursor updateCursor CursorTable.getCursor CursorTable.updateCursor
  cases self.cursorStore with
  | none => simp [h]
  | some table =>
    have : (key', self.projectionName) ≠ (key, self.projectionName) := by simp [h]
    simp [this]

@[simp]
theorem getCursor_clearTenant (self : Projection K R) (tenantId : TenantId) (key : StreamKey)
    : (self.clearTenant tenantId).getCursor key
        =
      if key.tenantId = tenantId then 0 else self.getCursor key := by
  unfold getCursor clearTenant clearCursors CursorTable.getCursor CursorTable.clearCursors
  cases self.cursorStore with
  | none =>
    simp only [KeyMap.get_retain, Option.map_none]
    by_cases h : key.tenantId = tenantId <;> simp [h]
  | some table =>
    simp only [KeyMap.get_retain, Option.map_some]
    by_cases h : key.tenantId = tenantId <;> simp [h]

@[simp]
theorem get_clearTenant (self : Projection K R) (tenantId t : TenantId) (k : K)
    : (self.clearTenant tenantId).store.get t k
        =
      if t = tenantId then none else self.store.get t k := by
  unfold clearTenant clearCursors InMemoryTenantStore.get InMemoryTenantStore.clearTenant
  simp only [KeyMap.get_retain]
  by_cases h : t = tenantId <;> simp [h]

end Projection

namespace CursorProjection

variable {K R E : Type} (P : CursorProjection K R E)

def view (self : Projection K R) (key : StreamKey) : View R where
  cursor := self.getCursor key
  row := self.store.get key.tenantId (P.id.symm key.aggregateId)

@[simp]
theorem view_new (projectionName : String) (key : StreamKey)
    : P.view (.new projectionName) key = ⟨0, none⟩ := rfl

@[simp]
theorem view_clearTenant (self : Projection K R) (tenantId : TenantId) (key : StreamKey)
    : P.view (self.clearTenant tenantId) key
        =
      if key.tenantId = tenantId then ⟨0, none⟩ else P.view self key := by
  unfold view
  by_cases h : key.tenantId = tenantId <;> simp [h]

variable [DecidableEq K] [Codec E]

-- The envelope carries `ev` and is addressed to the aggregate that `ev` is about.
structure Carries (envelope : EventEnvelope JsonValue) (ev : E) : Prop where
  type_eq : envelope.aggregateType = P.aggregateType
  payload : Codec.dec envelope.payload = .ok ev
  tenant : P.tenantOf ev = envelope.tenantId
  aggregate : P.id (P.idOf ev) = envelope.aggregateId

structure Accepts (st : Projection K R) (envelope : EventEnvelope JsonValue) (ev : E) : Prop where
  carries : P.Carries envelope ev
  gate : View.gate (st.getCursor envelope.key) envelope.sequenceNumber = .accept

def write (fresh : AggregateId) (self : Projection K R) (envelope : EventEnvelope JsonValue)
    (ev : E)
    : Projection K R :=
  let row := (P.view self envelope.key).row
  (self.upsert envelope.tenantId (P.idOf ev)
    (P.modify (row.getD (P.vacant fresh ev)) ev)).updateCursor
    envelope.key envelope.sequenceNumber

inductive ApplyOutcome (fresh : AggregateId) (self : Projection K R)
    (envelope : EventEnvelope JsonValue)
    : Except ProjectionError Unit × Projection K R → Prop where
  | foreign :
      envelope.aggregateType ≠ P.aggregateType →
      ApplyOutcome fresh self envelope (.ok (), self)
  | known :
      View.gate (self.getCursor envelope.key) envelope.sequenceNumber = .ignore →
      ApplyOutcome fresh self envelope (.ok (), self)
  | gap {err : ProjectionError} :
      View.gate (self.getCursor envelope.key) envelope.sequenceNumber = .reject →
      ApplyOutcome fresh self envelope (.error err, self)
  | malformed {err : ProjectionError} :
      (∀ ev, ¬ P.Carries envelope ev) →
      ApplyOutcome fresh self envelope (.error err, self)
  | accepted {ev : E} :
      P.Accepts self envelope ev →
      ApplyOutcome fresh self envelope (.ok (), P.write fresh self envelope ev)

omit [DecidableEq K] in
theorem Carries.symm_id {P : CursorProjection K R E} {envelope : EventEnvelope JsonValue} {ev : E}
    (h : P.Carries envelope ev) : P.id.symm envelope.aggregateId = P.idOf ev := by
  rw [← h.aggregate, Equiv.symm_apply_apply]

theorem applyEnvelope_outcome (fresh : AggregateId) (self : Projection K R)
    (envelope : EventEnvelope JsonValue)
    : P.ApplyOutcome fresh self envelope (P.applyEnvelope fresh self envelope) := by
  unfold applyEnvelope
  split
  . next hforeign => exact .foreign hforeign
  . next htype =>
    simp only [ne_eq, Decidable.not_not] at htype
    dsimp only
    split
    . next hzero =>
      apply ApplyOutcome.gap
      unfold View.gate
      rw [if_pos hzero]
    . next hzero =>
      split
      . next hle =>
        apply ApplyOutcome.known
        unfold View.gate
        rw [if_neg hzero, if_pos hle]
      . next hle =>
        split
        . next hgap =>
          apply ApplyOutcome.gap
          unfold View.gate
          rw [if_neg hzero, if_neg hle, if_pos hgap]
        . next hgap =>
          have hgate : View.gate (self.getCursor envelope.key) envelope.sequenceNumber
              = .accept := by
            unfold View.gate
            rw [if_neg hzero, if_neg hle, if_neg hgap]
          split
          . next err hdec =>
            apply ApplyOutcome.malformed
            intro ev hcarries
            have := hcarries.payload
            rw [hdec] at this
            cases this
          . next ev hdec =>
            have hunique : ∀ ev', P.Carries envelope ev' → ev' = ev := by
              intro ev' hcarries
              have := hcarries.payload
              rw [hdec] at this
              cases this
              rfl
            split
            . next htenant =>
              apply ApplyOutcome.malformed
              intro ev' hcarries
              cases hunique ev' hcarries
              apply htenant hcarries.tenant
            . next htenant =>
              simp only [Decidable.not_not] at htenant
              split
              . next haggregate =>
                apply ApplyOutcome.malformed
                intro ev' hcarries
                cases hunique ev' hcarries
                apply haggregate hcarries.aggregate
              . next haggregate =>
                simp only [Decidable.not_not] at haggregate
                have hcarries : P.Carries envelope ev := ⟨htype, hdec, htenant, haggregate⟩
                have hwrite : P.ApplyOutcome fresh self envelope _ := .accepted ⟨hcarries, hgate⟩
                unfold write view EventEnvelope.key at hwrite
                rw [hcarries.symm_id] at hwrite
                exact hwrite

theorem view_write (fresh : AggregateId) (self : Projection K R)
    {envelope : EventEnvelope JsonValue}
    {ev : E} (h : P.Accepts self envelope ev) (key : StreamKey)
    : P.view (P.write fresh self envelope ev) key
        =
      if key = envelope.key then
        (P.view self key).feed P.modify envelope.sequenceNumber (P.vacant fresh ev) ev
      else
        P.view self key := by
  split
  . next hkey =>
    subst hkey
    have hgate : View.gate (P.view self envelope.key).cursor envelope.sequenceNumber = .accept :=
      h.gate
    rw [View.feed_of_accept P.modify hgate]
    unfold write
    rw [view]
    congr 1
    . simp
    . have := h.carries.symm_id
      simp [Projection.upsert, Projection.updateCursor, InMemoryTenantStore.get,
        InMemoryTenantStore.upsert, EventEnvelope.key, this]
  . next hkey =>
    unfold write view
    congr 1
    . simp [hkey]
    . have hne : (key.tenantId, P.id.symm key.aggregateId) ≠ (envelope.tenantId, P.idOf ev) := by
        intro heq
        apply hkey
        rw [Prod.mk.injEq, ← h.carries.symm_id, P.id.symm.injective.eq_iff] at heq
        cases key
        cases heq
        simp_all [EventEnvelope.key]
      simp [Projection.upsert, Projection.updateCursor, InMemoryTenantStore.get,
        InMemoryTenantStore.upsert, hne]

theorem applyEnvelope_of_not_accepts {fresh : AggregateId} {self : Projection K R}
    {envelope : EventEnvelope JsonValue} (h : ∀ ev, ¬ P.Accepts self envelope ev)
    : (P.applyEnvelope fresh self envelope).2 = self := by
  have houtcome := P.applyEnvelope_outcome fresh self envelope
  generalize P.applyEnvelope fresh self envelope = result at houtcome ⊢
  cases houtcome with
  | foreign => rfl
  | known => rfl
  | gap => rfl
  | malformed => rfl
  | accepted haccepts => exact absurd haccepts (h _)

theorem applyEnvelope_of_accepts {fresh : AggregateId} {self : Projection K R}
    {envelope : EventEnvelope JsonValue} {ev : E} (h : P.Accepts self envelope ev)
    : P.applyEnvelope fresh self envelope = (.ok (), P.write fresh self envelope ev) := by
  have houtcome := P.applyEnvelope_outcome fresh self envelope
  generalize P.applyEnvelope fresh self envelope = result at houtcome ⊢
  cases houtcome with
  | foreign hforeign => exact absurd h.carries.type_eq hforeign
  | known hknown =>
    rw [h.gate] at hknown
    cases hknown
  | gap hgap =>
    rw [h.gate] at hgap
    cases hgap
  | malformed hmalformed => exact absurd h.carries (hmalformed ev)
  | @accepted ev' haccepts =>
    have := haccepts.carries.payload
    rw [h.carries.payload] at this
    cases this
    rfl

theorem applyEnvelope_of_foreign {fresh : AggregateId} {self : Projection K R}
    {envelope : EventEnvelope JsonValue} (h : envelope.aggregateType ≠ P.aggregateType)
    : P.applyEnvelope fresh self envelope = (.ok (), self) := by
  unfold applyEnvelope
  rw [if_pos h]

theorem applyEnvelope_of_known {fresh : AggregateId} {self : Projection K R}
    {envelope : EventEnvelope JsonValue}
    (h : View.gate (self.getCursor envelope.key) envelope.sequenceNumber = .ignore)
    : P.applyEnvelope fresh self envelope = (.ok (), self) := by
  rw [View.gate_eq_ignore_iff] at h
  unfold applyEnvelope
  split
  . rfl
  . dsimp only
    rw [if_neg h.1, if_pos h.2]

theorem view_applyEnvelope_ne (fresh : AggregateId) (self : Projection K R)
    {envelope : EventEnvelope JsonValue} {key : StreamKey} (h : key ≠ envelope.key)
    : P.view (P.applyEnvelope fresh self envelope).2 key = P.view self key := by
  by_cases haccepts : ∃ ev, P.Accepts self envelope ev
  . rcases haccepts with ⟨ev, haccepts⟩
    rw [P.applyEnvelope_of_accepts haccepts, P.view_write fresh self haccepts, if_neg h]
  . rw [P.applyEnvelope_of_not_accepts]
    intro ev hev
    exact haccepts ⟨ev, hev⟩

theorem view_applyEnvelope_of_carries (fresh : AggregateId) (self : Projection K R)
    {envelope : EventEnvelope JsonValue} {ev : E} (h : P.Carries envelope ev)
    : P.view (P.applyEnvelope fresh self envelope).2 envelope.key
        =
      (P.view self envelope.key).feed P.modify envelope.sequenceNumber (P.vacant fresh ev) ev := by
  by_cases hgate : View.gate (self.getCursor envelope.key) envelope.sequenceNumber = .accept
  . have haccepts : P.Accepts self envelope ev := ⟨h, hgate⟩
    rw [P.applyEnvelope_of_accepts haccepts, P.view_write fresh self haccepts, if_pos rfl]
  . rw [P.applyEnvelope_of_not_accepts, View.feed_of_not_accept]
    . exact hgate
    . intro ev' hev'
      apply hgate hev'.gate

theorem applyEnvelope_ok_of_carries {fresh : AggregateId} {self : Projection K R}
    {envelope : EventEnvelope JsonValue} {ev : E} (h : P.Carries envelope ev)
    (hgate : View.gate (self.getCursor envelope.key) envelope.sequenceNumber ≠ .reject)
    : (P.applyEnvelope fresh self envelope).1 = .ok () := by
  have houtcome := P.applyEnvelope_outcome fresh self envelope
  generalize P.applyEnvelope fresh self envelope = result at houtcome ⊢
  cases houtcome with
  | foreign => rfl
  | known => rfl
  | gap hgap => exact absurd hgap hgate
  | malformed hmalformed => exact absurd h (hmalformed ev)
  | accepted => rfl

@[simp]
theorem deliver_nil (self : Projection K R) : P.deliver self [] = self := rfl

theorem deliver_cons (self : Projection K R) (d : AggregateId × EventEnvelope JsonValue)
    (ds : List (AggregateId × EventEnvelope JsonValue))
    : P.deliver self (d :: ds) = P.deliver (P.applyEnvelope d.1 self d.2).2 ds := rfl

theorem deliver_append (self : Projection K R)
    (ds ds' : List (AggregateId × EventEnvelope JsonValue))
    : P.deliver self (ds ++ ds') = P.deliver (P.deliver self ds) ds' := by
  simp [deliver]

/--
A stream of the event store that the projection can read: `evs` are its typed events, and they are
about the aggregate whose stream it is.
-/
structure Feeds [Event E] (key : StreamKey) (stream : List StoredEvent) (evs : List E) : Prop where
  wellFormed : InMemoryEventStore.WellFormedStream key stream
  typed : StreamOf stream evs
  type_eq : ∀ e ∈ stream, e.aggregateType = P.aggregateType
  tenant : ∀ ev ∈ evs, P.tenantOf ev = key.tenantId
  aggregate : ∀ ev ∈ evs, P.id (P.idOf ev) = key.aggregateId

end CursorProjection

theorem CursorProjection.Feeds.carries {K R E : Type} [Codec E] [Event E]
    {P : CursorProjection K R E} {key : StreamKey} {stream : List StoredEvent} {evs : List E}
    (h : P.Feeds key stream evs) {e : StoredEvent} (he : e ∈ stream)
    : ∃ ev, evs[e.sequenceNumber - 1]? = some ev ∧ P.Carries e.toEnvelope ev
        ∧ e.toEnvelope.key = key ∧ 1 ≤ e.sequenceNumber := by
  rcases h.typed.getElem? (h.wellFormed.numbered.getElem?_of_mem he) with ⟨ev, hev, hdec⟩
  have hmem : ev ∈ evs := List.mem_of_getElem? hev
  have hkey : e.toEnvelope.key = key := h.wellFormed.key_eq e he
  refine ⟨ev, hev, ⟨h.type_eq e he, hdec, ?_, ?_⟩, hkey, (h.wellFormed.numbered.mem_bounds he).1⟩
  . rw [h.tenant ev hmem, ← hkey]
    rfl
  . rw [h.aggregate ev hmem, ← hkey]
    rfl

end ForgeErp
