import ForgeErp.Domain.Lemmas.Inventory
import ForgeErp.Projections.Impl.StockPath
import ForgeErp.Projections.Lemmas.Valuation

/-!
This module contains the verification of the stock path. Only the sum of `handle_adjust` can leave
64 bits: whatever it lets through fits wherever the same events are added up again.
-/

namespace ForgeErp

theorem addI64_eq_some_iff {overflowChecks : Bool} {a b sum : Int64}
    : addI64 overflowChecks a b = some sum
        ↔
      sum = a + b
        ∧ (overflowChecks = true →
          Int64.minValue.toInt ≤ a.toInt + b.toInt ∧ a.toInt + b.toInt ≤ Int64.maxValue.toInt) := by
  unfold addI64
  dsimp only
  split
  . next h =>
    simp only [Bool.and_eq_true, Bool.or_eq_true, decide_eq_true_eq] at h
    constructor
    . intro hnone
      cases hnone
    . rintro ⟨_, hfits⟩
      have := hfits h.1
      omega
  . next h =>
    simp only [Bool.and_eq_true, Bool.or_eq_true, decide_eq_true_eq, not_and, not_or] at h
    rw [Option.some.injEq, eq_comm]
    constructor
    . rintro rfl
      refine ⟨rfl, ?_⟩
      intro hchecks
      have := h hchecks
      omega
    . intro hsum
      exact hsum.1

namespace CursorProjection

variable {K R E : Type} [DecidableEq K] [Codec E] {P : CursorProjection K R E}
  {modifyIn : R → E → Option R} {fresh : AggregateId} {self : Projection K R}
  {envelope : EventEnvelope JsonValue}

-- The checked build does what the unchecked one does until the row it changes overflows.
theorem applyEnvelopeIn_outcome
    (h : ∀ row ev, modifyIn row ev = none ∨ modifyIn row ev = some (P.modify row ev))
    : P.applyEnvelopeIn modifyIn fresh self envelope = some (P.applyEnvelope fresh self envelope)
      ∨ (P.applyEnvelopeIn modifyIn fresh self envelope = none
          ∧ ∃ ev, P.Accepts self envelope ev
              ∧ modifyIn ((P.view self envelope.key).row.getD (P.vacant fresh ev)) ev = none) := by
  unfold applyEnvelopeIn applyEnvelope
  split
  . exact Or.inl rfl
  . next htype =>
    rw [not_not] at htype
    dsimp only
    split
    . exact Or.inl rfl
    . next hpos =>
      split
      . exact Or.inl rfl
      . next hnew =>
        split
        . exact Or.inl rfl
        . next hgap =>
          have hgate : View.gate (self.getCursor envelope.key) envelope.sequenceNumber
            = .accept := by
            rw [View.gate_eq_accept_iff]
            omega
          cases hdec : (Codec.dec envelope.payload : Except String E) with
          | error err => exact Or.inl rfl
          | ok ev =>
            dsimp only
            split
            . exact Or.inl rfl
            . next htenant =>
              split
              . exact Or.inl rfl
              . next haggregate =>
                rw [not_not] at htenant haggregate
                have hcarries : P.Carries envelope ev := ⟨htype, hdec, htenant, haggregate⟩
                rcases
                  h ((self.store.get envelope.tenantId (P.idOf ev)).getD (P.vacant fresh ev)) ev
                  with hnone | hsome
                . rw [hnone]
                  refine Or.inr ⟨rfl, ev, ⟨hcarries, hgate⟩, ?_⟩
                  unfold view EventEnvelope.key
                  dsimp only
                  rw [hcarries.symm_id]
                  exact hnone
                . refine Or.inl ?_
                  rw [hsome]

end CursorProjection

namespace InventoryItem

-- The stock an event leads to, as a build with or without overflow checks computes it.
def stockIn (overflowChecks : Bool) (stock : Int64) (ev : InventoryEvent) : Option Int64 :=
  match ev with
  | .itemCreated _ => some 0
  | .stockAdjusted e => addI64 overflowChecks stock e.delta

def Fits (stock : Int64) (ev : InventoryEvent) : Prop :=
  ∃ sum, stockIn true stock ev = some sum ∧ 0 ≤ sum.toInt

theorem applyIn_eq (overflowChecks : Bool) (item : InventoryItem) (ev : InventoryEvent)
    : item.applyIn overflowChecks ev
        =
      (stockIn overflowChecks item.stock ev).map (fun _ => item.apply ev) := by
  cases ev with
  | itemCreated e => rfl
  | stockAdjusted e =>
    unfold applyIn stockIn
    dsimp only
    cases h : addI64 overflowChecks item.stock e.delta with
    | none => rfl
    | some sum =>
      rw [(addI64_eq_some_iff.mp h).1]
      rfl

theorem Fits.stockIn_eq {item : InventoryItem} {ev : InventoryEvent} (h : Fits item.stock ev)
    (overflowChecks : Bool)
    : stockIn overflowChecks item.stock ev = some (item.apply ev).stock
      ∧ 0 ≤ (item.apply ev).stock.toInt := by
  rcases h with ⟨sum, hsum, hnonneg⟩
  cases ev with
  | itemCreated e => exact ⟨rfl, Int.le_refl 0⟩
  | stockAdjusted e =>
    rcases addI64_eq_some_iff.mp hsum with ⟨rfl, hfits⟩
    exact ⟨addI64_eq_some_iff.mpr ⟨rfl, fun _ => hfits rfl⟩, hnonneg⟩

-- The stock before the next event of a stream has room for it.
structure Sound (id : InventoryItemId) (evs : List InventoryEvent) : Prop where
  nonneg : ∀ n, 0 ≤ (after id evs n).stock.toInt
  fits : ∀ n ev, evs[n]? = some ev → Fits (after id evs n).stock ev

theorem sound_nil (id : InventoryItemId) : Sound id [] := by
  constructor
  . intro n
    cases n with
    | zero => exact Int.le_refl 0
    | succ n => exact Int.le_refl 0
  . intro n ev hev
    cases hev

theorem Sound.concat {id : InventoryItemId} {evs : List InventoryEvent} {ev : InventoryEvent}
    (h : Sound id evs) (hfits : Fits (evs.foldl apply (empty id)).stock ev)
    : Sound id (evs ++ [ev]) := by
  constructor
  . intro n
    rw [after_concat]
    split
    . exact h.nonneg n
    . exact (hfits.stockIn_eq true).2
  . intro n ev' hev
    by_cases hlt : n < evs.length
    . rw [List.getElem?_append_left hlt] at hev
      rw [after_concat, if_pos (Nat.le_of_lt hlt)]
      exact h.fits n ev' hev
    . have hn : n = evs.length := by
        rw [List.getElem?_eq_some_iff] at hev
        have := hev.1
        rw [List.length_append, List.length_singleton] at this
        omega
      subst hn
      rw [List.getElem?_concat_length, Option.some.injEq] at hev
      rw [after_concat, if_pos (Nat.le_refl _), ← hev]
      unfold after
      rw [List.take_length]
      exact hfits

-- `handle_adjust` gets as far as the sum, and the sum leaves 64 bits.
def Overflows (overflowChecks : Bool) (item : InventoryItem) (cmd : AdjustStock) : Prop :=
  item.created = true ∧ item.tenantId = some cmd.tenantId ∧ item.id = cmd.itemId ∧ cmd.delta ≠ 0
  ∧ addI64 overflowChecks item.stock cmd.delta = none

theorem handleAdjustIn_outcome (overflowChecks : Bool) (item : InventoryItem) (cmd : AdjustStock)
    : (item.handleAdjustIn overflowChecks cmd = some (item.handleAdjust cmd)
        ∧ ¬ Overflows overflowChecks item cmd)
      ∨ (item.handleAdjustIn overflowChecks cmd = none ∧ Overflows overflowChecks item cmd) := by
  unfold handleAdjustIn handleAdjust
  split
  . next hunborn =>
    refine Or.inl ⟨rfl, ?_⟩
    rintro ⟨hcreated, _⟩
    simp [hcreated] at hunborn
  . next hcreated =>
    have hcreated : item.created = true := by simpa using hcreated
    have htenant := ensureTenant_eq_ok_iff hcreated cmd.tenantId
    have hid : item.ensureItemId cmd.itemId = .ok () ↔ item.id = cmd.itemId := by
      unfold ensureItemId
      split
      . next hne => simp [show ¬ item.id = cmd.itemId from hne]
      . next heq => simp [not_not.mp heq]
    cases hensured : item.ensureTenant cmd.tenantId with
    | error err =>
      refine Or.inl ⟨rfl, ?_⟩
      rintro ⟨_, heq, _⟩
      rw [htenant.mpr heq] at hensured
      cases hensured
    | ok _ =>
      cases hensured' : item.ensureItemId cmd.itemId with
      | error err =>
        refine Or.inl ⟨rfl, ?_⟩
        rintro ⟨_, _, heq, _⟩
        rw [hid.mpr heq] at hensured'
        cases hensured'
      | ok _ =>
        dsimp only
        split
        . next hzero => exact Or.inl ⟨rfl, fun h => h.2.2.2.1 hzero⟩
        . next hdelta =>
          cases hsum : addI64 overflowChecks item.stock cmd.delta with
          | none =>
            exact Or.inr ⟨rfl, hcreated, htenant.mp hensured, hid.mp hensured', hdelta, hsum⟩
          | some sum =>
            refine Or.inl ⟨?_, ?_⟩
            . rw [(addI64_eq_some_iff.mp hsum).1]
              dsimp only
              split
              . rfl
              . rfl
            . rintro ⟨_, _, _, _, hnone⟩
              rw [hsum] at hnone
              cases hnone

-- An accepted command leads to one event, and the stock has room for it.
theorem handleIn_eq_ok {overflowChecks : Bool} {item : InventoryItem} {command : InventoryCommand}
    {decided : List InventoryEvent} (hnonneg : 0 ≤ item.stock.toInt)
    (h : item.handleIn overflowChecks command = some (.ok decided))
    : ∃ ev, decided = [ev] ∧ Fits item.stock ev := by
  cases command with
  | createItem cmd =>
    rcases handleCreate_eq_ok_iff.mp (Option.some.inj h) with ⟨_, _, rfl⟩
    exact ⟨_, rfl, 0, rfl, Int.le_refl 0⟩
  | adjustStock cmd =>
    rcases item.handleAdjustIn_outcome overflowChecks cmd with hdone | hnone
    . have hok := hdone.1.symm.trans h
      rcases handleAdjust_eq_ok_iff.mp (Option.some.inj hok) with ⟨_, _, _, _, hfits, rfl⟩
      rw [not_add_neg_iff hnonneg] at hfits
      refine ⟨_, rfl, item.stock + cmd.delta, addI64_eq_some_iff.mpr ⟨rfl, fun _ => ?_⟩, ?_⟩
      . refine ⟨Int.le_trans ?_ hfits.1, hfits.2⟩
        decide
      . rw [toInt_add_of_fits hfits.1 hfits.2]
        exact hfits.1
    . have := hnone.1.symm.trans h
      cases this

end InventoryItem

namespace CursorProjection

variable {R : Type}

/--
The rows of the projection carry the stock of the item as their `quantity`.
-/
structure Counts (P : CursorProjection InventoryItemId R InventoryEvent) (quantity : R → Int64)
    (modifyIn : Bool → R → InventoryEvent → Option R) : Prop where
  vacant : ∀ fresh ev, quantity (P.vacant fresh ev) = 0
  modifyIn : ∀ overflowChecks row ev,
    modifyIn overflowChecks row ev
      = (InventoryItem.stockIn overflowChecks (quantity row) ev).map (fun _ => P.modify row ev)
  modify : ∀ (item : InventoryItem) row ev, quantity row = item.stock →
    quantity (P.modify row ev) = (item.apply ev).stock

-- The projection has applied the events of the stream up to its cursor.
def Follows (P : CursorProjection InventoryItemId R InventoryEvent) (quantity : R → Int64)
    (key : StreamKey) (evs : List InventoryEvent) (st : Projection InventoryItemId R) : Prop :=
  (P.view st key).cursor ≤ evs.length
  ∧ ((P.view st key).row.map quantity).getD 0
      = (InventoryItem.after ⟨key.aggregateId⟩ evs (P.view st key).cursor).stock

variable {P : CursorProjection InventoryItemId R InventoryEvent} {quantity : R → Int64}
  {modifyIn : Bool → R → InventoryEvent → Option R} {key : StreamKey} {evs : List InventoryEvent}
  {st : Projection InventoryItemId R}

-- An adjustment of the stock sets the quantity, and nothing else depends on the delta.
theorem Counts.of_set (set : R → Int64 → R) (hvacant : ∀ fresh ev, quantity (P.vacant fresh ev) = 0)
    (hcreated : ∀ overflowChecks row e,
      modifyIn overflowChecks row (.itemCreated e) = some (P.modify row (.itemCreated e))
      ∧ quantity (P.modify row (.itemCreated e)) = 0)
    (hadjusted : ∀ overflowChecks row e,
      modifyIn overflowChecks row (.stockAdjusted e)
        = (addI64 overflowChecks (quantity row) e.delta).map (set row))
    (hmodify : ∀ row e, P.modify row (.stockAdjusted e) = set row (quantity row + e.delta))
    (hquantity : ∀ row sum, quantity (set row sum) = sum)
    : P.Counts quantity modifyIn := by
  refine ⟨hvacant, ?_, ?_⟩
  . intro overflowChecks row ev
    cases ev with
    | itemCreated e => exact (hcreated overflowChecks row e).1
    | stockAdjusted e =>
      rw [hadjusted, hmodify]
      unfold InventoryItem.stockIn
      dsimp only
      cases h : addI64 overflowChecks (quantity row) e.delta with
      | none => rfl
      | some sum =>
        rw [(addI64_eq_some_iff.mp h).1]
        rfl
  . intro item row ev hstock
    cases ev with
    | itemCreated e => exact (hcreated true row e).2
    | stockAdjusted e =>
      rw [hmodify, hquantity, hstock]
      rfl

theorem Counts.getD (h : P.Counts quantity modifyIn) (row : Option R) (fresh : AggregateId)
    (ev : InventoryEvent)
    : quantity (row.getD (P.vacant fresh ev)) = (row.map quantity).getD 0 := by
  cases row with
  | none => exact h.vacant fresh ev
  | some row => rfl

theorem Counts.outcome (h : P.Counts quantity modifyIn) (overflowChecks : Bool) (row : R)
    (ev : InventoryEvent)
    : modifyIn overflowChecks row ev = none
      ∨ modifyIn overflowChecks row ev = some (P.modify row ev) := by
  rw [h.modifyIn]
  cases InventoryItem.stockIn overflowChecks (quantity row) ev with
  | none => exact Or.inl rfl
  | some sum => exact Or.inr rfl

theorem Follows.concat (h : P.Follows quantity key evs st) (ev : InventoryEvent)
    : P.Follows quantity key (evs ++ [ev]) st := by
  rcases h with ⟨hle, hrow⟩
  refine ⟨?_, ?_⟩
  . rw [List.length_append]
    omega
  . rw [InventoryItem.after_concat, if_pos hle]
    exact hrow

variable [TextFormat Uuid] [TextFormat DateTime] {envelope : EventEnvelope JsonValue}
  {ev : InventoryEvent}

-- What the gate lets through is the next event of the stream.
theorem Follows.next (hown : ∃ ev, evs[envelope.sequenceNumber - 1]? = some ev
      ∧ envelope.payload = Codec.enc ev)
    (hfirst : st.getCursor key = 0 → envelope.sequenceNumber ≤ 1) (hkey : envelope.key = key)
    (haccepts : P.Accepts st envelope ev)
    : envelope.sequenceNumber = st.getCursor key + 1 ∧ evs[st.getCursor key]? = some ev := by
  subst hkey
  have hgate := haccepts.gate
  rw [View.gate_eq_accept_iff] at hgate
  have hseq : envelope.sequenceNumber = st.getCursor envelope.key + 1 := by
    omega
  rcases hown with ⟨ev', hev', hpayload⟩
  have hdec := haccepts.carries.payload
  rw [hpayload, Codec.dec_enc] at hdec
  cases hdec
  rw [hseq, Nat.add_sub_cancel] at hev'
  exact ⟨hseq, hev'⟩

theorem Follows.apply (hcounts : P.Counts quantity modifyIn) (h : P.Follows quantity key evs st)
    (hown : envelope.key = key → (∃ ev, evs[envelope.sequenceNumber - 1]? = some ev
      ∧ envelope.payload = Codec.enc ev) ∧ (st.getCursor key = 0 → envelope.sequenceNumber ≤ 1))
    (fresh : AggregateId)
    : P.Follows quantity key evs (P.applyEnvelope fresh st envelope).2 := by
  by_cases haccepts : ∃ ev, P.Accepts st envelope ev
  . rcases haccepts with ⟨ev, haccepts⟩
    by_cases hkey : envelope.key = key
    . rcases Follows.next (hown hkey).1 (hown hkey).2 hkey haccepts with ⟨hseq, hev⟩
      have hview := P.view_applyEnvelope_of_carries fresh st haccepts.carries
      rw [View.feed_of_accept _ haccepts.gate, hkey, hseq] at hview
      unfold Follows
      rw [hview]
      refine ⟨(List.getElem?_eq_some_iff.mp hev).1, ?_⟩
      rw [InventoryItem.after_succ hev]
      apply hcounts.modify
      rw [hcounts.getD]
      exact h.2
    . unfold Follows
      rw [P.view_applyEnvelope_ne fresh st (Ne.symm hkey)]
      exact h
  . rw [P.applyEnvelope_of_not_accepts]
    . exact h
    . intro ev hev
      exact haccepts ⟨ev, hev⟩

-- So is what either build makes of the envelope, unless it panics.
theorem Follows.applyIn (hcounts : P.Counts quantity modifyIn) (h : P.Follows quantity key evs st)
    (hown : envelope.key = key → (∃ ev, evs[envelope.sequenceNumber - 1]? = some ev
      ∧ envelope.payload = Codec.enc ev) ∧ (st.getCursor key = 0 → envelope.sequenceNumber ≤ 1))
    {overflowChecks : Bool} {fresh : AggregateId}
    {result : Except ProjectionError Unit × Projection InventoryItemId R}
    (happlied : P.applyEnvelopeIn (modifyIn overflowChecks) fresh st envelope = some result)
    : P.Follows quantity key evs result.2 := by
  rcases P.applyEnvelopeIn_outcome (hcounts.outcome overflowChecks) with heq | hnone
  . cases heq.symm.trans happlied
    exact h.apply hcounts hown fresh
  . cases hnone.1.symm.trans happlied

theorem Follows.applyEnvelopeIn_eq (hcounts : P.Counts quantity modifyIn)
    (hsound : InventoryItem.Sound ⟨key.aggregateId⟩ evs) (h : P.Follows quantity key evs st)
    (hown : (∃ ev, evs[envelope.sequenceNumber - 1]? = some ev ∧ envelope.payload = Codec.enc ev)
      ∧ (st.getCursor key = 0 → envelope.sequenceNumber ≤ 1))
    (hkey : envelope.key = key) (overflowChecks : Bool) (fresh : AggregateId)
    : P.applyEnvelopeIn (modifyIn overflowChecks) fresh st envelope
        =
      some (P.applyEnvelope fresh st envelope) := by
  rcases P.applyEnvelopeIn_outcome (hcounts.outcome overflowChecks)
      with heq | ⟨_, ev, haccepts, hnone⟩
  . exact heq
  . rcases Follows.next hown.1 hown.2 hkey haccepts with ⟨_, hev⟩
    have hstock := h.2
    have hfits := (hsound.fits _ ev hev).stockIn_eq overflowChecks
    rw [hcounts.modifyIn, hcounts.getD, hkey, hstock, Option.map_eq_none_iff] at hnone
    have := hnone.symm.trans hfits.1
    cases this

end CursorProjection

theorem InventoryStockProjection.counts
    : projection.Counts InventoryReadModel.quantity modifyIn := by
  apply CursorProjection.Counts.of_set fun row quantity => { row with quantity }
  . exact fun _ _ => rfl
  . exact fun _ _ _ => ⟨rfl, rfl⟩
  . intro overflowChecks row e
    unfold modifyIn
    dsimp only
    cases addI64 overflowChecks row.quantity e.delta with
    | none => rfl
    | some sum => rfl
  . exact fun _ _ => rfl
  . exact fun _ _ => rfl

theorem InventoryValuationProjection.counts
    : projection.Counts InventoryValuation.quantity modifyIn := by
  apply CursorProjection.Counts.of_set fun val quantity => { val with quantity }.recalculateValue
  . exact fun _ _ => rfl
  . exact fun _ _ _ => ⟨rfl, rfl⟩
  . intro overflowChecks val e
    unfold modifyIn
    dsimp only
    cases addI64 overflowChecks val.quantity e.delta with
    | none => rfl
    | some sum => rfl
  . exact fun _ _ => rfl
  . exact fun _ _ => rfl

theorem InventoryValuationProjection.follows_setUnitCost {key : StreamKey}
    {evs : List InventoryEvent}
    {st : Projection InventoryItemId InventoryValuation}
    (h : projection.Follows InventoryValuation.quantity key evs st) (tenantId : TenantId)
    (itemId : InventoryItemId) (unitCost : UInt64)
    : projection.Follows InventoryValuation.quantity key evs
        (setUnitCost st tenantId itemId unitCost) := by
  unfold CursorProjection.Follows
  rw [view_setUnitCost]
  split
  . next hkey =>
    have hrow : (projection.view st key).row = st.store.get tenantId itemId := by
      rw [hkey]
      rfl
    have hquantity := h.2
    rw [hrow] at hquantity
    refine ⟨h.1, ?_⟩
    rw [Option.map_map]
    exact hquantity
  . exact h

namespace StockPath

variable {overflowChecks : Bool} {key : StreamKey} {s s' : StockPath}

structure Inv (key : StreamKey) (s : StockPath) : Prop where
  item : s.item = s.history.foldl InventoryItem.apply (.empty ⟨key.aggregateId⟩)
  sound : InventoryItem.Sound ⟨key.aggregateId⟩ s.history
  stock : InventoryStockProjection.projection.Follows InventoryReadModel.quantity key
    s.history s.stock
  valuation : InventoryValuationProjection.projection.Follows
    InventoryValuation.quantity key s.history
    s.valuation

theorem Inv.nonneg (h : Inv key s) : 0 ≤ s.item.stock.toInt := by
  have := h.sound.nonneg s.history.length
  unfold InventoryItem.after at this
  rw [List.take_length, ← h.item] at this
  exact this

theorem execute_eq (h : Inv key s) {command : InventoryCommand} {decided : List InventoryEvent}
    (hhandle : s.item.handleIn overflowChecks command = some (.ok decided))
    : ∃ ev, decided = [ev] ∧ InventoryItem.Fits s.item.stock ev
        ∧ s.execute overflowChecks command
            = some { s with item := s.item.apply ev, history := s.history ++ [ev] } := by
  rcases InventoryItem.handleIn_eq_ok h.nonneg hhandle with ⟨ev, rfl, hfits⟩
  refine ⟨ev, rfl, hfits, ?_⟩
  unfold execute
  rw [hhandle]
  dsimp only
  rw [List.foldlM_cons, InventoryItem.applyIn_eq, (hfits.stockIn_eq overflowChecks).1]
  rfl

theorem Inv.execute (h : Inv key s) {command : InventoryCommand}
    (hstep : s.execute overflowChecks command = some s') : Inv key s' := by
  cases hhandle : s.item.handleIn overflowChecks command with
  | none =>
    unfold StockPath.execute at hstep
    rw [hhandle] at hstep
    cases hstep
  | some answer =>
    cases answer with
    | error err =>
      unfold StockPath.execute at hstep
      rw [hhandle] at hstep
      cases hstep
      exact h
    | ok decided =>
      rcases execute_eq h hhandle with ⟨ev, _, hfits, hexecute⟩
      rw [hexecute] at hstep
      cases hstep
      refine ⟨?_, ?_, h.stock.concat ev, h.valuation.concat ev⟩
      . rw [List.foldl_append, ← h.item]
        rfl
      . apply h.sound.concat
        rw [← h.item]
        exact hfits

-- `handle_adjust` refuses the command before it looks at the stock.
def RefusedUnseen (item : InventoryItem) (cmd : AdjustStock) : Prop :=
  item.created = false ∨ item.tenantId ≠ some cmd.tenantId ∨ item.id ≠ cmd.itemId ∨ cmd.delta = 0

theorem addI64_eq_none_iff {stock delta : Int64} (h : 0 ≤ stock.toInt)
    : addI64 true stock delta = none ↔ ¬ stock.toInt + delta.toInt ≤ Int64.maxValue.toInt := by
  have hmin : Int64.minValue.toInt ≤ stock.toInt + delta.toInt := by
    have := delta.le_toInt
    rw [Int64.toInt_minValue]
    omega
  cases hsum : addI64 true stock delta with
  | none =>
    refine iff_of_true rfl ?_
    intro hle
    rw [addI64_eq_some_iff.mpr ⟨rfl, fun _ => ⟨hmin, hle⟩⟩] at hsum
    cases hsum
  | some sum =>
    refine iff_of_false (by simp) ?_
    rw [not_not]
    exact ((addI64_eq_some_iff.mp hsum).2 rfl).2

theorem answered_iff (h : Inv key s) (cmd : AdjustStock)
    : (∃ answer, s.item.handleAdjustIn true cmd = some answer)
        ↔
      RefusedUnseen s.item cmd
        ∨ s.item.stock.toInt + cmd.delta.toInt ≤ Int64.maxValue.toInt := by
  have hoverflows : ¬ s.item.Overflows true cmd
      ↔
    RefusedUnseen s.item cmd ∨ s.item.stock.toInt + cmd.delta.toInt ≤ Int64.maxValue.toInt := by
    unfold InventoryItem.Overflows RefusedUnseen
    rw [addI64_eq_none_iff h.nonneg]
    simp only [not_and_or, ne_eq, not_not, Bool.not_eq_true, or_assoc]
  rw [← hoverflows]
  rcases s.item.handleAdjustIn_outcome true cmd with ⟨hsome, hnot⟩ | ⟨hnone, hdoes⟩
  . exact iff_of_true ⟨_, hsome⟩ hnot
  . refine iff_of_false ?_ (not_not.mpr hdoes)
    rintro ⟨answer, hanswer⟩
    rw [hnone] at hanswer
    cases hanswer

variable [TextFormat Uuid] [TextFormat DateTime]

theorem Inv.applyToStock (h : Inv key s) {fresh : AggregateId} {envelope : EventEnvelope JsonValue}
    (hown : envelope.key = key → s.Own (s.stock.getCursor key) envelope)
    (hstep : s.applyToStock overflowChecks fresh envelope = some s') : Inv key s' := by
  unfold StockPath.applyToStock at hstep
  rcases Option.map_eq_some_iff.mp hstep with ⟨result, happlied, rfl⟩
  have hfollows := h.stock.applyIn InventoryStockProjection.counts hown happlied
  exact ⟨h.item, h.sound, hfollows, h.valuation⟩

theorem Inv.applyToValuation (h : Inv key s) {fresh : AggregateId}
    {envelope : EventEnvelope JsonValue}
    (hown : envelope.key = key → s.Own (s.valuation.getCursor key) envelope)
    (hstep : s.applyToValuation overflowChecks fresh envelope = some s') : Inv key s' := by
  unfold StockPath.applyToValuation at hstep
  rcases Option.map_eq_some_iff.mp hstep with ⟨result, happlied, rfl⟩
  have hfollows := h.valuation.applyIn InventoryValuationProjection.counts hown happlied
  exact ⟨h.item, h.sound, h.stock, hfollows⟩

theorem inv_step (h : Inv key s) {action : Action} (hok : Admissible key s action)
    (hstep : s.step overflowChecks action = some s') : Inv key s' := by
  cases action with
  | command command => exact h.execute hstep
  | applyToStock fresh envelope => exact h.applyToStock hok hstep
  | applyToValuation fresh envelope => exact h.applyToValuation hok hstep
  | setUnitCost tenantId itemId unitCost =>
    cases hstep
    have hvaluation := InventoryValuationProjection.follows_setUnitCost h.valuation
      tenantId itemId unitCost
    exact ⟨h.item, h.sound, h.stock, hvaluation⟩

theorem inv_of_reachable (hs : (machine overflowChecks key).ReachableUnder (Admissible key) s)
    : Inv key s := by
  apply hs.invariant
  . rintro s ⟨hitem, hhistory, hstock, hvaluation⟩
    have hview : InventoryStockProjection.projection.view s.stock key = ⟨0, none⟩ := by
      unfold CursorProjection.view
      rw [hstock.1, hstock.2]
      rfl
    have hview' : InventoryValuationProjection.projection.view s.valuation key = ⟨0, none⟩ := by
      unfold CursorProjection.view
      rw [hvaluation.1, hvaluation.2]
      rfl
    refine ⟨?_, ?_, ?_, ?_⟩
    . rw [hitem, hhistory]
      rfl
    . rw [hhistory]
      apply InventoryItem.sound_nil
    . unfold CursorProjection.Follows
      rw [hview, hhistory]
      exact ⟨Nat.le_refl 0, rfl⟩
    . unfold CursorProjection.Follows
      rw [hview', hhistory]
      exact ⟨Nat.le_refl 0, rfl⟩
  . intro s action s' h hok hstep
    exact inv_step h hok hstep

/--
A build with overflow checks answers the command and, if it accepts it, also gets through `apply`
and through every envelope of the item's stream that is next for one of the two projections.
-/
structure NoOverflow (key : StreamKey) (s : StockPath) (cmd : AdjustStock) : Prop where
  answered : ∃ answer, s.item.handleAdjustIn true cmd = some answer
  applied : ∀ decided, s.item.handleAdjustIn true cmd = some (.ok decided) →
    ∃ s', s.execute true (.adjustStock cmd) = some s'
  stock : ∀ s' fresh envelope, s.execute true (.adjustStock cmd) = some s' →
    envelope.key = key → s'.Own (s'.stock.getCursor key) envelope →
      ∃ s'', s'.applyToStock true fresh envelope = some s''
  valuation : ∀ s' fresh envelope, s.execute true (.adjustStock cmd) = some s' →
    envelope.key = key → s'.Own (s'.valuation.getCursor key) envelope →
      ∃ s'', s'.applyToValuation true fresh envelope = some s''

theorem noOverflow_iff (overflowChecks : Bool) (key : StreamKey) (s : StockPath)
    (hs : (machine overflowChecks key).ReachableUnder (Admissible key) s) (cmd : AdjustStock)
    : NoOverflow key s cmd
        ↔
      RefusedUnseen s.item cmd
        ∨ s.item.stock.toInt + cmd.delta.toInt ≤ Int64.maxValue.toInt := by
  have h := inv_of_reachable hs
  rw [← answered_iff h]
  constructor
  . intro hno
    exact hno.answered
  . intro hanswered
    refine ⟨hanswered, ?_, ?_, ?_⟩
    . intro decided hok
      have hok : s.item.handleIn true (.adjustStock cmd) = some (.ok decided) := hok
      rcases execute_eq h hok with ⟨ev, _, _, hexecute⟩
      exact ⟨_, hexecute⟩
    . intro s' fresh envelope hexecute hkey hown
      have h' := h.execute hexecute
      unfold StockPath.applyToStock
      rw [h'.stock.applyEnvelopeIn_eq InventoryStockProjection.counts h'.sound hown hkey]
      exact ⟨_, rfl⟩
    . intro s' fresh envelope hexecute hkey hown
      have h' := h.execute hexecute
      unfold StockPath.applyToValuation
      rw [h'.valuation.applyEnvelopeIn_eq InventoryValuationProjection.counts h'.sound hown hkey]
      exact ⟨_, rfl⟩

end StockPath

namespace Bolt

open Concrete StockPath

def shelved : StockPath where
  item := .empty itemId
  history := []
  stock := InventoryStockProjection.new
  valuation := InventoryValuationProjection.new

def counted : StockPath :=
  { shelved with
    item := ((InventoryItem.empty itemId).apply created).apply (adjusted 1)
    history := [created, adjusted 1]
  }

theorem reachable_counted (overflowChecks : Bool)
    : (machine overflowChecks key).ReachableUnder (Admissible key) counted := by
  have hinit : (machine overflowChecks key).ReachableUnder (Admissible key) shelved :=
    .init ⟨rfl, rfl, ⟨rfl, fun _ => rfl⟩, rfl, fun _ => rfl⟩
  have hcommands : ∀ s,
      ∀ action ∈ [Action.command (.createItem create), .command (.adjustStock (adjust 1))],
      Admissible key s action := by
    simp [Admissible]
  apply hinit.run hcommands
  cases overflowChecks with
  | false => rfl
  | true => rfl

-- One piece in stock and `i64::MAX` more.
theorem adjust_overflows
    : (machine true key).ReachableUnder (Admissible key) counted
      ∧ counted.item.handleAdjustIn true (adjust Int64.maxValue) = none
      ∧ ¬ NoOverflow key counted (adjust Int64.maxValue) := by
  have hnone : counted.item.handleAdjustIn true (adjust Int64.maxValue) = none := by
    decide
  refine ⟨reachable_counted true, hnone, ?_⟩
  intro hno
  rcases hno.answered with ⟨answer, hanswer⟩
  rw [hnone] at hanswer
  cases hanswer

theorem noOverflow_iff_bolt
    : NoOverflow key counted (adjust (-1)) ∧ ¬ NoOverflow key counted (adjust Int64.maxValue) := by
  constructor
  . exact (noOverflow_iff true key counted (reachable_counted true) _).mpr (Or.inr (by decide))
  . rw [noOverflow_iff true key counted (reachable_counted true)]
    unfold RefusedUnseen
    decide

end Bolt

end ForgeErp
