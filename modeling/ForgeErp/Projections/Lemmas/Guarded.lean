import ForgeErp.Projections.Impl.Guarded
import ForgeErp.Projections.Lemmas.Rebuild

/-!
This module contains the specification of the guarded projections: an envelope either moves the
cursor of its stream and absorbs one event, or leaves the projection as it is.
-/

namespace ForgeErp

theorem InMemoryTenantStore.get_upsert {K V : Type} [DecidableEq K]
    (store : InMemoryTenantStore K V) (t t' : TenantId) (k k' : K) (v : V)
    : (store.upsert t k v).get t' k' = if t' = t ∧ k' = k then some v else store.get t' k' := by
  unfold InMemoryTenantStore.upsert InMemoryTenantStore.get
  simp only [KeyMap.get_insert, Prod.mk.injEq]

namespace ProjectionWith

variable {K R X : Type}

@[simp]
theorem getCursor_withData (self : ProjectionWith K R X) (data : InMemoryTenantStore K R × X)
    (key : StreamKey)
    : (self.withData data).getCursor key = self.getCursor key := rfl

@[simp]
theorem getCursor_updateCursor_self (self : ProjectionWith K R X) (key : StreamKey) (n : Nat)
    : (self.updateCursor key n).getCursor key = n :=
  self.toProjection.getCursor_updateCursor_self key n

@[simp]
theorem getCursor_updateCursor_ne (self : ProjectionWith K R X) {key key' : StreamKey} (n : Nat)
    (h : key' ≠ key) : (self.updateCursor key n).getCursor key' = self.getCursor key' :=
  self.toProjection.getCursor_updateCursor_ne n h

@[simp]
theorem data_updateCursor (self : ProjectionWith K R X) (key : StreamKey) (n : Nat)
    : (self.updateCursor key n).data = self.data := rfl

@[simp]
theorem data_withData (self : ProjectionWith K R X) (data : InMemoryTenantStore K R × X)
    : (self.withData data).data = data := rfl

end ProjectionWith

namespace GuardedProjection

variable {K R X E : Type} [Codec E] (P : GuardedProjection K R X E)

structure Carries (envelope : EventEnvelope JsonValue) (ev : E) : Prop where
  type_eq : envelope.aggregateType = P.aggregateType
  payload : Codec.dec envelope.payload = .ok ev
  tenant : P.tenantOf ev = envelope.tenantId
  checked : P.checkId ev envelope.aggregateId = .ok ()

structure Accepts (st : ProjectionWith K R X) (envelope : EventEnvelope JsonValue) (ev : E)
    : Prop where
  carries : P.Carries envelope ev
  gate : View.gate (st.getCursor envelope.key) envelope.sequenceNumber = .accept

def write (now : DateTime) (self : ProjectionWith K R X) (envelope : EventEnvelope JsonValue)
    (ev : E)
    : ProjectionWith K R X :=
  (self.withData (P.update now self.data envelope.key ev)).updateCursor envelope.key
    envelope.sequenceNumber

omit [Codec E] in
theorem getCursor_write (now : DateTime) (self : ProjectionWith K R X)
    (envelope : EventEnvelope JsonValue) (ev : E) (key : StreamKey)
    : (P.write now self envelope ev).getCursor key
        =
      if key = envelope.key then envelope.sequenceNumber else self.getCursor key := by
  unfold write
  split
  . next h => rw [h, ProjectionWith.getCursor_updateCursor_self]
  . next h => rw [ProjectionWith.getCursor_updateCursor_ne _ _ h, ProjectionWith.getCursor_withData]

theorem Carries.unique {P : GuardedProjection K R X E} {envelope : EventEnvelope JsonValue}
    {ev ev' : E} (h : P.Carries envelope ev) (h' : P.Carries envelope ev') : ev = ev' := by
  have := h.payload
  rw [h'.payload] at this
  cases this
  rfl

theorem Carries.accepts {P : GuardedProjection K R X E} {self : ProjectionWith K R X}
    {envelope : EventEnvelope JsonValue} {ev : E} (h : P.Carries envelope ev)
    (hnext : envelope.sequenceNumber = self.getCursor envelope.key + 1)
    : P.Accepts self envelope ev := by
  refine ⟨h, ?_⟩
  rw [View.gate_eq_accept_iff]
  omega

theorem applyEnvelope_of_accepts {now : DateTime} {self : ProjectionWith K R X}
    {envelope : EventEnvelope JsonValue} {ev : E} (h : P.Accepts self envelope ev)
    : P.applyEnvelope now self envelope = (.ok (), P.write now self envelope ev) := by
  have hgate := h.gate
  rw [View.gate_eq_accept_iff] at hgate
  unfold applyEnvelope
  rw [if_neg (by simp [h.carries.type_eq])]
  dsimp only
  rw [if_neg (by omega), if_neg (by omega), if_neg (by omega)]
  simp only [h.carries.payload, h.carries.tenant, h.carries.checked, ne_eq, not_true_eq_false,
    ↓reduceIte]
  rfl

theorem applyEnvelope_of_not_accepts {now : DateTime} {self : ProjectionWith K R X}
    {envelope : EventEnvelope JsonValue} (h : ∀ ev, ¬ P.Accepts self envelope ev)
    : (P.applyEnvelope now self envelope).2 = self := by
  unfold applyEnvelope
  split
  . rfl
  . next htype =>
    dsimp only
    split
    . rfl
    . split
      . rfl
      . split
        . rfl
        . next hzero hle hgap =>
          split
          . rfl
          . next ev hdec =>
            split
            . rfl
            . next htenant =>
              split
              . rfl
              . next hcheck =>
                -- every check has been passed
                exfalso
                apply h ev
                refine ⟨⟨by simpa using htype, hdec, by simpa using htenant, hcheck⟩, ?_⟩
                rw [View.gate_eq_accept_iff]
                omega

theorem applyEnvelope_of_le {now : DateTime} {self : ProjectionWith K R X}
    {envelope : EventEnvelope JsonValue} {ev : E} (h : P.Carries envelope ev)
    (hpos : 1 ≤ envelope.sequenceNumber)
    (hle : envelope.sequenceNumber ≤ self.getCursor envelope.key + 1)
    : P.applyEnvelope now self envelope
        =
      (.ok (), if envelope.sequenceNumber = self.getCursor envelope.key + 1 then
          P.write now self envelope ev
        else
          self) := by
  split
  . next hnext =>
    apply P.applyEnvelope_of_accepts
    apply h.accepts hnext
  . next hknown =>
    unfold applyEnvelope
    rw [if_neg (by simp [h.type_eq])]
    dsimp only
    rw [if_neg (by omega), if_pos (by omega)]

theorem deliver_cons (self : ProjectionWith K R X) (d : DateTime × EventEnvelope JsonValue)
    (ds : List (DateTime × EventEnvelope JsonValue))
    : P.deliver self (d :: ds) = P.deliver (P.applyEnvelope d.1 self d.2).2 ds := rfl

section Applied

/--
The deliveries that were not refused or known already: those that moved a cursor.
-/
def applied (self : ProjectionWith K R X) (ds : List (DateTime × EventEnvelope JsonValue))
    : List (DateTime × EventEnvelope JsonValue) :=
  match ds with
  | [] => []
  | d :: ds =>
    let next := (P.applyEnvelope d.1 self d.2).2
    if next.getCursor d.2.key = self.getCursor d.2.key then
      applied next ds
    else
      d :: applied next ds

def absorb (data : InMemoryTenantStore K R × X) (d : DateTime × EventEnvelope JsonValue)
    : InMemoryTenantStore K R × X :=
  match (Codec.dec d.2.payload : Except String E) with
  | .ok ev => P.update d.1 data d.2.key ev
  | .error _ => data

theorem applied_cons_of_accepts {self : ProjectionWith K R X}
    {d : DateTime × EventEnvelope JsonValue} {ev : E}
    (ds : List (DateTime × EventEnvelope JsonValue)) (h : P.Accepts self d.2 ev)
    : P.applied self (d :: ds) = d :: P.applied (P.write d.1 self d.2 ev) ds := by
  have hgate := h.gate
  rw [View.gate_eq_accept_iff] at hgate
  rw [applied, P.applyEnvelope_of_accepts h, if_neg]
  simp only [write, ProjectionWith.getCursor_updateCursor_self]
  omega

theorem applied_cons_of_not_accepts {self : ProjectionWith K R X}
    {d : DateTime × EventEnvelope JsonValue} (ds : List (DateTime × EventEnvelope JsonValue))
    (h : ∀ ev, ¬ P.Accepts self d.2 ev)
    : P.applied self (d :: ds) = P.applied self ds := by
  rw [applied, P.applyEnvelope_of_not_accepts h, if_pos rfl]

theorem data_deliver (self : ProjectionWith K R X) (ds : List (DateTime × EventEnvelope JsonValue))
    : (P.deliver self ds).data = (P.applied self ds).foldl P.absorb self.data := by
  induction ds generalizing self with
  | nil => rfl
  | cons d ds ih =>
    rw [deliver_cons, ih]
    by_cases h : ∃ ev, P.Accepts self d.2 ev
    . rcases h with ⟨ev, h⟩
      rw [P.applied_cons_of_accepts ds h, P.applyEnvelope_of_accepts h, List.foldl_cons]
      congr 1
      simp only [absorb, h.carries.payload]
      rfl
    . rw [not_exists] at h
      rw [P.applied_cons_of_not_accepts ds h, P.applyEnvelope_of_not_accepts h]

theorem applied_sublist (self : ProjectionWith K R X)
    (ds : List (DateTime × EventEnvelope JsonValue)) : (P.applied self ds).Sublist ds := by
  induction ds generalizing self with
  | nil => exact .slnil
  | cons d ds ih =>
    unfold applied
    dsimp only
    split
    . exact (ih _).cons d
    . exact (ih _).cons_cons d

theorem applied_increasing (self : ProjectionWith K R X)
    (ds : List (DateTime × EventEnvelope JsonValue))
    : (P.applied self ds).Pairwise (fun a b => a.2.key = b.2.key →
          a.2.sequenceNumber < b.2.sequenceNumber)
      ∧ ∀ d ∈ P.applied self ds, (∃ ev, P.Carries d.2 ev)
          ∧ self.getCursor d.2.key < d.2.sequenceNumber := by
  induction ds generalizing self with
  | nil => simp [applied]
  | cons d ds ih =>
    by_cases h : ∃ ev, P.Accepts self d.2 ev
    . rcases h with ⟨ev, h⟩
      have hgate := h.gate
      rw [View.gate_eq_accept_iff] at hgate
      rw [P.applied_cons_of_accepts ds h]
      have hrest := ih (P.write d.1 self d.2 ev)
      have hlater : ∀ b ∈ P.applied (P.write d.1 self d.2 ev) ds, d.2.key = b.2.key →
          d.2.sequenceNumber < b.2.sequenceNumber := by
        intro b hb hkey
        have := (hrest.2 b hb).2
        rw [← hkey] at this
        simpa [write] using this
      refine ⟨List.pairwise_cons.mpr ⟨hlater, hrest.1⟩, ?_⟩
      intro b hb
      rw [List.mem_cons] at hb
      cases hb with
      | inl hb =>
        subst hb
        exact ⟨⟨ev, h.carries⟩, hgate.1⟩
      | inr hb =>
        refine ⟨(hrest.2 b hb).1, ?_⟩
        by_cases hkey : d.2.key = b.2.key
        . have := hlater b hb hkey
          rw [← hkey]
          omega
        . have := (hrest.2 b hb).2
          rw [write, ProjectionWith.getCursor_updateCursor_ne _ _ (Ne.symm hkey)] at this
          exact this
    . rw [not_exists] at h
      rw [P.applied_cons_of_not_accepts ds h]
      exact ih self

end Applied

theorem deliver_congr {st st' : ProjectionWith K R X} (hdata : st.data = st'.data)
    (hcursor : ∀ key, st.getCursor key = st'.getCursor key)
    (ds : List (DateTime × EventEnvelope JsonValue))
    : (P.deliver st ds).data = (P.deliver st' ds).data := by
  induction ds generalizing st st' with
  | nil => exact hdata
  | cons d ds ih =>
    rw [deliver_cons, deliver_cons]
    by_cases h : ∃ ev, P.Accepts st d.2 ev
    . rcases h with ⟨ev, h⟩
      have h' : P.Accepts st' d.2 ev := ⟨h.carries, hcursor d.2.key ▸ h.gate⟩
      rw [P.applyEnvelope_of_accepts h, P.applyEnvelope_of_accepts h']
      apply ih
      . simp only [write, ProjectionWith.data_updateCursor, ProjectionWith.data_withData, hdata]
      . intro key
        by_cases hkey : key = d.2.key
        . simp [write, hkey]
        . simp [write, hkey, hcursor key]
    . have h' : ∀ ev, ¬ P.Accepts st' d.2 ev := by
        intro ev hev
        exact h ⟨ev, hev.carries, (hcursor d.2.key).symm ▸ hev.gate⟩
      rw [not_exists] at h
      rw [P.applyEnvelope_of_not_accepts h, P.applyEnvelope_of_not_accepts h']
      exact ih hdata hcursor

section Interleaves

def Interleaves (log : List StoredEvent) (envs : List (EventEnvelope JsonValue)) : Prop :=
  ∀ key, envs.filter (fun env => env.key = key)
    = (CursorProjection.streamIn log key).map StoredEvent.toEnvelope

variable {log : List StoredEvent} {envs : List (EventEnvelope JsonValue)}

theorem map_streamIn (log : List StoredEvent) (key : StreamKey)
    : (CursorProjection.streamIn log key).map StoredEvent.toEnvelope
        =
      (log.map StoredEvent.toEnvelope).filter (fun env => env.key = key) := by
  rw [List.filter_map]
  rfl

theorem Interleaves.perm (h : Interleaves log envs)
    : envs.Perm (log.map StoredEvent.toEnvelope) := by
  classical
  rw [List.perm_iff_count]
  intro env
  have hcount : ∀ l : List (EventEnvelope JsonValue),
      (l.filter (fun env' => env'.key = env.key)).count env = l.count env := by
    intro l
    apply List.count_filter
    simp
  rw [← hcount, h env.key, map_streamIn, hcount]

theorem Interleaves.mem {ds : List (DateTime × EventEnvelope JsonValue)}
    (h : Interleaves log (ds.map (·.2))) {d : DateTime × EventEnvelope JsonValue} (hd : d ∈ ds)
    : ∃ e ∈ log, d.2 = e.toEnvelope := by
  have hmem : d.2 ∈ ds.map (·.2) := List.mem_map_of_mem hd
  rw [h.perm.mem_iff, List.mem_map] at hmem
  rcases hmem with ⟨e, he, heq⟩
  exact ⟨e, he, heq.symm⟩

theorem Interleaves.numbered (h : Interleaves log envs)
    (hwf : ∀ key, InMemoryEventStore.WellFormedStream key (CursorProjection.streamIn log key))
    (key : StreamKey)
    : NumberedFrom 1 EventEnvelope.sequenceNumber (envs.filter (fun env => env.key = key)) := by
  rw [h key, NumberedFrom.map_iff]
  exact (hwf key).numbered

theorem interleaves_map (log : List StoredEvent)
    : Interleaves log (log.map StoredEvent.toEnvelope) := by
  intro key
  rw [map_streamIn]

theorem interleaves_insertionSort
    (hwf : ∀ key, InMemoryEventStore.WellFormedStream key (CursorProjection.streamIn log key))
    (hperm : envs.Perm (log.map StoredEvent.toEnvelope))
    : Interleaves log (envs.insertionSort CursorProjection.ReplayOrder) := by
  intro key
  rw [map_streamIn]
  have hlog := (interleaves_map log).numbered hwf key
  have hsorted : ((log.map StoredEvent.toEnvelope).filter (fun env => env.key = key)).Pairwise
      (fun a b => a.sequenceNumber ≤ b.sequenceNumber) := by
    apply hlog.pairwise_lt.imp
    intros
    omega
  have hperm' : ((envs.insertionSort CursorProjection.ReplayOrder).filter
      (fun env => env.key = key)).Perm
        ((log.map StoredEvent.toEnvelope).filter (fun env => env.key = key)) := by
    apply List.Perm.filter
    apply (List.perm_insertionSort _ envs).trans hperm
  apply List.Perm.eq_of_pairwise _ _ hsorted hperm'
  . intro a b ha hb hab hba
    apply hlog.eq_of_mem (hperm'.mem_iff.mp ha) hb
    omega
  . rw [List.pairwise_filter]
    apply (List.pairwise_insertionSort CursorProjection.ReplayOrder envs).imp
    intro a b hab ha hb
    simp only [decide_eq_true_eq] at ha hb
    apply CursorProjection.sequenceNumber_le_of_replayOrder hab
    rw [ha, hb]

end Interleaves

section Replay

def AllOk (self : ProjectionWith K R X) (ds : List (DateTime × EventEnvelope JsonValue)) : Prop :=
  match ds with
  | [] => True
  | d :: ds =>
    (P.applyEnvelope d.1 self d.2).1 = .ok () ∧ AllOk (P.applyEnvelope d.1 self d.2).2 ds

omit [Codec E] in
theorem numbered_write {self : ProjectionWith K R X} {d : DateTime × EventEnvelope JsonValue}
    {ds : List (DateTime × EventEnvelope JsonValue)} (ev : E)
    (hnumbered : ∀ key, NumberedFrom (self.getCursor key + 1) EventEnvelope.sequenceNumber
      (((d :: ds).map (·.2)).filter (fun env => env.key = key)))
    : d.2.sequenceNumber = self.getCursor d.2.key + 1
      ∧ ∀ key, NumberedFrom ((P.write d.1 self d.2 ev).getCursor key + 1)
          EventEnvelope.sequenceNumber ((ds.map (·.2)).filter (fun env => env.key = key)) := by
  have hhead := hnumbered d.2.key
  rw [List.map_cons, List.filter_cons_of_pos (by simp), NumberedFrom.cons_iff] at hhead
  refine ⟨hhead.1, ?_⟩
  intro key
  rw [P.getCursor_write]
  split
  . next hkey =>
    rw [hkey, hhead.1]
    exact hhead.2
  . next hkey =>
    have := hnumbered key
    rw [List.map_cons, List.filter_cons_of_neg (by simpa using Ne.symm hkey)] at this
    exact this

theorem applied_of_numbered {self : ProjectionWith K R X}
    {ds : List (DateTime × EventEnvelope JsonValue)} (hcarries : ∀ d ∈ ds, ∃ ev, P.Carries d.2 ev)
    (hnumbered : ∀ key, NumberedFrom (self.getCursor key + 1) EventEnvelope.sequenceNumber
      ((ds.map (·.2)).filter (fun env => env.key = key)))
    : P.applied self ds = ds ∧ P.AllOk self ds := by
  induction ds generalizing self with
  | nil => exact ⟨rfl, trivial⟩
  | cons d ds ih =>
    rcases hcarries d (by simp) with ⟨ev, hev⟩
    rcases P.numbered_write ev hnumbered with ⟨hseq, hnumbered⟩
    have haccepts := hev.accepts hseq
    have hrest := ih (fun d' hd' => hcarries d' (by simp [hd'])) hnumbered
    rw [P.applied_cons_of_accepts ds haccepts, hrest.1]
    refine ⟨rfl, ?_⟩
    unfold AllOk
    rw [P.applyEnvelope_of_accepts haccepts]
    exact ⟨rfl, hrest.2⟩

/--
What `Q` says of the first `n` events of a stream holds of all that have been delivered, if an event
takes its own stream from one number to the next and leaves the others where they are.
-/
theorem deliver_invariant {self : ProjectionWith K R X}
    {ds : List (DateTime × EventEnvelope JsonValue)}
    {Q : StreamKey → Nat → InMemoryTenantStore K R × X → Prop}
    (hinit : ∀ key, Q key (self.getCursor key) self.data)
    (hcarries : ∀ d ∈ ds, ∃ ev, P.Carries d.2 ev)
    (hnumbered : ∀ key, NumberedFrom (self.getCursor key + 1) EventEnvelope.sequenceNumber
      ((ds.map (·.2)).filter (fun env => env.key = key)))
    (hstep : ∀ d ∈ ds, ∀ ev n data, P.Carries d.2 ev → d.2.sequenceNumber = n + 1 →
      Q d.2.key n data → Q d.2.key (n + 1) (P.update d.1 data d.2.key ev))
    (hframe : ∀ d ∈ ds, ∀ ev key n data, P.Carries d.2 ev → key ≠ d.2.key →
      Q key n data → Q key n (P.update d.1 data d.2.key ev))
    (key : StreamKey)
    : Q key (self.getCursor key + ((ds.map (·.2)).filter (fun env => env.key = key)).length)
        (P.deliver self ds).data := by
  induction ds generalizing self with
  | nil => exact hinit key
  | cons d ds ih =>
    rcases hcarries d (by simp) with ⟨ev, hev⟩
    rcases P.numbered_write ev hnumbered with ⟨hseq, hnumbered⟩
    have hself : (P.write d.1 self d.2 ev).getCursor d.2.key = self.getCursor d.2.key + 1 := by
      rw [P.getCursor_write, if_pos rfl, hseq]
    have hother : ∀ k, k ≠ d.2.key → (P.write d.1 self d.2 ev).getCursor k = self.getCursor k := by
      intro k hk
      rw [P.getCursor_write, if_neg hk]
    have hdata : (P.write d.1 self d.2 ev).data = P.update d.1 self.data d.2.key ev := rfl
    have hnext : ∀ k, Q k ((P.write d.1 self d.2 ev).getCursor k)
      (P.write d.1 self d.2 ev).data := by
      intro k
      rw [hdata]
      by_cases hk : k = d.2.key
      . rw [hk, hself]
        exact hstep d (by simp) ev _ _ hev hseq (hinit d.2.key)
      . rw [hother k hk]
        exact hframe d (by simp) ev k _ _ hev hk (hinit k)
    have hrest := ih hnext (fun d' hd' => hcarries d' (by simp [hd'])) hnumbered
      (fun d' hd' => hstep d' (by simp [hd'])) (fun d' hd' => hframe d' (by simp [hd']))
    rw [deliver_cons, P.applyEnvelope_of_accepts (hev.accepts hseq)]
    by_cases hk : key = d.2.key
    . rw [hk, hself] at hrest
      rw [hk, List.map_cons, List.filter_cons_of_pos (by simp), List.length_cons, Nat.add_comm _ 1,
        ← Nat.add_assoc]
      exact hrest
    . rw [hother key hk] at hrest
      rw [List.map_cons, List.filter_cons_of_neg (by simpa using Ne.symm hk)]
      exact hrest

def withNow (now : Nat → DateTime) (idx : Nat) (envelopes : List (EventEnvelope JsonValue))
    : List (DateTime × EventEnvelope JsonValue) :=
  match envelopes with
  | [] => []
  | env :: envs => (now idx, env) :: withNow now (idx + 1) envs

theorem map_snd_withNow (now : Nat → DateTime) (idx : Nat)
    (envelopes : List (EventEnvelope JsonValue))
    : (withNow now idx envelopes).map (·.2) = envelopes := by
  induction envelopes generalizing idx with
  | nil => rfl
  | cons env envs ih => simp [withNow, ih]

theorem applyAll_of_allOk (now : Nat → DateTime) (idx : Nat) (self : ProjectionWith K R X)
    (envelopes : List (EventEnvelope JsonValue)) (h : P.AllOk self (withNow now idx envelopes))
    : P.applyAll now idx self envelopes
        =
      (.ok (), P.deliver self (withNow now idx envelopes)) := by
  induction envelopes generalizing idx self with
  | nil => rfl
  | cons env envs ih =>
    rcases h with ⟨hok, hrest⟩
    have ih := ih (idx + 1) _ hrest
    unfold applyAll
    rw [withNow, deliver_cons]
    dsimp only at hok ih ⊢
    split
    . next err _ herr =>
      rw [herr] at hok
      cases hok
    . next st hst =>
      rw [hst] at ih ⊢
      exact ih

def cleared (self : ProjectionWith K R X) (envelopes : List (EventEnvelope JsonValue))
    : ProjectionWith K R X :=
  let self := (CursorProjection.tenantsOf envelopes).foldl ProjectionWith.clearTenant self
  { self with side := P.beforeReplay self.side }

theorem foldl_clearTenant (self : ProjectionWith K R X) (tenants : List TenantId)
    : (tenants.foldl ProjectionWith.clearTenant self).side = self.side
      ∧ (∀ key, (tenants.foldl ProjectionWith.clearTenant self).getCursor key
          = if key.tenantId ∈ tenants then 0 else self.getCursor key)
      ∧ ∀ t k, (tenants.foldl ProjectionWith.clearTenant self).store.get t k
          = if t ∈ tenants then none else self.store.get t k := by
  induction tenants generalizing self with
  | nil => simp
  | cons t tenants ih =>
    rcases ih (self.clearTenant t) with ⟨hside, hcursor, hget⟩
    rw [List.foldl_cons]
    refine ⟨hside, ?_, ?_⟩
    . intro key
      rw [hcursor]
      have := self.toProjection.getCursor_clearTenant t key
      by_cases h : key.tenantId = t <;> simp_all [ProjectionWith.clearTenant]
    . intro t' k
      rw [hget]
      have := self.toProjection.get_clearTenant t t' k
      by_cases h : t' = t <;> simp_all [ProjectionWith.clearTenant]

omit [Codec E] in
theorem getCursor_cleared (self : ProjectionWith K R X)
    (envelopes : List (EventEnvelope JsonValue)) (key : StreamKey)
    : (P.cleared self envelopes).getCursor key
        =
      if ∃ env ∈ envelopes, env.tenantId = key.tenantId then 0 else self.getCursor key := by
  have := (foldl_clearTenant self (CursorProjection.tenantsOf envelopes)).2.1 key
  simp only [CursorProjection.mem_tenantsOf] at this
  exact this

omit [Codec E] in
theorem get_cleared (self : ProjectionWith K R X) (envelopes : List (EventEnvelope JsonValue))
    (t : TenantId) (k : K)
    : (P.cleared self envelopes).store.get t k
        =
      if ∃ env ∈ envelopes, env.tenantId = t then none else self.store.get t k := by
  have := (foldl_clearTenant self (CursorProjection.tenantsOf envelopes)).2.2 t k
  simp only [CursorProjection.mem_tenantsOf] at this
  exact this

omit [Codec E] in
theorem side_cleared (self : ProjectionWith K R X) (envelopes : List (EventEnvelope JsonValue))
    : (P.cleared self envelopes).side = P.beforeReplay self.side := by
  unfold cleared
  dsimp only
  rw [(foldl_clearTenant self (CursorProjection.tenantsOf envelopes)).1]

def replayed (now : Nat → DateTime) (envelopes : List (EventEnvelope JsonValue))
    : List (DateTime × EventEnvelope JsonValue) :=
  withNow now 0 (envelopes.insertionSort CursorProjection.ReplayOrder)

theorem rebuildFromScratch_eq {log : List StoredEvent} {envelopes : List (EventEnvelope JsonValue)}
    (hwf : ∀ key, InMemoryEventStore.WellFormedStream key (CursorProjection.streamIn log key))
    (hcarries : ∀ e ∈ log, ∃ ev, P.Carries e.toEnvelope ev)
    (hperm : envelopes.Perm (log.map StoredEvent.toEnvelope)) (now : Nat → DateTime)
    (self : ProjectionWith K R X)
    : P.rebuildFromScratch now self envelopes
        =
      (.ok (), P.deliver (P.cleared self envelopes) (replayed now envelopes))
      ∧ P.applied (P.cleared self envelopes) (replayed now envelopes) = replayed now envelopes
      ∧ Interleaves log ((replayed now envelopes).map (·.2)) := by
  have hinterleaves := interleaves_insertionSort hwf hperm
  have hsnd : (replayed now envelopes).map (·.2)
      = envelopes.insertionSort CursorProjection.ReplayOrder := map_snd_withNow now 0 _
  rw [← hsnd] at hinterleaves
  have hall : P.applied (P.cleared self envelopes) (replayed now envelopes) = replayed now envelopes
      ∧ P.AllOk (P.cleared self envelopes) (replayed now envelopes) := by
    apply P.applied_of_numbered
    . intro d hd
      have hmem : d.2 ∈ (replayed now envelopes).map (·.2) := List.mem_map_of_mem hd
      rw [hinterleaves.perm.mem_iff, List.mem_map] at hmem
      rcases hmem with ⟨e, he, heq⟩
      rw [← heq]
      exact hcarries e he
    . intro key
      have hnumbered := hinterleaves.numbered hwf key
      by_cases htenant : ∃ env ∈ envelopes, env.tenantId = key.tenantId
      . rw [P.getCursor_cleared, if_pos htenant]
        exact hnumbered
      . have hempty : ((replayed now envelopes).map (·.2)).filter (fun env => env.key = key)
            = [] := by
          rw [List.filter_eq_nil_iff]
          intro env henv hkey
          rw [hsnd, List.mem_insertionSort] at henv
          apply htenant
          refine ⟨env, henv, ?_⟩
          simp only [decide_eq_true_eq] at hkey
          rw [← hkey]
          rfl
        rw [hempty]
        exact NumberedFrom.nil
  exact ⟨P.applyAll_of_allOk now 0 _ _ hall.2, hall.1, hinterleaves⟩

end Replay

end GuardedProjection

section Log

variable {E : Type} [Codec E] [Event E]

/--
Any number of streams, numbered and typed as the store does it, each of them `produced`.
-/
structure ProducedLog (produced : StreamKey → List E → Prop) (log : List StoredEvent) : Prop where
  wellFormed : ∀ key, InMemoryEventStore.WellFormedStream key (CursorProjection.streamIn log key)
  produced : ∀ key, ∃ evs, StreamOf (CursorProjection.streamIn log key) evs ∧ produced key evs

def eventsIn (E : Type) [Codec E] (log : List StoredEvent) (key : StreamKey) : List E :=
  (CursorProjection.streamIn log key).filterMap (fun e =>
    (Codec.dec e.payload : Except String E).toOption)

theorem eventsIn_eq {log : List StoredEvent} {key : StreamKey} {evs : List E}
    (h : StreamOf (CursorProjection.streamIn log key) evs) : eventsIn E log key = evs := by
  unfold eventsIn
  generalize CursorProjection.streamIn log key = stream at h
  unfold StreamOf at h
  induction h with
  | nil => rfl
  | @cons e ev stream evs hhead _ ih =>
    have hdec : (Codec.dec e.payload : Except String E) = .ok ev :=
      Serde.fromValue_toValue hhead.payload
    rw [List.filterMap_cons_some (b := ev), ih]
    rw [hdec]
    rfl

theorem ProducedLog.events {produced : StreamKey → List E → Prop} {log : List StoredEvent}
    (h : ProducedLog produced log) (key : StreamKey)
    : produced key (eventsIn E log key)
      ∧ (eventsIn E log key).length = (CursorProjection.streamIn log key).length := by
  rcases h.produced key with ⟨evs, htyped, hproduced⟩
  rw [eventsIn_eq htyped]
  exact ⟨hproduced, htyped.length_eq.symm⟩

theorem ProducedLog.event {produced : StreamKey → List E → Prop} {log : List StoredEvent}
    (h : ProducedLog produced log) {e : StoredEvent} (he : e ∈ log)
    : ∃ ev, 1 ≤ e.sequenceNumber ∧ (eventsIn E log e.key)[e.sequenceNumber - 1]? = some ev
        ∧ Codec.dec e.payload = .ok ev := by
  rcases h.produced e.key with ⟨evs, htyped, hproduced⟩
  have hmem : e ∈ CursorProjection.streamIn log e.key :=
    CursorProjection.mem_streamIn.mpr ⟨he, rfl⟩
  have hnumbered := (h.wellFormed e.key).numbered
  rcases htyped.getElem? (hnumbered.getElem?_of_mem hmem) with ⟨ev, hev, hdec⟩
  rw [eventsIn_eq htyped]
  exact ⟨ev, (hnumbered.mem_bounds hmem).1, hev, hdec⟩

def recorded (aggregateType : String) (key : StreamKey) (n : Nat) (evs : List E)
    : List StoredEvent :=
  match evs with
  | [] => []
  | ev :: evs =>
    {
      eventId := ⟨BitVec.ofNat 128 n⟩
      tenantId := key.tenantId
      aggregateId := key.aggregateId
      aggregateType
      sequenceNumber := n
      eventType := Event.eventType ev
      eventVersion := Event.version ev
      occurredAt := Event.occurredAt ev
      payload := Codec.enc ev
    } :: recorded aggregateType key (n + 1) evs

theorem mem_recorded {aggregateType : String} {key : StreamKey} {n : Nat} {evs : List E}
    {e : StoredEvent} (he : e ∈ recorded aggregateType key n evs)
    : e.key = key ∧ e.aggregateType = aggregateType := by
  induction evs generalizing n with
  | nil => simp [recorded] at he
  | cons ev evs ih =>
    rw [recorded, List.mem_cons] at he
    cases he with
    | inl he => exact he ▸ ⟨rfl, rfl⟩
    | inr he => exact ih he

theorem numberedFrom_recorded (aggregateType : String) (key : StreamKey) (n : Nat) (evs : List E)
    : NumberedFrom n (·.sequenceNumber) (recorded aggregateType key n evs) := by
  induction evs generalizing n with
  | nil => exact NumberedFrom.nil
  | cons ev evs ih =>
    rw [recorded, NumberedFrom.cons_iff]
    exact ⟨rfl, ih (n + 1)⟩

theorem streamOf_recorded (aggregateType : String) (key : StreamKey) (n : Nat) (evs : List E)
    : StreamOf (recorded aggregateType key n evs) evs := by
  induction evs generalizing n with
  | nil => exact .nil
  | cons ev evs ih => exact .cons ⟨rfl, rfl, rfl, rfl⟩ (ih (n + 1))

theorem wellFormed_recorded (aggregateType : String) (key : StreamKey) (evs : List E)
    : InMemoryEventStore.WellFormedStream key (recorded aggregateType key 1 evs) := by
  refine ⟨numberedFrom_recorded aggregateType key 1 evs, fun e he => (mem_recorded he).1, ?_⟩
  intro e he e' he'
  rw [(mem_recorded he).2, (mem_recorded he').2]

theorem streamIn_recorded (aggregateType : String) (key : StreamKey) (evs : List E) (k : StreamKey)
    : CursorProjection.streamIn (recorded aggregateType key 1 evs) k
        =
      if key = k then recorded aggregateType key 1 evs else [] := by
  unfold CursorProjection.streamIn
  split
  . next h =>
    rw [List.filter_eq_self]
    intro e he
    simp [(mem_recorded he).1, h]
  . next h =>
    rw [List.filter_eq_nil_iff]
    intro e he
    simp [(mem_recorded he).1, h]

def recordedLog (aggregateType : String) (streams : List (StreamKey × List E)) : List StoredEvent :=
  streams.flatMap (fun s => recorded aggregateType s.1 1 s.2)

theorem type_recordedLog {aggregateType : String} {streams : List (StreamKey × List E)}
    : ∀ e ∈ recordedLog aggregateType streams, e.aggregateType = aggregateType := by
  intro e he
  rw [recordedLog, List.mem_flatMap] at he
  rcases he with ⟨s, _, he⟩
  exact (mem_recorded he).2

theorem streamIn_recordedLog_of_not_mem {aggregateType : String}
    {streams : List (StreamKey × List E)} {k : StreamKey} (h : k ∉ streams.map (·.1))
    : CursorProjection.streamIn (recordedLog aggregateType streams) k = [] := by
  unfold CursorProjection.streamIn
  rw [List.filter_eq_nil_iff]
  intro e he
  rw [recordedLog, List.mem_flatMap] at he
  rcases he with ⟨s, hs, he⟩
  have : s.1 ≠ k := by
    intro heq
    apply h
    rw [← heq]
    apply List.mem_map_of_mem hs
  simpa [(mem_recorded he).1] using this

theorem streamIn_recordedLog {aggregateType : String} {streams : List (StreamKey × List E)}
    (hkeys : (streams.map (·.1)).Nodup) {k : StreamKey} {evs : List E} (h : (k, evs) ∈ streams)
    : CursorProjection.streamIn (recordedLog aggregateType streams) k
        =
      recorded aggregateType k 1 evs := by
  induction streams with
  | nil => simp at h
  | cons s streams ih =>
    rw [List.map_cons, List.nodup_cons] at hkeys
    have happend : CursorProjection.streamIn (recordedLog aggregateType (s :: streams)) k
        = CursorProjection.streamIn (recorded aggregateType s.1 1 s.2) k
          ++ CursorProjection.streamIn (recordedLog aggregateType streams) k := by
      unfold CursorProjection.streamIn recordedLog
      rw [List.flatMap_cons, List.filter_append]
    rw [happend, streamIn_recorded]
    rw [List.mem_cons] at h
    cases h with
    | inl h =>
      subst h
      rw [if_pos rfl, streamIn_recordedLog_of_not_mem hkeys.1, List.append_nil]
    | inr h =>
      have hne : s.1 ≠ k := by
        intro heq
        apply hkeys.1
        rw [heq]
        exact List.mem_map_of_mem h
      rw [if_neg hne, List.nil_append, ih hkeys.2 h]

theorem eventsIn_recordedLog {aggregateType : String} {streams : List (StreamKey × List E)}
    (hkeys : (streams.map (·.1)).Nodup) {k : StreamKey} {evs : List E} (h : (k, evs) ∈ streams)
    : eventsIn E (recordedLog aggregateType streams) k = evs := by
  apply eventsIn_eq
  rw [streamIn_recordedLog hkeys h]
  exact streamOf_recorded aggregateType k 1 evs

theorem producedLog_recordedLog {produced : StreamKey → List E → Prop} {aggregateType : String}
    {streams : List (StreamKey × List E)} (hkeys : (streams.map (·.1)).Nodup)
    (hproduced : ∀ s ∈ streams, produced s.1 s.2) (hnil : ∀ key, produced key [])
    : ProducedLog produced (recordedLog aggregateType streams) := by
  have hstream : ∀ k, CursorProjection.streamIn (recordedLog aggregateType streams) k = []
      ∨ ∃ evs, produced k evs ∧ CursorProjection.streamIn (recordedLog aggregateType streams) k
          = recorded aggregateType k 1 evs := by
    intro k
    by_cases hk : k ∈ streams.map (·.1)
    . right
      rw [List.mem_map] at hk
      rcases hk with ⟨s, hs, rfl⟩
      exact ⟨s.2, hproduced s hs, streamIn_recordedLog hkeys hs⟩
    . left
      exact streamIn_recordedLog_of_not_mem hk
  constructor
  . intro k
    rcases hstream k with h | ⟨evs, _, h⟩
    . rw [h]
      exact ⟨NumberedFrom.nil, by simp, by simp⟩
    . rw [h]
      exact wellFormed_recorded aggregateType k evs
  . intro k
    rcases hstream k with h | ⟨evs, hevs, h⟩
    . rw [h]
      exact ⟨[], .nil, hnil k⟩
    . rw [h]
      exact ⟨evs, streamOf_recorded aggregateType k 1 evs, hevs⟩

end Log

end ForgeErp
