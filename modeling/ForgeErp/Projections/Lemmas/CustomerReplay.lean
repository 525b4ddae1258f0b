import ForgeErp.Projections.Lemmas.CustomerBalances

/-!
This module contains the rebuild of the customer balances seen as a replay: it starts from the
tenants cleared and nobody registered, and delivers their streams event after event.
-/

namespace ForgeErp

namespace CustomerBalancesProjection

variable [TextFormat Uuid] [TextFormat DateTime]

def Books.replay (s : Books) (es : List (DateTime × StoredEvent)) : Books :=
  es.foldl (fun s d => s.deliver d.1 d.2) s

section Replay

variable {s : Books} {es : List (DateTime × StoredEvent)}

theorem st_replay (s : Books) (es : List (DateTime × StoredEvent))
    : (s.replay es).st = projection.deliver s.st (es.map (fun d => (d.1, d.2.toEnvelope))) := by
  induction es generalizing s with
  | nil => rfl
  | cons d es ih => exact ih (s.deliver d.1 d.2)

def Consecutive (s : Books) (es : List (DateTime × StoredEvent)) : Prop :=
  ∀ key, NumberedFrom (s.seen key + 1) StoredEvent.sequenceNumber
    ((es.map (·.2)).filter (fun e => e.key = key))

theorem Consecutive.cons {d : DateTime × StoredEvent} (h : Consecutive s (d :: es))
    : d.2.sequenceNumber = s.seen d.2.key + 1 ∧ Consecutive (s.deliver d.1 d.2) es := by
  have hhead := h d.2.key
  rw [List.map_cons, List.filter_cons_of_pos (by simp), NumberedFrom.cons_iff] at hhead
  refine ⟨hhead.1, ?_⟩
  intro key
  by_cases hkey : d.2.key = key
  . subst hkey
    have hseen : (s.deliver d.1 d.2).seen d.2.key = s.seen d.2.key + 1 := by
      unfold Books.deliver
      simp only [↓reduceIte]
      omega
    rw [hseen]
    exact hhead.2
  . have hrest := h key
    rw [List.map_cons, List.filter_cons_of_neg (by simpa using hkey)] at hrest
    have hseen : (s.deliver d.1 d.2).seen key = s.seen key := if_neg (Ne.symm hkey)
    rw [hseen]
    exact hrest

theorem replay_invariant {P : Books → Prop} (hinit : P s) (hes : Consecutive s es)
    (hstep : ∀ s, ∀ d ∈ es, P s → d.2.sequenceNumber = s.seen d.2.key + 1 →
      P (s.deliver d.1 d.2))
    : P (s.replay es) := by
  induction es generalizing s with
  | nil => exact hinit
  | cons d es ih =>
    have hcons := hes.cons
    apply ih (hstep s d (by simp) hinit hcons.1) hcons.2
    intro s d' hd'
    exact hstep s d' (by simp [hd'])

theorem seen_replay (hes : Consecutive s es) (key : StreamKey)
    : (s.replay es).seen key
        = s.seen key + ((es.map (·.2)).filter (fun e => e.key = key)).length := by
  induction es generalizing s with
  | nil => rfl
  | cons d es ih =>
    have hcons := hes.cons
    have hreplay : s.replay (d :: es) = (s.deliver d.1 d.2).replay es := rfl
    rw [hreplay, ih hcons.2, List.map_cons]
    by_cases hkey : d.2.key = key
    . have hseen : (s.deliver d.1 d.2).seen key = s.seen key + 1 := by
        unfold Books.deliver
        simp only [hkey, ↓reduceIte]
        rw [hkey] at hcons
        omega
      rw [hseen, List.filter_cons_of_pos (by simpa using hkey), List.length_cons]
      omega
    . have hseen : (s.deliver d.1 d.2).seen key = s.seen key := if_neg (Ne.symm hkey)
      rw [hseen, List.filter_cons_of_neg (by simpa using hkey)]

end Replay

def tenantLog (log : List StoredEvent) (tenants : List TenantId) : List StoredEvent :=
  log.filter (fun e => e.tenantId ∈ tenants)

section Rebuilt

variable {log : List StoredEvent} {s : Books} {tenants : List TenantId}
  {envelopes : List (EventEnvelope JsonValue)} {now : Nat → DateTime}

-- The state a rebuild replays from, seen from the callers' side: nobody is registered.
def blank (s : Books) (envelopes : List (EventEnvelope JsonValue)) : Books where
  st := projection.cleared s.st envelopes
  registered := fun _ => none
  seen := fun key => if ∃ env ∈ envelopes, env.tenantId = key.tenantId then 0 else s.seen key

omit [TextFormat Uuid] [TextFormat DateTime] in
theorem mem_tenantLog {e : StoredEvent}
    : e ∈ tenantLog log tenants ↔ e ∈ log ∧ e.tenantId ∈ tenants := by
  simp [tenantLog]

omit [TextFormat Uuid] [TextFormat DateTime] in
theorem streamIn_tenantLog (key : StreamKey)
    : CursorProjection.streamIn (tenantLog log tenants) key
        =
      if key.tenantId ∈ tenants then CursorProjection.streamIn log key else [] := by
  unfold CursorProjection.streamIn tenantLog
  rw [List.filter_filter]
  split
  . next hmem =>
    apply List.filter_congr
    intro e _
    by_cases hkey : e.key = key
    . have : e.tenantId ∈ tenants := by
        have htenant : e.tenantId = key.tenantId := congrArg StreamKey.tenantId hkey
        rw [htenant]
        exact hmem
      simp [hkey, this]
    . simp [hkey]
  . next hmem =>
    rw [List.filter_eq_nil_iff]
    intro e _
    simp only [Bool.and_eq_true, decide_eq_true_eq, not_and]
    intro hkey htenant
    apply hmem
    have : e.tenantId = key.tenantId := congrArg StreamKey.tenantId hkey
    rw [← this]
    exact htenant

variable (hlog : InvoiceLog log) (htype : ∀ e ∈ log, e.aggregateType = "invoicing.invoice")
  (hperm : envelopes.Perm ((tenantLog log tenants).map StoredEvent.toEnvelope))

omit [TextFormat Uuid] [TextFormat DateTime] in
include hperm in
theorem tenant_iff (t : TenantId)
    : (∃ env ∈ envelopes, env.tenantId = t) ↔ ∃ e ∈ log, e.tenantId = t ∧ t ∈ tenants := by
  constructor
  . rintro ⟨env, henv, rfl⟩
    rw [hperm.mem_iff, List.mem_map] at henv
    rcases henv with ⟨e, he, rfl⟩
    rw [mem_tenantLog] at he
    exact ⟨e, he.1, rfl, he.2⟩
  . rintro ⟨e, he, rfl, ht⟩
    refine ⟨e.toEnvelope, ?_, rfl⟩
    rw [hperm.mem_iff]
    exact List.mem_map_of_mem (mem_tenantLog.mpr ⟨he, ht⟩)

omit [TextFormat Uuid] [TextFormat DateTime] in
theorem exists_stored {L : List StoredEvent} {ds : List (DateTime × EventEnvelope JsonValue)}
    (h : ∀ env ∈ ds.map (·.2), env ∈ L.map StoredEvent.toEnvelope)
    : ∃ es : List (DateTime × StoredEvent),
        es.map (fun d => (d.1, d.2.toEnvelope)) = ds ∧ ∀ d ∈ es, d.2 ∈ L := by
  induction ds with
  | nil => exact ⟨[], rfl, by simp⟩
  | cons d ds ih =>
    rcases ih (fun env henv => h env (by simp [henv])) with ⟨es, hes, hmem⟩
    have hd := h d.2 (by simp)
    rw [List.mem_map] at hd
    rcases hd with ⟨e, he, heq⟩
    refine ⟨(d.1, e) :: es, ?_, ?_⟩
    . rw [List.map_cons, hes, heq]
    . intro d' hd'
      rw [List.mem_cons] at hd'
      cases hd' with
      | inl hd' => exact hd' ▸ he
      | inr hd' => exact hmem d' hd'

include hlog htype hperm in
theorem rebuild_eq_replay
    : ∃ es : List (DateTime × StoredEvent),
        projection.rebuildFromScratch now s.st envelopes
          = (.ok (), ((blank s envelopes).replay es).st)
        ∧ (∀ d ∈ es, d.2 ∈ log ∧ d.2.tenantId ∈ tenants)
        ∧ Consecutive (blank s envelopes) es
        ∧ ∀ key, ((es.map (·.2)).filter (fun e => e.key = key)).length
            = (CursorProjection.streamIn (tenantLog log tenants) key).length := by
  have hwf : ∀ key, InMemoryEventStore.WellFormedStream key
      (CursorProjection.streamIn (tenantLog log tenants) key) := by
    intro key
    rw [streamIn_tenantLog]
    split
    . exact hlog.wellFormed key
    . exact ⟨NumberedFrom.nil, by simp, by simp⟩
  have hcarries : ∀ e ∈ tenantLog log tenants, ∃ ev, projection.Carries e.toEnvelope ev := by
    intro e he
    rcases carries_event hlog htype (mem_tenantLog.mp he).1 with ⟨ev, _, _, hev⟩
    exact ⟨ev, hev⟩
  rcases projection.rebuildFromScratch_eq hwf hcarries hperm now s.st with ⟨heq, _, hinterleaves⟩
  rcases exists_stored (fun env henv => hinterleaves.perm.mem_iff.mp henv) with ⟨es, hes, hmem⟩
  have hstream : ∀ key, ((es.map (·.2)).filter (fun e => e.key = key)).map StoredEvent.toEnvelope
      = (CursorProjection.streamIn (tenantLog log tenants) key).map StoredEvent.toEnvelope := by
    intro key
    rw [← hinterleaves key, ← hes, List.map_map, List.filter_map, List.filter_map, List.map_map]
    rfl
  refine ⟨es, ?_, fun d hd => mem_tenantLog.mp (hmem d hd), ?_, ?_⟩
  . rw [heq, st_replay, hes]
    rfl
  . intro key
    unfold blank
    dsimp only
    split
    . have hnumbered := hinterleaves.numbered hwf key
      rw [hinterleaves key, ← hstream, NumberedFrom.map_iff] at hnumbered
      exact hnumbered
    . next htenant =>
      have hempty : (es.map (·.2)).filter (fun e => e.key = key) = [] := by
        rw [List.filter_eq_nil_iff]
        intro e he hkey
        apply htenant
        rw [tenant_iff hperm]
        rw [List.mem_map] at he
        rcases he with ⟨d, hd, rfl⟩
        have hkey : d.2.key = key := by simpa using hkey
        have htenants := mem_tenantLog.mp (hmem d hd)
        rw [← hkey]
        exact ⟨d.2, htenants.1, rfl, htenants.2⟩
      rw [hempty]
      exact NumberedFrom.nil
  . intro key
    have := congrArg List.length (hstream key)
    rw [List.length_map, List.length_map] at this
    exact this

variable {es : List (DateTime × StoredEvent)}

include hlog hperm in
theorem seen_rebuilt (hes : Consecutive (blank s envelopes) es)
    (hlength : ∀ key, ((es.map (·.2)).filter (fun e => e.key = key)).length
      = (CursorProjection.streamIn (tenantLog log tenants) key).length)
    (hcomplete : ∀ key, s.seen key = (eventsIn InvoiceEvent log key).length) (key : StreamKey)
    : ((blank s envelopes).replay es).seen key = s.seen key := by
  rw [seen_replay hes, hlength, streamIn_tenantLog]
  have hevents := (ProducedLog.events hlog key).2
  unfold blank
  dsimp only
  split
  . next htenant =>
    rw [tenant_iff hperm] at htenant
    rcases htenant with ⟨_, _, _, hmem⟩
    rw [if_pos hmem, hcomplete key, hevents]
    omega
  . next htenant =>
    split
    . next hmem =>
      have hempty : CursorProjection.streamIn log key = [] := by
        unfold CursorProjection.streamIn
        rw [List.filter_eq_nil_iff]
        intro e he hkey
        have hkey : e.key = key := by simpa using hkey
        apply htenant
        rw [tenant_iff hperm]
        exact ⟨e, he, congrArg StreamKey.tenantId hkey, hmem⟩
      rw [hempty]
      rfl
    . rfl

end Rebuilt

end CustomerBalancesProjection

end ForgeErp
