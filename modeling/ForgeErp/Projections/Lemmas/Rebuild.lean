import ForgeErp.Projections.Lemmas.Delivery

/-!
This module contains the verification of `rebuildFromScratch`. The sorted list and the log itself
are both in order for every stream, and everything that is applied in order ends up with the same
views.
-/

namespace ForgeErp

namespace CursorProjection

variable {K R E : Type} (P : CursorProjection K R E)

theorem mem_dedup {α : Type} [DecidableEq α] {l : List α} {a : α} : a ∈ dedup l ↔ a ∈ l := by
  fun_induction dedup l with
  | case1 => simp
  | case2 => simp
  | case3 b l ih =>
    rw [ih]
    simp
  | case4 b c l hne ih =>
    rw [List.mem_cons, ih]
    simp

theorem mem_tenantsOf {envelopes : List (EventEnvelope JsonValue)} {t : TenantId}
    : t ∈ tenantsOf envelopes ↔ ∃ env ∈ envelopes, env.tenantId = t := by
  unfold tenantsOf
  rw [mem_dedup, List.mem_insertionSort, List.mem_map]

instance : Std.Total ReplayOrder where
  total a b := by
    unfold ReplayOrder
    omega

instance : IsTrans (EventEnvelope JsonValue) ReplayOrder where
  trans a b c := by
    unfold ReplayOrder
    omega

theorem sequenceNumber_le_of_replayOrder {a b : EventEnvelope JsonValue} (h : ReplayOrder a b)
    (hkey : a.key = b.key) : a.sequenceNumber ≤ b.sequenceNumber := by
  unfold EventEnvelope.key at hkey
  rw [StreamKey.mk.injEq] at hkey
  unfold ReplayOrder at h
  rw [hkey.1, hkey.2] at h
  omega

theorem view_clearTenants (st : Projection K R) (tenants : List TenantId) (key : StreamKey)
    : P.view (tenants.foldl Projection.clearTenant st) key
        =
      if key.tenantId ∈ tenants then ⟨0, none⟩ else P.view st key := by
  induction tenants generalizing st with
  | nil => simp
  | cons t tenants ih =>
    rw [List.foldl_cons, ih, view_clearTenant]
    by_cases h : key.tenantId = t <;> simp [h]

theorem view_ext {st st' : Projection K R} {t : TenantId}
    (h : ∀ key : StreamKey, key.tenantId = t → P.view st key = P.view st' key)
    : (∀ k, st.store.get t k = st'.store.get t k)
      ∧ ∀ aggregateId, st.getCursor ⟨t, aggregateId⟩ = st'.getCursor ⟨t, aggregateId⟩ := by
  constructor
  . intro k
    have := congrArg View.row (h ⟨t, P.id k⟩ rfl)
    simpa [view] using this
  . intro aggregateId
    exact congrArg View.cursor (h ⟨t, aggregateId⟩ rfl)

section Typed

variable [Codec E] [Event E]

def Readable (key : StreamKey) (stream : List StoredEvent) : Prop :=
  (∀ e ∈ stream, e.aggregateType ≠ P.aggregateType)
  ∨ ∃ evs, P.Feeds key stream evs ∧ View.Rooted P.modify evs

/--
After `ms`, every readable stream shows the events up to the largest number that occurred in `ms`.
-/
def UpToDate (streams : StreamKey → List StoredEvent) (tenants : TenantId → Prop)
    (ms : List (EventEnvelope JsonValue)) (st : Projection K R) : Prop :=
  ∀ key evs, tenants key.tenantId → P.Feeds key (streams key) evs → View.Rooted P.modify evs →
    ∃ c, Reached EventEnvelope.key EventEnvelope.sequenceNumber ms key c
      ∧ View.Shows P.modify evs c (P.view st key)

theorem upToDate_nil {streams : StreamKey → List StoredEvent} {tenants : TenantId → Prop}
    {st : Projection K R}
    (h : ∀ key : StreamKey, tenants key.tenantId → P.view st key = ⟨0, none⟩)
    : P.UpToDate streams tenants [] st := by
  intro key evs hscope _ _
  rw [h key hscope]
  exact ⟨0, Reached.nil _ _ key, View.Shows.empty P.modify evs⟩

def streamIn (log : List StoredEvent) (key : StreamKey) : List StoredEvent :=
  log.filter (fun e => e.key = key)

theorem mem_streamIn {log : List StoredEvent} {key : StreamKey} {e : StoredEvent}
    : e ∈ streamIn log key ↔ e ∈ log ∧ e.key = key := by
  simp [streamIn]

/--
The events of any number of streams in one list: every stream is numbered and typed as the store
does it, and the streams of the projection's own aggregate type are `produced` and carry the
identifiers of their stream.
-/
structure CompleteLog (produced : StreamKey → List E → Prop) (log : List StoredEvent) : Prop where
  wellFormed : ∀ key, InMemoryEventStore.WellFormedStream key (streamIn log key)
  produced : ∀ key, (∃ e ∈ log, e.key = key ∧ e.aggregateType = P.aggregateType) →
    ∃ evs, StreamOf (streamIn log key) evs
      ∧ produced key evs
      ∧ ∀ ev ∈ evs, P.tenantOf ev = key.tenantId ∧ P.id (P.idOf ev) = key.aggregateId

section Log

variable {P} {produced : StreamKey → List E → Prop} {log : List StoredEvent}

theorem CompleteLog.readable (h : P.CompleteLog produced log)
    (hrooted : ∀ key evs, produced key evs → View.Rooted P.modify evs) (key : StreamKey)
    : P.Readable key (streamIn log key) := by
  by_cases hown : ∃ e ∈ log, e.key = key ∧ e.aggregateType = P.aggregateType
  . right
    rcases h.produced key hown with ⟨evs, htyped, hproduced, hids⟩
    refine ⟨evs, ⟨h.wellFormed key, htyped, ?_, ?_, ?_⟩, hrooted key evs hproduced⟩
    . intro e he
      rcases hown with ⟨e', he', hkey', htype'⟩
      rw [← htype']
      exact (h.wellFormed key).type_eq e he e' (mem_streamIn.mpr ⟨he', hkey'⟩)
    . exact fun ev hev => (hids ev hev).1
    . exact fun ev hev => (hids ev hev).2
  . left
    intro e he htype
    rw [mem_streamIn] at he
    exact hown ⟨e, he.1, he.2, htype⟩

theorem CompleteLog.inOrder (h : P.CompleteLog produced log) {ms : List (EventEnvelope JsonValue)}
    (hmem : ∀ env, env ∈ ms ↔ ∃ e ∈ log, env = e.toEnvelope)
    (hsorted : ms.Pairwise (fun a b => a.key = b.key → a.sequenceNumber ≤ b.sequenceNumber))
    : InOrder EventEnvelope.key EventEnvelope.sequenceNumber ms := by
  apply inOrder_of_sorted _ _ hsorted
  intro m hm i hpos hlt
  rcases (hmem m).mp hm with ⟨e, he, rfl⟩
  have hstream : e ∈ streamIn log e.key := mem_streamIn.mpr ⟨he, rfl⟩
  have hnumbered := (h.wellFormed e.key).numbered
  have hbound := (hnumbered.mem_bounds hstream).2
  have hlt : i < e.sequenceNumber := hlt
  have hget : i - 1 < (streamIn log e.key).length := by omega
  have helem := List.getElem?_eq_getElem hget
  have hnumber := hnumbered.getElem? helem
  have hmem' := List.getElem_mem hget
  generalize (streamIn log e.key)[i - 1] = e' at hnumber hmem'
  rw [mem_streamIn] at hmem'
  refine ⟨e'.toEnvelope, (hmem _).mpr ⟨e', hmem'.1, rfl⟩, hmem'.2, ?_⟩
  have : e'.toEnvelope.sequenceNumber = e'.sequenceNumber := rfl
  omega

theorem CompleteLog.pairwise (h : P.CompleteLog produced log)
    : (log.map StoredEvent.toEnvelope).Pairwise
        (fun a b => a.key = b.key → a.sequenceNumber ≤ b.sequenceNumber) := by
  rw [List.pairwise_map, List.pairwise_iff_forall_sublist]
  intro a b hsub hkey
  have hsub' := hsub.filter (fun e => decide (e.key = a.key))
  have hkey : b.key = a.key := hkey.symm
  simp only [List.filter_cons, hkey, decide_true, ↓reduceIte, List.filter_nil] at hsub'
  have := List.pairwise_iff_forall_sublist.mp (h.wellFormed a.key).numbered.pairwise_lt hsub'
  apply Nat.le_of_lt this

theorem CompleteLog.reached (h : P.CompleteLog produced log) {ms : List (EventEnvelope JsonValue)}
    (hmem : ∀ env, env ∈ ms ↔ ∃ e ∈ log, env = e.toEnvelope) (key : StreamKey)
    : Reached EventEnvelope.key EventEnvelope.sequenceNumber ms key
        (streamIn log key).length := by
  have hnumbered := (h.wellFormed key).numbered
  constructor
  . intro m hm hkey
    rcases (hmem m).mp hm with ⟨e, he, rfl⟩
    have hkey : e.key = key := hkey
    have := (hnumbered.mem_bounds (mem_streamIn.mpr ⟨he, hkey⟩)).2
    have hseq : e.toEnvelope.sequenceNumber = e.sequenceNumber := rfl
    omega
  . cases hlast : (streamIn log key).getLast? with
    | none =>
      left
      rw [List.getLast?_eq_none_iff] at hlast
      rw [hlast]
      rfl
    | some e =>
      right
      have hlen := hnumbered.getLast?
      have he := List.mem_of_getLast? hlast
      rw [hlast, Option.map_some, Option.getD_some] at hlen
      rw [mem_streamIn] at he
      exact ⟨e.toEnvelope, (hmem _).mpr ⟨e, he.1, rfl⟩, he.2, hlen⟩

end Log

end Typed

variable [DecidableEq K] [Codec E]

def AllOk (st : Projection K R) (ds : List (AggregateId × EventEnvelope JsonValue)) : Prop :=
  match ds with
  | [] => True
  | d :: ds =>
    (P.applyEnvelope d.1 st d.2).1 = .ok () ∧ AllOk (P.applyEnvelope d.1 st d.2).2 ds

def withFresh (fresh : Nat → AggregateId) (idx : Nat) (envelopes : List (EventEnvelope JsonValue))
    : List (AggregateId × EventEnvelope JsonValue) :=
  match envelopes with
  | [] => []
  | env :: envs => (fresh idx, env) :: withFresh fresh (idx + 1) envs

theorem map_snd_withFresh (fresh : Nat → AggregateId) (idx : Nat)
    (envelopes : List (EventEnvelope JsonValue))
    : (withFresh fresh idx envelopes).map Prod.snd = envelopes := by
  induction envelopes generalizing idx with
  | nil => rfl
  | cons env envs ih => simp [withFresh, ih]

theorem applyAll_eq_of_allOk (fresh : Nat → AggregateId) (idx : Nat) (st : Projection K R)
    (envelopes : List (EventEnvelope JsonValue)) (h : P.AllOk st (withFresh fresh idx envelopes))
    : P.applyAll fresh idx st envelopes
        =
      (.ok (), P.deliver st (withFresh fresh idx envelopes)) := by
  induction envelopes generalizing idx st with
  | nil => rfl
  | cons env envs ih =>
    rcases h with ⟨hok, hrest⟩
    have ih := ih (idx + 1) _ hrest
    unfold applyAll
    rw [withFresh, deliver_cons]
    dsimp only at hok ih ⊢
    split
    . next err _ herr =>
      rw [herr] at hok
      cases hok
    . next st' hst' =>
      rw [hst'] at ih ⊢
      exact ih

theorem view_deliver_of_ne {ds : List (AggregateId × EventEnvelope JsonValue)} {key : StreamKey}
    (h : ∀ d ∈ ds, d.2.key ≠ key ∨ d.2.aggregateType ≠ P.aggregateType) (st : Projection K R)
    : P.view (P.deliver st ds) key = P.view st key := by
  induction ds generalizing st with
  | nil => rfl
  | cons d ds ih =>
    rw [deliver_cons, ih (fun d' hd' => h d' (by simp [hd']))]
    cases h d (by simp) with
    | inl hkey => exact P.view_applyEnvelope_ne _ _ (Ne.symm hkey)
    | inr htype => rw [P.applyEnvelope_of_foreign htype]

theorem view_deliver_foreign {log : List StoredEvent}
    {ds : List (AggregateId × EventEnvelope JsonValue)}
    (hds : ∀ d ∈ ds, ∃ e ∈ log, d.2 = e.toEnvelope)
    {key : StreamKey} (hkey : ∀ e ∈ streamIn log key, e.aggregateType ≠ P.aggregateType)
    (st : Projection K R) : P.view (P.deliver st ds) key = P.view st key := by
  apply P.view_deliver_of_ne
  intro d hd
  rcases hds d hd with ⟨e, he, henv⟩
  by_cases hsame : d.2.key = key
  . right
    rw [henv] at hsame ⊢
    exact hkey e (mem_streamIn.mpr ⟨he, hsame⟩)
  . exact Or.inl hsame

variable [Event E]

section InOrder

variable {streams : StreamKey → List StoredEvent} {tenants : TenantId → Prop}

theorem upToDate_concat (hreadable : ∀ key, P.Readable key (streams key))
    {pre : List (EventEnvelope JsonValue)} {st : Projection K R}
    (hst : P.UpToDate streams tenants pre st) (fresh : AggregateId) {e : StoredEvent}
    (he : e ∈ streams e.key) (htenant : tenants e.tenantId)
    (hprev : ∀ i, 1 ≤ i → i < e.sequenceNumber →
      ∃ m ∈ pre, m.key = e.key ∧ m.sequenceNumber = i)
    : (P.applyEnvelope fresh st e.toEnvelope).1 = .ok ()
      ∧ P.UpToDate streams tenants (pre ++ [e.toEnvelope])
          (P.applyEnvelope fresh st e.toEnvelope).2 := by
  have hkey : e.toEnvelope.key = e.key := rfl
  have hseq : e.toEnvelope.sequenceNumber = e.sequenceNumber := rfl
  -- the number is at most one ahead of what the stream shows
  have hnext : ∀ c, Reached EventEnvelope.key EventEnvelope.sequenceNumber pre e.key c →
      e.sequenceNumber ≤ c + 1 := by
    intro c hc
    by_cases hfirst : e.sequenceNumber ≤ 1
    . omega
    . rcases hprev (e.sequenceNumber - 1) (by omega) (by omega) with ⟨m, hm, hmkey, hmseq⟩
      have := hc.le m hm hmkey
      omega
  constructor
  . cases hreadable e.key with
    | inl hforeign =>
      have htype : e.toEnvelope.aggregateType ≠ P.aggregateType := hforeign e he
      rw [P.applyEnvelope_of_foreign htype]
    | inr hfeeds =>
      rcases hfeeds with ⟨evs, hfeeds, hrooted⟩
      rcases hst e.key evs htenant hfeeds hrooted with ⟨c, hreached, hshows⟩
      rcases hfeeds.carries he with ⟨ev, -, hcarries, -, hpos⟩
      apply P.applyEnvelope_ok_of_carries hcarries
      have hcursor : st.getCursor e.key = c := hshows.cursor
      have := hnext c hreached
      rw [hkey, hseq, hcursor]
      unfold View.gate
      rw [if_neg (by omega)]
      split
      . simp
      . rw [if_neg (by omega)]
        simp
  . intro key evs hscope hfeeds hrooted
    rcases hst key evs hscope hfeeds hrooted with ⟨c, hreached, hshows⟩
    refine ⟨_, hreached.concat _ _ e.toEnvelope, ?_⟩
    by_cases hsame : e.key = key
    . subst hsame
      rcases hfeeds.carries he with ⟨ev, hev, hcarries, -, hpos⟩
      have hview := P.view_applyEnvelope_of_carries fresh st hcarries
      have hle := hnext c hreached
      have hfeed := hshows.feed P.modify hrooted (P.vacant fresh ev) hpos hev (Or.inl hle)
      rw [hkey, hseq] at hview ⊢
      rw [hview]
      by_cases hnew : e.sequenceNumber = c + 1
      . rw [if_pos hnew] at hfeed
        rw [if_pos ⟨rfl, by omega⟩]
        rw [hnew] at hfeed ⊢
        exact hfeed
      . rw [if_neg hnew] at hfeed
        rw [if_neg (by omega)]
        exact hfeed
    . rw [if_neg (by rw [hkey]; simp [hsame]), P.view_applyEnvelope_ne fresh st]
      . exact hshows
      . rw [hkey]
        exact Ne.symm hsame

theorem deliver_upToDate (hreadable : ∀ key, P.Readable key (streams key))
    {pre : List (EventEnvelope JsonValue)} {st : Projection K R}
    {ds : List (AggregateId × EventEnvelope JsonValue)}
    (hst : P.UpToDate streams tenants pre st)
    (hds : ∀ d ∈ ds, ∃ e ∈ streams d.2.key, d.2 = e.toEnvelope)
    (htenants : ∀ d ∈ ds, tenants d.2.tenantId)
    (horder : InOrder EventEnvelope.key EventEnvelope.sequenceNumber (pre ++ ds.map Prod.snd))
    : P.AllOk st ds ∧ P.UpToDate streams tenants (pre ++ ds.map Prod.snd) (P.deliver st ds) := by
  induction ds generalizing pre st with
  | nil => exact ⟨trivial, by simpa using hst⟩
  | cons d ds ih =>
    rcases d with ⟨fresh, envelope⟩
    rcases hds _ List.mem_cons_self with ⟨e, he, henv⟩
    dsimp only at he henv
    subst henv
    have htenant : tenants e.tenantId := htenants _ List.mem_cons_self
    have hstep := P.upToDate_concat hreadable hst fresh he htenant
      (horder pre e.toEnvelope (ds.map Prod.snd) rfl)
    have hsplit : pre ++ ((fresh, e.toEnvelope) :: ds).map Prod.snd
        = (pre ++ [e.toEnvelope]) ++ ds.map Prod.snd := by simp
    rw [hsplit] at horder ⊢
    rcases ih hstep.2 (fun d hd => hds d (by simp [hd])) (fun d hd => htenants d (by simp [hd]))
      horder with ⟨hok, hfinal⟩
    exact ⟨⟨hstep.1, hok⟩, hfinal⟩

end InOrder

/--
What a rebuild is for: it succeeds, tenants that occur in the list get the rows and cursors of a
live application to an empty projection, all others keep theirs.
-/
def RebuildsAs (fresh : Nat → AggregateId) (st : Projection K R)
    (envelopes : List (EventEnvelope JsonValue)) (live : Projection K R) : Prop :=
  (P.rebuildFromScratch fresh st envelopes).1 = .ok ()
  ∧ ∀ t,
    let rebuilt := (P.rebuildFromScratch fresh st envelopes).2
    let expected := if ∃ env ∈ envelopes, env.tenantId = t then live else st
    (∀ k, rebuilt.store.get t k = expected.store.get t k)
    ∧ ∀ aggregateId, rebuilt.getCursor ⟨t, aggregateId⟩ = expected.getCursor ⟨t, aggregateId⟩

section Log

variable {P} {produced : StreamKey → List E → Prop} {log : List StoredEvent}

theorem CompleteLog.live_upToDate (h : P.CompleteLog produced log)
    (hrooted : ∀ key evs, produced key evs → View.Rooted P.modify evs)
    {live : List (AggregateId × EventEnvelope JsonValue)}
    (hlive : live.map Prod.snd = log.map StoredEvent.toEnvelope) (name : String)
    : P.UpToDate (streamIn log) (fun _ => True) (log.map StoredEvent.toEnvelope)
        (P.deliver (.new name) live) := by
  have hinit : P.UpToDate (streamIn log) (fun _ => True) [] (.new name) :=
    P.upToDate_nil (fun key _ => P.view_new name key)
  have hmem : ∀ env, env ∈ log.map StoredEvent.toEnvelope ↔ ∃ e ∈ log, env = e.toEnvelope := by
    intro env
    simp only [List.mem_map, eq_comm]
  rw [← hlive]
  refine (P.deliver_upToDate (h.readable hrooted) hinit ?_ (fun _ _ => trivial) ?_).2
  . intro d hd
    have hd' : d.2 ∈ live.map Prod.snd := List.mem_map_of_mem hd
    rw [hlive, hmem] at hd'
    rcases hd' with ⟨e, he, henv⟩
    exact ⟨e, mem_streamIn.mpr ⟨he, by rw [henv]; rfl⟩, henv⟩
  . rw [List.nil_append, hlive]
    apply h.inOrder hmem h.pairwise

variable {envelopes : List (EventEnvelope JsonValue)}

def rebuildCalls (fresh : Nat → AggregateId) (envelopes : List (EventEnvelope JsonValue))
    : List (AggregateId × EventEnvelope JsonValue) :=
  withFresh fresh 0 (envelopes.insertionSort ReplayOrder)

theorem mem_of_mem_rebuildCalls {fresh : Nat → AggregateId}
    {d : AggregateId × EventEnvelope JsonValue} (h : d ∈ rebuildCalls fresh envelopes)
    : d.2 ∈ envelopes := by
  rw [← List.mem_insertionSort ReplayOrder,
    ← map_snd_withFresh fresh 0 (envelopes.insertionSort ReplayOrder)]
  apply List.mem_map_of_mem h

theorem CompleteLog.rebuild_upToDate (h : P.CompleteLog produced log)
    (hrooted : ∀ key evs, produced key evs → View.Rooted P.modify evs)
    (hmem : ∀ env, env ∈ envelopes ↔ ∃ e ∈ log, env = e.toEnvelope)
    (fresh : Nat → AggregateId) (st : Projection K R)
    : P.rebuildFromScratch fresh st envelopes
        =
      (.ok (), P.deliver ((tenantsOf envelopes).foldl Projection.clearTenant st)
        (rebuildCalls fresh envelopes))
      ∧ P.UpToDate (streamIn log) (fun t => ∃ env ∈ envelopes, env.tenantId = t)
          (envelopes.insertionSort ReplayOrder) (P.rebuildFromScratch fresh st envelopes).2 := by
  have hinit : P.UpToDate (streamIn log) (fun t => ∃ env ∈ envelopes, env.tenantId = t) []
      ((tenantsOf envelopes).foldl Projection.clearTenant st) := by
    apply P.upToDate_nil
    intro key hkey
    rw [P.view_clearTenants, if_pos (mem_tenantsOf.mpr hkey)]
  have hsnd : (rebuildCalls fresh envelopes).map Prod.snd = envelopes.insertionSort ReplayOrder :=
    map_snd_withFresh fresh 0 _
  have hsorted := List.pairwise_insertionSort ReplayOrder envelopes
  have hfinal : P.AllOk ((tenantsOf envelopes).foldl Projection.clearTenant st)
      (rebuildCalls fresh envelopes)
      ∧ P.UpToDate (streamIn log) (fun t => ∃ env ∈ envelopes, env.tenantId = t)
          ([] ++ (rebuildCalls fresh envelopes).map Prod.snd)
          (P.deliver ((tenantsOf envelopes).foldl Projection.clearTenant st)
            (rebuildCalls fresh envelopes)) := by
    apply P.deliver_upToDate (h.readable hrooted) hinit
    . intro d hd
      rcases (hmem d.2).mp (mem_of_mem_rebuildCalls hd) with ⟨e, he, henv⟩
      exact ⟨e, mem_streamIn.mpr ⟨he, by rw [henv]; rfl⟩, henv⟩
    . intro d hd
      exact ⟨d.2, mem_of_mem_rebuildCalls hd, rfl⟩
    . rw [List.nil_append, hsnd]
      apply h.inOrder
      . intro env
        rw [List.mem_insertionSort, hmem]
      . exact hsorted.imp (fun h hkey => sequenceNumber_le_of_replayOrder h hkey)
  rw [List.nil_append, hsnd] at hfinal
  have heq := P.applyAll_eq_of_allOk fresh 0 _ _ hfinal.1
  refine ⟨heq, ?_⟩
  unfold rebuildFromScratch
  dsimp only
  rw [heq]
  exact hfinal.2

end Log

theorem rebuildsAs_live {produced : StreamKey → List E → Prop}
    (hrooted : ∀ key evs, produced key evs → View.Rooted P.modify evs)
    {log : List StoredEvent} (hlog : P.CompleteLog produced log)
    {envelopes : List (EventEnvelope JsonValue)}
    (hmem : ∀ env, env ∈ envelopes ↔ ∃ e ∈ log, env = e.toEnvelope)
    {live : List (AggregateId × EventEnvelope JsonValue)}
    (hlive : live.map Prod.snd = log.map StoredEvent.toEnvelope)
    (name : String) (fresh : Nat → AggregateId) (st : Projection K R)
    : P.RebuildsAs fresh st envelopes (P.deliver (.new name) live) := by
  have hlived := hlog.live_upToDate hrooted hlive name
  rcases hlog.rebuild_upToDate hrooted hmem fresh st with ⟨heq, hrebuilt⟩
  rw [heq] at hrebuilt
  unfold RebuildsAs
  rw [heq]
  refine ⟨rfl, ?_⟩
  intro t
  dsimp only
  apply P.view_ext
  intro key hkey
  subst hkey
  split
  . next htenant =>
    cases hlog.readable hrooted key with
    | inl hforeign =>
      rw [P.view_deliver_foreign _ hforeign, P.view_deliver_foreign _ hforeign, P.view_clearTenants,
        if_pos (mem_tenantsOf.mpr htenant), P.view_new]
      . intro d hd
        have hd' : d.2 ∈ live.map Prod.snd := List.mem_map_of_mem hd
        rw [hlive, List.mem_map] at hd'
        rcases hd' with ⟨e, he, henv⟩
        exact ⟨e, he, henv.symm⟩
      . intro d hd
        apply (hmem d.2).mp (mem_of_mem_rebuildCalls hd)
    | inr hfeeds =>
      rcases hfeeds with ⟨evs, hfeeds, hroot⟩
      rcases hrebuilt key evs htenant hfeeds hroot with ⟨c, hc, hshows⟩
      rcases hlived key evs trivial hfeeds hroot with ⟨c', hc', hshows'⟩
      -- both have seen the whole stream
      have hmem' : ∀ env, env ∈ log.map StoredEvent.toEnvelope ↔ ∃ e ∈ log, env = e.toEnvelope := by
        intro env
        simp only [List.mem_map, eq_comm]
      have hlength := hc.unique _ _ (hlog.reached (by simpa using hmem) key)
      have hlength' := hc'.unique _ _ (hlog.reached hmem' key)
      rw [hlength] at hshows
      rw [hlength'] at hshows'
      apply hshows.eq P.modify hshows'
  . next htenant =>
    have hother : ∀ d ∈ rebuildCalls fresh envelopes,
        d.2.key ≠ key ∨ d.2.aggregateType ≠ P.aggregateType := by
      intro d hd
      left
      rintro rfl
      exact htenant ⟨d.2, mem_of_mem_rebuildCalls hd, rfl⟩
    rw [P.view_deliver_of_ne hother, P.view_clearTenants, if_neg]
    rw [mem_tenantsOf]
    exact htenant

def RebuildMatchesLive (produced : StreamKey → List E → Prop) (new : Projection K R) : Prop :=
  ∀ log envelopes live fresh st,
    P.CompleteLog produced log →
    (∀ env, env ∈ envelopes ↔ ∃ e ∈ log, env = e.toEnvelope) →
    live.map Prod.snd = log.map StoredEvent.toEnvelope →
    P.RebuildsAs fresh st envelopes (P.deliver new live)

end CursorProjection

-- In each of the aggregates only a creating event can come first, and it sets the whole row.

theorem SalesOrdersProjection.rooted_of_produced {ok : SalesOrderCommand → Prop} {id : SalesOrderId}
    {evs : List SalesOrderEvent} (h : SalesOrder.aggregate.Produced ok (SalesOrder.empty id) evs)
    : View.Rooted projection.modify evs := by
  intro ev hev r r'
  rcases h.head hev with ⟨command, rest, -, hhandle⟩
  rcases SalesOrder.handle_empty hhandle with ⟨e, rfl⟩
  rfl

theorem PurchaseOrdersProjection.rooted_of_produced {ok : PurchaseOrderCommand → Prop}
    {id : PurchaseOrderId} {evs : List PurchaseOrderEvent}
    (h : PurchaseOrder.aggregate.Produced ok (PurchaseOrder.empty id) evs)
    : View.Rooted projection.modify evs := by
  intro ev hev r r'
  rcases h.head hev with ⟨command, rest, -, hhandle⟩
  rcases PurchaseOrder.handle_empty hhandle with ⟨e, rfl⟩
  rfl

theorem PartyDirectoryProjection.rooted_of_produced {ok : PartyCommand → Prop} {id : PartyId}
    {evs : List PartyEvent} (h : Party.aggregate.Produced ok (Party.empty id) evs)
    : View.Rooted projection.modify evs := by
  intro ev hev r r'
  rcases h.head hev with ⟨command, rest, -, hhandle⟩
  rcases Party.handle_empty hhandle with ⟨e, rfl⟩
  rfl

theorem InvoicesProjection.rooted_of_produced {ok : InvoiceCommand → Prop} {id : InvoiceId}
    {evs : List InvoiceEvent} (h : Invoice.aggregate.Produced ok (Invoice.empty id) evs)
    : View.Rooted projection.modify evs := by
  intro ev hev r r'
  rcases h.head hev with ⟨command, rest, -, hhandle⟩
  rcases Invoice.handle_empty hhandle with ⟨e, rfl⟩
  rfl

theorem InvoiceAgingProjection.rooted_of_produced {ok : InvoiceCommand → Prop} {id : InvoiceId}
    {evs : List InvoiceEvent} (h : Invoice.aggregate.Produced ok (Invoice.empty id) evs)
    : View.Rooted projection.modify evs := by
  intro ev hev r r'
  rcases h.head hev with ⟨command, rest, -, hhandle⟩
  rcases Invoice.handle_empty hhandle with ⟨e, rfl⟩
  rfl

def InventoryItem.Streams (key : StreamKey) (evs : List InventoryEvent) : Prop :=
  aggregate.Produced (fun _ => True) (empty ⟨key.aggregateId⟩) evs

def SalesOrder.Streams (key : StreamKey) (evs : List SalesOrderEvent) : Prop :=
  aggregate.Produced (fun _ => True) (empty ⟨key.aggregateId⟩) evs

def PurchaseOrder.Streams (key : StreamKey) (evs : List PurchaseOrderEvent) : Prop :=
  aggregate.Produced (fun _ => True) (empty ⟨key.aggregateId⟩) evs

def Party.Streams (key : StreamKey) (evs : List PartyEvent) : Prop :=
  aggregate.Produced (fun _ => True) (empty ⟨key.aggregateId⟩) evs

def Invoice.Streams (key : StreamKey) (evs : List InvoiceEvent) : Prop :=
  aggregate.Produced (fun _ => True) (empty ⟨key.aggregateId⟩) evs

theorem rebuild_matches_live [TextFormat Uuid] [TextFormat DateTime]
    : InventoryStockProjection.projection.RebuildMatchesLive InventoryItem.Streams
        InventoryStockProjection.new
      ∧ PartyDirectoryProjection.projection.RebuildMatchesLive Party.Streams
          PartyDirectoryProjection.new
      ∧ InvoicesProjection.projection.RebuildMatchesLive Invoice.Streams InvoicesProjection.new
      ∧ InvoiceAgingProjection.projection.RebuildMatchesLive Invoice.Streams
          InvoiceAgingProjection.new
      ∧ SalesOrdersProjection.projection.RebuildMatchesLive SalesOrder.Streams
          SalesOrdersProjection.new
      ∧ PurchaseOrdersProjection.projection.RebuildMatchesLive PurchaseOrder.Streams
          PurchaseOrdersProjection.new := by
  refine ⟨?_, ?_, ?_, ?_, ?_, ?_⟩
  . intro log envelopes live fresh st hlog hmem hlive
    apply CursorProjection.rebuildsAs_live _ _ hlog hmem hlive
    exact fun _ _ h => InventoryStockProjection.rooted_of_produced h
  . intro log envelopes live fresh st hlog hmem hlive
    apply CursorProjection.rebuildsAs_live _ _ hlog hmem hlive
    exact fun _ _ h => PartyDirectoryProjection.rooted_of_produced h
  . intro log envelopes live fresh st hlog hmem hlive
    apply CursorProjection.rebuildsAs_live _ _ hlog hmem hlive
    exact fun _ _ h => InvoicesProjection.rooted_of_produced h
  . intro log envelopes live fresh st hlog hmem hlive
    apply CursorProjection.rebuildsAs_live _ _ hlog hmem hlive
    exact fun _ _ h => InvoiceAgingProjection.rooted_of_produced h
  . intro log envelopes live fresh st hlog hmem hlive
    apply CursorProjection.rebuildsAs_live _ _ hlog hmem hlive
    exact fun _ _ h => SalesOrdersProjection.rooted_of_produced h
  . intro log envelopes live fresh st hlog hmem hlive
    apply CursorProjection.rebuildsAs_live _ _ hlog hmem hlive
    exact fun _ _ h => PurchaseOrdersProjection.rooted_of_produced h

namespace Bolt

open Concrete

theorem streamIn_stream (k : StreamKey)
    : CursorProjection.streamIn stream k = if k = key then stream else [] := by
  unfold CursorProjection.streamIn
  split
  . next h =>
    rw [List.filter_eq_self]
    intro e he
    simpa [h] using stream_wellFormed.key_eq e he
  . next h =>
    rw [List.filter_eq_nil_iff]
    intro e he
    have := stream_wellFormed.key_eq e he
    simp [this, Ne.symm h]

theorem stream_complete
    : InventoryStockProjection.projection.CompleteLog InventoryItem.Streams stream := by
  constructor
  . intro k
    rw [streamIn_stream]
    split
    . next h =>
      subst h
      exact stream_wellFormed
    . exact ⟨NumberedFrom.nil, by simp, by simp⟩
  . rintro k ⟨e, he, rfl, -⟩
    rw [streamIn_stream, stream_wellFormed.key_eq e he, if_pos rfl]
    refine ⟨events, stream_typed, ?_, ?_⟩
    . exact events_produced.mono (fun _ _ => trivial)
    . intro ev hev
      have := InventoryStockProjection.ids_of_produced events_produced ev hev
      exact ⟨this.1, congrArg InventoryItemId.aggregateId this.2⟩

theorem rebuild_matches_live_bolt
    : InventoryStockProjection.projection.RebuildsAs (fun _ => ⟨⟨0⟩⟩) InventoryStockProjection.new
        [(deliver 2 (adjusted 5)).2, (deliver 1 created).2, (deliver 2 (adjusted 5)).2]
        (InventoryStockProjection.projection.deliver InventoryStockProjection.new
          [deliver 1 created, deliver 2 (adjusted 5)]) := by
  apply rebuild_matches_live.1 stream _ _ _ _ stream_complete
  . intro env
    simp only [stream, deliver, List.mem_cons, List.not_mem_nil, or_false, exists_eq_or_imp,
      exists_eq_left]
    constructor
    . rintro (h | h | h)
      . exact Or.inr h
      . exact Or.inl h
      . exact Or.inr h
    . rintro (h | h)
      . exact Or.inr (Or.inl h)
      . exact Or.inl h
  . rfl

end Bolt

end ForgeErp
