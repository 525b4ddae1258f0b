import ForgeErp.Projections.Lemmas.Accounting

/-!
This module contains the dependence of the account rows on the order of the ledgers. The balance of
an account does not depend on it; its name and kind are those of the line that came first.
-/

namespace ForgeErp

namespace AccountBalancesProjection

theorem rowOf_congr {ps ps' : List Posting} (hperm : ps.Perm ps')
    (hhead : ∀ p p', ps.head? = some p → ps'.head? = some p' → vacant p.2 = vacant p'.2)
    : rowOf ps = rowOf ps' := by
  cases ps with
  | nil => rw [hperm.nil_eq]
  | cons p ps =>
    cases ps' with
    | nil => exact absurd hperm.eq_nil (by simp)
    | cons p' ps' =>
      have hsum := (hperm.map (fun p => delta p.2)).sum_eq
      dsimp only [rowOf]
      rw [hhead p p' rfl rfl, hsum]

theorem vacant_eq_of_rowOf {p p' : Posting} {ps ps' : List Posting}
    (h : rowOf (p :: ps) = rowOf (p' :: ps')) : vacant p.2 = vacant p'.2 := by
  simp only [rowOf, vacant, Option.some.injEq, AccountBalance.mk.injEq] at h ⊢
  simp [h.1, h.2.1, h.2.2.1]

theorem exists_find?_of_flatMap {envs : List (EventEnvelope JsonValue)}
    {f : EventEnvelope JsonValue → List JournalEntryLine} {p : JournalEntryLine → Bool}
    {line : JournalEntryLine} (h : (envs.flatMap f).find? p = some line)
    : ∃ key, ((envs.filter (fun env => env.key = key)).flatMap f).find? p = some line := by
  induction envs with
  | nil => simp at h
  | cons env envs ih =>
    rw [List.flatMap_cons, List.find?_append] at h
    cases hfind : (f env).find? p with
    | some line' =>
      refine ⟨env.key, ?_⟩
      rw [hfind] at h
      rw [List.filter_cons_of_pos (by simp), List.flatMap_cons, List.find?_append, hfind]
      exact h
    | none =>
      -- the line is in one of the streams behind `env`, and `env` does not get in its way
      rw [hfind, Option.none_or] at h
      rcases ih h with ⟨key, hkey⟩
      refine ⟨key, ?_⟩
      by_cases henv : env.key = key
      . rw [List.filter_cons_of_pos (by simp [henv]), List.flatMap_cons, List.find?_append, hfind]
        exact hkey
      . rw [List.filter_cons_of_neg (by simp [henv])]
        exact hkey

variable [TextFormat Uuid] [TextFormat DateTime]

def firstLine (log : List StoredEvent) (key : StreamKey) (code : String)
    : Option JournalEntryLine :=
  ((CursorProjection.streamIn log key).flatMap (fun e => linesOf e.payload)).find?
    (·.account.code = code)

-- Ledgers that touch the same account first do so under the same name and kind.
def NamesAgree (log : List StoredEvent) : Prop :=
  ∀ key key' code line line', firstLine log key code = some line →
    firstLine log key' code = some line' →
    line.account.name = line'.account.name ∧ line.account.kind = line'.account.kind

/--
All interleavings of the streams and all rebuilds from them end up with the same rows.
-/
structure OrderIrrelevant (log : List StoredEvent) (t : TenantId) : Prop where
  live : ∀ ds ds' : List (DateTime × EventEnvelope JsonValue),
    GuardedProjection.Interleaves log (ds.map (·.2)) →
    GuardedProjection.Interleaves log (ds'.map (·.2)) →
    ∀ code, (projection.deliver new ds).store.get t code
      = (projection.deliver new ds').store.get t code
  rebuild : ∀ ds : List (DateTime × EventEnvelope JsonValue),
    GuardedProjection.Interleaves log (ds.map (·.2)) →
    ∀ (envelopes : List (EventEnvelope JsonValue)) (now : Nat → DateTime)
      (st : ProjectionWith String AccountBalance Unit),
      envelopes.Perm (log.map StoredEvent.toEnvelope) →
      (log = [] → ∀ code, st.store.get t code = none) →
      (projection.rebuildFromScratch now st envelopes).1 = .ok ()
      ∧ ∀ code, (projection.rebuildFromScratch now st envelopes).2.store.get t code
          = (projection.deliver new ds).store.get t code

variable {log : List StoredEvent} {t : TenantId}

theorem firstLine_eq (log : List StoredEvent) (key : StreamKey) (code : String)
    : firstLine log key code
        =
      (((CursorProjection.streamIn log key).map StoredEvent.toEnvelope).flatMap
        (fun env => linesOf env.payload)).find? (·.account.code = code) := by
  unfold firstLine
  rw [List.flatMap_map]
  rfl

theorem accountLines_eq {ds : List (DateTime × EventEnvelope JsonValue)}
    (htenant : ∀ d ∈ ds, d.2.tenantId = t) (code : String)
    : accountLines ds t code
        =
      ((ds.map (·.2)).flatMap (fun env => linesOf env.payload)).filter (·.account.code = code) := by
  have hall : ds.filter (·.2.tenantId = t) = ds := by
    rw [List.filter_eq_self]
    intro d hd
    simpa using htenant d hd
  unfold accountLines
  rw [hall, List.flatMap_map]

theorem head?_postingsAt {ds : List (DateTime × EventEnvelope JsonValue)}
    (htenant : ∀ d ∈ ds, d.2.tenantId = t) (code : String)
    : (postingsAt (postings ds) (t, code)).head?.map (·.2)
        =
      ((ds.map (·.2)).flatMap (fun env => linesOf env.payload)).find? (·.account.code = code) := by
  rw [← List.head?_map, map_snd_postingsAt, accountLines_eq htenant, List.head?_filter]

theorem firstLine_of_head? {ds : List (DateTime × EventEnvelope JsonValue)}
    (hds : GuardedProjection.Interleaves log (ds.map (·.2)))
    (htenant : ∀ d ∈ ds, d.2.tenantId = t) {code : String} {p : Posting}
    (hp : (postingsAt (postings ds) (t, code)).head? = some p)
    : ∃ key, firstLine log key code = some p.2 := by
  have hfind := head?_postingsAt htenant code
  rw [hp] at hfind
  rcases exists_find?_of_flatMap hfind.symm with ⟨key, hkey⟩
  refine ⟨key, ?_⟩
  rw [hds key] at hkey
  rw [firstLine_eq, hkey]

theorem rowOf_interleaves {ds ds' : List (DateTime × EventEnvelope JsonValue)}
    (hnames : NamesAgree log) (hds : GuardedProjection.Interleaves log (ds.map (·.2)))
    (hds' : GuardedProjection.Interleaves log (ds'.map (·.2)))
    (htenant : ∀ e ∈ log, e.tenantId = t) (code : String)
    : rowOf (postingsAt (postings ds) (t, code)) = rowOf (postingsAt (postings ds') (t, code)) := by
  have hmem : ∀ {ds : List (DateTime × EventEnvelope JsonValue)},
      GuardedProjection.Interleaves log (ds.map (·.2)) → ∀ d ∈ ds, d.2.tenantId = t := by
    intro ds hds d hd
    rcases hds.mem hd with ⟨e, he, heq⟩
    rw [heq]
    apply htenant e he
  have hpostings : ∀ ds : List (DateTime × EventEnvelope JsonValue), postings ds
      = (ds.map (·.2)).flatMap (fun env => (linesOf env.payload).map (env.tenantId, ·)) := by
    intro ds
    rw [List.flatMap_map]
    rfl
  apply rowOf_congr
  . apply List.Perm.filter
    rw [hpostings, hpostings]
    apply (hds.perm.trans hds'.perm.symm).flatMap_right
  . intro p p' hp hp'
    rcases firstLine_of_head? hds (hmem hds) hp with ⟨key, hkey⟩
    rcases firstLine_of_head? hds' (hmem hds') hp' with ⟨key', hkey'⟩
    have hagree := hnames key key' code p.2 p'.2 hkey hkey'
    have hcode : p.2.account.code = code := by simpa using List.find?_some hkey
    have hcode' : p'.2.account.code = code := by simpa using List.find?_some hkey'
    simp [vacant, hcode, hcode', hagree.1, hagree.2]

def streamFirst (log : List StoredEvent) (key : StreamKey)
    : List (DateTime × EventEnvelope JsonValue) :=
  (CursorProjection.streamIn log key ++ log.filter (fun e => e.key ≠ key)).map
    (fun e => (⟨0⟩, e.toEnvelope))

omit [TextFormat Uuid] [TextFormat DateTime] in
theorem map_snd_streamFirst (log : List StoredEvent) (key : StreamKey)
    : (streamFirst log key).map (·.2)
        =
      (CursorProjection.streamIn log key).map StoredEvent.toEnvelope
        ++ (log.filter (fun e => e.key ≠ key)).map StoredEvent.toEnvelope := by
  unfold streamFirst
  rw [List.map_map, List.map_append]
  rfl

omit [TextFormat Uuid] [TextFormat DateTime] in
theorem interleaves_streamFirst (log : List StoredEvent) (key : StreamKey)
    : GuardedProjection.Interleaves log ((streamFirst log key).map (·.2)) := by
  intro k
  rw [map_snd_streamFirst, List.filter_append, List.filter_map, List.filter_map, ← List.map_append]
  congr 1
  unfold CursorProjection.streamIn
  have henv : ((fun env : EventEnvelope JsonValue => decide (env.key = k)) ∘ StoredEvent.toEnvelope)
      = fun e => decide (e.key = k) := rfl
  rw [henv, List.filter_filter, List.filter_filter]
  by_cases hk : k = key
  . subst hk
    have hrest : log.filter (fun e => decide (e.key = k) && decide (e.key ≠ k)) = [] := by
      rw [List.filter_eq_nil_iff]
      simp
    rw [hrest, List.append_nil]
    simp only [Bool.and_self]
  . have hfront : log.filter (fun e => decide (e.key = k) && decide (e.key = key)) = [] := by
      rw [List.filter_eq_nil_iff]
      intro e _
      simp only [Bool.and_eq_true, decide_eq_true_eq, not_and]
      intro heq
      rw [heq]
      exact hk
    rw [hfront, List.nil_append]
    apply List.filter_congr
    intro e _
    by_cases heq : e.key = k
    . simp [heq, hk]
    . simp [heq]

theorem vacant_head?_streamFirst {key : StreamKey} {code : String} {line : JournalEntryLine}
    (htenant : ∀ e ∈ log, e.tenantId = t) (hfirst : firstLine log key code = some line)
    : ∃ p ps, postingsAt (postings (streamFirst log key)) (t, code) = p :: ps ∧ p.2 = line := by
  have hhead : (postingsAt (postings (streamFirst log key)) (t, code)).head?.map (·.2)
      = some line := by
    rw [head?_postingsAt, map_snd_streamFirst, List.flatMap_append, List.find?_append,
      ← firstLine_eq, hfirst]
    . rfl
    . intro d hd
      simp only [streamFirst, List.mem_map, List.mem_append, CursorProjection.mem_streamIn,
        List.mem_filter] at hd
      rcases hd with ⟨e, he, rfl⟩
      rcases he with he | he
      . exact htenant e he.1
      . exact htenant e he.1
  cases hps : postingsAt (postings (streamFirst log key)) (t, code) with
  | nil => simp [hps] at hhead
  | cons p ps =>
    refine ⟨p, ps, rfl, ?_⟩
    rw [hps] at hhead
    simpa using hhead

section Rows

variable (hlog : LedgerLog (fun key command => command.tenantId = key.tenantId) log)
  (htype : ∀ e ∈ log, e.aggregateType = "accounting.ledger")

include hlog htype

theorem carries_of_mem {e : StoredEvent} (he : e ∈ log)
    : ∃ ev, projection.Carries e.toEnvelope ev := by
  rcases ProducedLog.event hlog he with ⟨ev, _, hev, hdec⟩
  have hproduced := (ProducedLog.events hlog e.key).1
  have htenant := Ledger.tenantId_of_produced hproduced ev (List.mem_of_getElem? hev)
  exact ⟨ev, htype e he, hdec, htenant, rfl⟩

theorem get_of_interleaves {ds : List (DateTime × EventEnvelope JsonValue)}
    (hds : GuardedProjection.Interleaves log (ds.map (·.2))) (code : String)
    : (projection.deliver new ds).store.get t code
        =
      rowOf (postingsAt (postings ds) (t, code)) := by
  have happlied : projection.applied new ds = ds := by
    refine (projection.applied_of_numbered ?_ ?_).1
    . intro d hd
      rcases hds.mem hd with ⟨e, he, heq⟩
      rw [heq]
      apply carries_of_mem hlog htype he
    . exact hds.numbered hlog.wellFormed
  rw [get_deliver rfl, happlied]

theorem get_rebuild {envelopes : List (EventEnvelope JsonValue)} (now : Nat → DateTime)
    {st : ProjectionWith String AccountBalance Unit}
    (hperm : envelopes.Perm (log.map StoredEvent.toEnvelope)) (code : String)
    (hvacant : (projection.cleared st envelopes).store.get t code = none)
    : (projection.rebuildFromScratch now st envelopes).2.store.get t code
        =
      rowOf (postingsAt (postings (GuardedProjection.replayed now envelopes)) (t, code)) := by
  have hrebuild := projection.rebuildFromScratch_eq hlog.wellFormed
    (fun e he => carries_of_mem hlog htype he) hperm now st
  rw [hrebuild.1, get_deliver hvacant, hrebuild.2.1]

end Rows

theorem namesAgree_of_orderIrrelevant
    (hlog : LedgerLog (fun key command => command.tenantId = key.tenantId) log)
    (htype : ∀ e ∈ log, e.aggregateType = "accounting.ledger")
    (htenant : ∀ e ∈ log, e.tenantId = t) (h : OrderIrrelevant log t)
    : NamesAgree log := by
  intro key key' code line line' hline hline'
  rcases vacant_head?_streamFirst htenant hline with ⟨p, ps, hps, rfl⟩
  rcases vacant_head?_streamFirst htenant hline' with ⟨p', ps', hps', rfl⟩
  have hrow := h.live _ _ (interleaves_streamFirst log key) (interleaves_streamFirst log key') code
  rw [get_of_interleaves hlog htype (interleaves_streamFirst log key),
    get_of_interleaves hlog htype (interleaves_streamFirst log key'), hps, hps'] at hrow
  have hvacant := vacant_eq_of_rowOf hrow
  simp only [vacant, AccountBalance.mk.injEq] at hvacant
  exact ⟨hvacant.2.1, hvacant.2.2.1⟩

theorem rows_order_irrelevant_iff
    (hlog : LedgerLog (fun key command => command.tenantId = key.tenantId) log)
    (htype : ∀ e ∈ log, e.aggregateType = "accounting.ledger")
    (htenant : ∀ e ∈ log, e.tenantId = t)
    : OrderIrrelevant log t ↔ NamesAgree log := by
  constructor
  . exact namesAgree_of_orderIrrelevant hlog htype htenant
  . intro hnames
    constructor
    . intro ds ds' hds hds' code
      rw [get_of_interleaves hlog htype hds, get_of_interleaves hlog htype hds']
      apply rowOf_interleaves hnames hds hds' htenant
    . intro ds hds envelopes now st hperm hst
      have hrebuild := projection.rebuildFromScratch_eq hlog.wellFormed
        (fun e he => carries_of_mem hlog htype he) hperm now st
      refine ⟨by rw [hrebuild.1], ?_⟩
      intro code
      rw [get_of_interleaves hlog htype hds, get_rebuild hlog htype now hperm]
      . apply rowOf_interleaves hnames hrebuild.2.2 hds htenant
      . rw [GuardedProjection.get_cleared]
        split
        . rfl
        . next hnone =>
          -- no tenant was cleared: there was nothing to rebuild from
          apply hst
          rw [List.eq_nil_iff_forall_not_mem]
          intro e he
          apply hnone
          refine ⟨e.toEnvelope, hperm.mem_iff.mpr (List.mem_map_of_mem he), htenant e he⟩

end AccountBalancesProjection

namespace Till

open Concrete AccountBalancesProjection

theorem log_type (name : String) : ∀ e ∈ log name, e.aggregateType = "accounting.ledger" :=
  type_recordedLog

theorem log_tenant (name : String) : ∀ e ∈ log name, e.tenantId = tenantId := by
  intro e he
  simp only [log, recordedLog, streams, recorded, List.flatMap_cons, List.flatMap_nil,
    List.append_nil, List.cons_append, List.nil_append, List.mem_cons, List.not_mem_nil,
    or_false] at he
  rcases he with rfl | rfl
  . rfl
  . rfl

theorem rows_depend_on_order
    : LedgerLog (fun key command => command.tenantId = key.tenantId) (log "Till")
      ∧ (∀ e ∈ log "Till", e.aggregateType = "accounting.ledger")
      ∧ (∀ e ∈ log "Till", e.tenantId = tenantId)
      ∧ ¬ OrderIrrelevant (log "Till") tenantId := by
  refine ⟨log_produced "Till", log_type "Till", log_tenant "Till", ?_⟩
  intro h
  have hnames := namesAgree_of_orderIrrelevant (log_produced "Till") (log_type "Till")
    (log_tenant "Till") h
  have hoffice : firstLine (log "Till") office "1000"
    = some ⟨⟨"1000", "Cash", .asset⟩, 5, true⟩ := by
    simp [firstLine, CursorProjection.streamIn, log, recordedLog, streams,
      recorded, StoredEvent.key,
      office, shop, posted, LedgerEvent.lines, lines]
  have hshop : firstLine (log "Till") shop "1000" = some ⟨⟨"1000", "Till", .asset⟩, 5, true⟩ := by
    simp [firstLine, CursorProjection.streamIn, log, recordedLog, streams,
      recorded, StoredEvent.key,
      office, shop, posted, LedgerEvent.lines, lines]
  exact absurd (hnames office shop "1000" _ _ hoffice hshop).1 (by decide)

theorem rows_order_irrelevant_cash : OrderIrrelevant (log "Cash") tenantId := by
  apply (rows_order_irrelevant_iff (log_produced "Cash") (log_type "Cash") (log_tenant "Cash")).mpr
  have hmem : ∀ key code line, firstLine (log "Cash") key code = some line →
      line ∈ lines "Cash" ∧ line.account.code = code := by
    intro key code line hline
    refine ⟨?_, by simpa using List.find?_some hline⟩
    have := List.mem_of_find?_eq_some hline
    rw [List.mem_flatMap] at this
    rcases this with ⟨e, he, hmem⟩
    rw [CursorProjection.mem_streamIn] at he
    have he := he.1
    simp only [log, recordedLog, streams, recorded, List.flatMap_cons, List.flatMap_nil,
      List.append_nil, List.cons_append, List.nil_append, List.mem_cons, List.not_mem_nil,
      or_false] at he
    rcases he with rfl | rfl
    . simpa [posted, LedgerEvent.lines] using hmem
    . simpa [posted, LedgerEvent.lines] using hmem
  intro key key' code line line' hline hline'
  rcases hmem key code line hline with ⟨hline, hcode⟩
  rcases hmem key' code line' hline' with ⟨hline', hcode'⟩
  have hsame : line.account.code = line'.account.code := hcode.trans hcode'.symm
  clear hcode hcode'
  simp only [lines, List.mem_cons, List.not_mem_nil, or_false] at hline hline'
  rcases hline with rfl | rfl
  . rcases hline' with rfl | rfl
    . exact ⟨rfl, rfl⟩
    . simp at hsame
  . rcases hline' with rfl | rfl
    . simp at hsame
    . exact ⟨rfl, rfl⟩

end Till

end ForgeErp
