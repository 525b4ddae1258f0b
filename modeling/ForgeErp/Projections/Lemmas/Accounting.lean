import ForgeErp.Domain.Lemmas.Accounting
import ForgeErp.Library.Totals
import ForgeErp.Projections.Impl.Summaries
import ForgeErp.Projections.Lemmas.Guarded

/-!
This module contains the trial balance of the account balances. The rows of the projection are read
off from the lines that were posted: of every account the sum of the lines and the name of the
first.
-/

namespace ForgeErp

namespace AccountBalancesProjection

abbrev Posting : Type :=
  TenantId × JournalEntryLine

def account (p : Posting) : TenantId × String :=
  (p.1, p.2.account.code)

def post (store : InMemoryTenantStore String AccountBalance) (p : Posting)
    : InMemoryTenantStore String AccountBalance :=
  applyLine store p.1 p.2

def postingsAt (postings : List Posting) (k : TenantId × String) : List Posting :=
  postings.filter (fun p => account p = k)

def rowOf (postings : List Posting) : Option AccountBalance :=
  match postings with
  | [] => none
  | p :: ps =>
    let total := ((p :: ps).map (fun p => delta p.2)).sum
    some { vacant p.2 with balance := total.bmod (2 ^ 128) }

theorem rowOf_concat (ps : List Posting) (p : Posting)
    : rowOf (ps ++ [p])
        =
      let rm := (rowOf ps).getD (vacant p.2)
      some { rm with balance := addI128 rm.balance (delta p.2) } := by
  cases ps with
  | nil => simp [rowOf, addI128, vacant]
  | cons q qs =>
    simp only [rowOf, List.cons_append, List.map_cons, List.map_append, List.sum_cons,
      List.sum_append, List.map_nil, List.sum_nil, Option.getD_some, addI128, Int.bmod_add_bmod]
    congr 3
    omega

theorem postingsAt_concat (ps : List Posting) (p : Posting) (k : TenantId × String)
    : postingsAt (ps ++ [p]) k = postingsAt ps k ++ (if account p = k then [p] else []) := by
  simp only [postingsAt, List.filter_append, List.filter_singleton, Bool.cond_decide]

theorem get_postings {store : InMemoryTenantStore String AccountBalance} {t : TenantId}
    {code : String} (hvacant : store.get t code = none) (ps : List Posting)
    : (ps.foldl post store).get t code = rowOf (postingsAt ps (t, code)) := by
  induction ps using List.reverseRecOn with
  | nil => exact hvacant
  | append_singleton ps p ih =>
    rw [List.foldl_concat, postingsAt_concat]
    by_cases h : account p = (t, code)
    . rw [if_pos h, rowOf_concat, ← ih]
      simp only [account, Prod.mk.injEq] at h
      rcases h with ⟨rfl, rfl⟩
      simp [post, applyLine, InMemoryTenantStore.upsert, InMemoryTenantStore.get]
    . rw [if_neg h, List.append_nil, ← ih]
      unfold account at h
      simp [post, applyLine, InMemoryTenantStore.upsert, InMemoryTenantStore.get, Ne.symm h]

section Envelopes

variable [TextFormat Uuid] [TextFormat DateTime]

def linesOf (payload : JsonValue) : List JournalEntryLine :=
  match (Codec.dec payload : Except String LedgerEvent) with
  | .ok ev => ev.lines
  | .error _ => []

@[simp]
theorem linesOf_enc (ev : LedgerEvent) : linesOf (Codec.enc ev) = ev.lines := by
  unfold linesOf
  rw [Codec.dec_enc]

def postings (ds : List (DateTime × EventEnvelope JsonValue)) : List Posting :=
  ds.flatMap (fun d => (linesOf d.2.payload).map (d.2.tenantId, ·))

theorem fst_absorb (data : InMemoryTenantStore String AccountBalance × Unit)
    (d : DateTime × EventEnvelope JsonValue)
    : (projection.absorb data d).1
        =
      ((linesOf d.2.payload).map (d.2.tenantId, ·)).foldl post data.1 := by
  unfold GuardedProjection.absorb linesOf
  rw [List.foldl_map]
  split
  . next ev hdec =>
    rw [hdec]
    rfl
  . next err hdec =>
    rw [hdec]
    rfl

theorem fst_foldl_absorb (data : InMemoryTenantStore String AccountBalance × Unit)
    (ds : List (DateTime × EventEnvelope JsonValue))
    : (ds.foldl projection.absorb data).1 = (postings ds).foldl post data.1 := by
  induction ds generalizing data with
  | nil => rfl
  | cons d ds ih =>
    rw [List.foldl_cons, ih, fst_absorb, ← List.foldl_append]
    rfl

theorem get_deliver {self : ProjectionWith String AccountBalance Unit} {t : TenantId}
    {code : String} (hvacant : self.store.get t code = none)
    (ds : List (DateTime × EventEnvelope JsonValue))
    : (projection.deliver self ds).store.get t code
        =
      rowOf (postingsAt (postings (projection.applied self ds)) (t, code)) := by
  have hdata := congrArg Prod.fst (projection.data_deliver self ds)
  rw [fst_foldl_absorb] at hdata
  have hstore : (projection.deliver self ds).store
      = (postings (projection.applied self ds)).foldl post self.store := hdata
  rw [hstore, get_postings hvacant]

def accountLines (ds : List (DateTime × EventEnvelope JsonValue)) (t : TenantId) (code : String)
    : List JournalEntryLine :=
  ((ds.filter (·.2.tenantId = t)).flatMap (fun d => linesOf d.2.payload)).filter
    (·.account.code = code)

theorem map_snd_postingsAt (ds : List (DateTime × EventEnvelope JsonValue)) (t : TenantId)
    (code : String)
    : (postingsAt (postings ds) (t, code)).map (·.2) = accountLines ds t code := by
  induction ds with
  | nil => rfl
  | cons d ds ih =>
    have hcons : postings (d :: ds)
        = (linesOf d.2.payload).map (d.2.tenantId, ·) ++ postings ds := rfl
    rw [hcons, postingsAt, List.filter_append, List.map_append, List.filter_map, List.map_map]
    unfold postingsAt at ih
    rw [ih]
    unfold accountLines
    by_cases h : d.2.tenantId = t
    . rw [List.filter_cons_of_pos (by simp [h]), List.flatMap_cons, List.filter_append]
      congr 1
      simp [Function.comp_def, account, h]
    . rw [List.filter_cons_of_neg (by simp [h])]
      simp [Function.comp_def, account, h]

end Envelopes

theorem sum_delta (lines : List JournalEntryLine)
    : (lines.map delta).sum = Ledger.debits lines - Ledger.credits lines := by
  induction lines with
  | nil => rfl
  | cons line lines ih =>
    rw [List.map_cons, List.sum_cons, ih, Ledger.debits_cons, Ledger.credits_cons]
    unfold delta
    split
    . omega
    . omega

theorem sum_delta_bounds {lines : List JournalEntryLine}
    : -(lines.length * 2 ^ 63) ≤ (lines.map delta).sum
      ∧ (lines.map delta).sum ≤ lines.length * 2 ^ 63 := by
  induction lines with
  | nil => simp
  | cons line lines ih =>
    have hlt := Ledger.amount_lt line
    have hge := line.amount.le_toInt
    have hdelta : -2 ^ 63 ≤ delta line ∧ delta line ≤ 2 ^ 63 := by
      unfold delta
      split
      . omega
      . omega
    rw [List.map_cons, List.sum_cons, List.length_cons]
    push_cast
    omega

theorem balance_rowOf {ps : List Posting} (h : ps.length < 2 ^ 60)
    : ((rowOf ps).map (·.balance)).getD 0 = (ps.map (fun p => delta p.2)).sum := by
  cases ps with
  | nil => rfl
  | cons p ps =>
    have hbounds := @sum_delta_bounds ((p :: ps).map (·.2))
    rw [List.map_map, List.length_map] at hbounds
    unfold rowOf
    dsimp only [Option.map_some, Option.getD_some]
    apply Int.bmod_eq_of_le_mul_two
    . simp only [Function.comp_def] at hbounds
      omega
    . simp only [Function.comp_def] at hbounds
      omega

theorem sum_list {store : InMemoryTenantStore String AccountBalance}
    {order : List (TenantId × String)} (horder : ∀ k ∈ order, (store.inner.get k).isSome)
    (t : TenantId)
    : ((store.list order t).map (·.balance)).sum
        =
      ((order.filter (·.1 = t)).map
        (fun k => ((store.get k.1 k.2).map (·.balance)).getD 0)).sum := by
  induction order with
  | nil => rfl
  | cons k order ih =>
    have hrest := ih (fun k' hk' => horder k' (by simp [hk']))
    unfold InMemoryTenantStore.list at hrest ⊢
    by_cases h : k.1 = t
    . have hsome := horder k (by simp)
      rw [Option.isSome_iff_exists] at hsome
      rcases hsome with ⟨rm, hrm⟩
      rw [List.filterMap_cons_some (b := rm) (by simp [h.symm, hrm]),
        List.filter_cons_of_pos (by simp [h]), List.map_cons, List.sum_cons, hrest, List.map_cons,
        List.sum_cons]
      congr 1
      simp [InMemoryTenantStore.get, hrm]
    . rw [List.filterMap_cons_none (by simp [h]), List.filter_cons_of_neg (by simp [h]), hrest]

theorem sum_accounts {ps : List Posting} {store : InMemoryTenantStore String AccountBalance}
    (hstore : ∀ t code, store.get t code = rowOf (postingsAt ps (t, code)))
    (hlines : ps.length < 2 ^ 60) {order : List (TenantId × String)}
    (horder : store.inner.Enumerates order) (t : TenantId)
    : ((store.list order t).map (·.balance)).sum
        =
      ((ps.filter (·.1 = t)).map (fun p => delta p.2)).sum := by
  have hbalance : ∀ k : TenantId × String, k.1 = t →
      ((store.get k.1 k.2).map (·.balance)).getD 0
        = Totals.totalAt account (fun p => delta p.2) (ps.filter (·.1 = t)) k := by
    intro k hk
    have hsame : (ps.filter (·.1 = t)).filter (fun p => account p = k) = postingsAt ps k := by
      rw [List.filter_filter]
      unfold postingsAt
      apply List.filter_congr
      intro p _
      by_cases h : account p = k
      . have : p.1 = t := by
          rw [← hk, ← h]
          rfl
        simp [h, this]
      . simp [h]
    rw [hstore, balance_rowOf, Totals.totalAt, hsame]
    exact Nat.lt_of_le_of_lt (List.length_filter_le _ _) hlines
  rw [sum_list (fun k hk => (horder.mem_iff k).mp hk),
    List.map_congr_left (g := Totals.totalAt account (fun p => delta p.2) (ps.filter (·.1 = t)))]
  . apply Totals.sum_totalAt (horder.nodup.filter _)
    intro p hp
    rw [List.mem_filter, decide_eq_true_eq] at hp
    rw [List.mem_filter, horder.mem_iff]
    refine ⟨?_, by simp [account, hp.2]⟩
    -- a posting puts the row of its account into the store
    have hrow := hstore p.1 p.2.account.code
    have hmem : p ∈ postingsAt ps (account p) := by simp [postingsAt, hp.1]
    have hget : store.inner.get (account p) = rowOf (postingsAt ps (account p)) := hrow
    rw [hget]
    generalize postingsAt ps (account p) = qs at hmem
    cases qs with
    | nil => simp at hmem
    | cons q qs => rfl
  . intro k hk
    rw [List.mem_filter, decide_eq_true_eq] at hk
    exact hbalance k hk.2

section TrialBalance

variable [TextFormat Uuid] [TextFormat DateTime]

def LedgerLog (ok : StreamKey → JournalCommand → Prop) (log : List StoredEvent) : Prop :=
  ProducedLog (E := LedgerEvent) (fun key evs =>
    Ledger.aggregate.Produced (ok key) (Ledger.empty ⟨key.aggregateId⟩) evs) log

def lineCount (log : List StoredEvent) : Nat :=
  (log.map (fun e => (linesOf e.payload).length)).sum

variable {ok : StreamKey → JournalCommand → Prop} {log : List StoredEvent}

theorem length_linesOf_le {e : StoredEvent} (he : e ∈ log)
    : (linesOf e.payload).length ≤ lineCount log := by
  unfold lineCount
  apply List.single_le_sum (by simp)
  apply List.mem_map_of_mem he

theorem LedgerLog.balanced (h : LedgerLog ok log) (hlines : lineCount log < 2 ^ 60)
    {e : StoredEvent} (he : e ∈ log)
    : Ledger.debits (linesOf e.payload) = Ledger.credits (linesOf e.payload) := by
  rcases ProducedLog.event h he with ⟨ev, _, hev, hdec⟩
  have hproduced := (ProducedLog.events h e.key).1
  have hlength := length_linesOf_le he
  have hpayload : linesOf e.payload = ev.lines := by
    unfold linesOf
    rw [hdec]
  rw [hpayload] at hlength ⊢
  apply Ledger.balanced_of_produced hproduced ev (List.mem_of_getElem? hev)
  omega

theorem length_postings_le {self : ProjectionWith String AccountBalance Unit}
    {ds : List (DateTime × EventEnvelope JsonValue)}
    (hds : ∀ d ∈ ds, ∃ e ∈ log, d.2 = e.toEnvelope)
    : (postings (projection.applied self ds)).length ≤ lineCount log := by
  have hnodup : ((projection.applied self ds).map (·.2)).Nodup := by
    rw [List.Nodup, List.pairwise_map]
    apply (projection.applied_increasing self ds).1.imp
    intro a b hlt heq
    have := hlt (by rw [heq])
    rw [heq] at this
    omega
  have hsubset : (projection.applied self ds).map (·.2) ⊆ log.map StoredEvent.toEnvelope := by
    intro env henv
    rw [List.mem_map] at henv
    rcases henv with ⟨d, hd, rfl⟩
    rcases hds d ((projection.applied_sublist self ds).subset hd) with ⟨e, he, heq⟩
    rw [List.mem_map]
    exact ⟨e, he, heq.symm⟩
  rcases hnodup.subperm hsubset with ⟨envs, hperm, hsub⟩
  have hle := (hsub.map (fun env => (linesOf env.payload).length)).sum_le_sum (by simp)
  rw [(hperm.map _).sum_eq, List.map_map, List.map_map] at hle
  unfold lineCount postings
  rw [List.length_flatMap]
  simpa [Function.comp_def, StoredEvent.toEnvelope] using hle

structure TrialBalance (st : ProjectionWith String AccountBalance Unit)
    (applied : List (DateTime × EventEnvelope JsonValue)) (t : TenantId)
    : Prop where
  sum_eq_zero : ∀ order, st.store.inner.Enumerates order →
    ((st.store.list order t).map (·.balance)).sum = 0
  balance_eq : ∀ code, ((st.store.get t code).map (·.balance)).getD 0
    = Ledger.debits (accountLines applied t code) - Ledger.credits (accountLines applied t code)

theorem sum_postings (ds : List (DateTime × EventEnvelope JsonValue)) (t : TenantId)
    (hbalanced : ∀ d ∈ ds, Ledger.debits (linesOf d.2.payload)
      = Ledger.credits (linesOf d.2.payload))
    : (((postings ds).filter (·.1 = t)).map (fun p => delta p.2)).sum = 0 := by
  induction ds with
  | nil => rfl
  | cons d ds ih =>
    have hrest := ih (fun d' hd' => hbalanced d' (by simp [hd']))
    have hzero : ((linesOf d.2.payload).map delta).sum = 0 := by
      rw [sum_delta, hbalanced d (by simp)]
      omega
    have hcons : postings (d :: ds)
        = (linesOf d.2.payload).map (d.2.tenantId, ·) ++ postings ds := rfl
    rw [hcons, List.filter_append, List.map_append, List.sum_append, hrest, List.filter_map,
      List.map_map]
    by_cases h : d.2.tenantId = t
    . simpa [Function.comp_def, h] using hzero
    . simp [Function.comp_def, h]

theorem trial_balance (hlog : LedgerLog ok log) (hlines : lineCount log < 2 ^ 60)
    (self : ProjectionWith String AccountBalance Unit) (hnew : self.store = .new)
    (ds : List (DateTime × EventEnvelope JsonValue))
    (hds : ∀ d ∈ ds, ∃ e ∈ log, d.2 = e.toEnvelope)
    : (∀ t, TrialBalance (projection.deliver self ds) (projection.applied self ds) t)
      ∧ (projection.applied self ds).Sublist ds
      ∧ ((projection.applied self ds).map (fun d => (d.2.key, d.2.sequenceNumber))).Nodup
      ∧ ∀ (ledger : Ledger) (cmd : PostJournalEntry), cmd.lines.length < 2 ^ 60 →
          ((∃ decided, ledger.handlePost cmd = .ok decided)
            ↔
          ledger.ensureTenant cmd.tenantId = .ok () ∧ cmd.lines ≠ []
          ∧ (∀ line ∈ cmd.lines, 0 < line.amount)
          ∧ Ledger.debits cmd.lines = Ledger.credits cmd.lines) := by
  have hvacant : ∀ t code, self.store.get t code = none := by
    intro t code
    rw [hnew]
    rfl
  have hcount : (postings (projection.applied self ds)).length ≤ lineCount log :=
    length_postings_le hds
  refine ⟨?_, projection.applied_sublist self ds, ?_, ?_⟩
  . intro t
    constructor
    . intro order horder
      rw [sum_accounts (fun t code => get_deliver (hvacant t code) ds) (by omega) horder]
      apply sum_postings
      intro d hd
      rcases hds d ((projection.applied_sublist self ds).subset hd) with ⟨e, he, heq⟩
      rw [heq]
      exact hlog.balanced hlines he
    . intro code
      rw [get_deliver (hvacant t code), balance_rowOf, ← map_snd_postingsAt,
        ← sum_delta, List.map_map]
      . rfl
      . have := List.length_filter_le (fun p => account p = (t, code))
          (postings (projection.applied self ds))
        unfold postingsAt
        omega
  . rw [List.Nodup, List.pairwise_map]
    apply (projection.applied_increasing self ds).1.imp
    intro a b hlt heq
    rw [Prod.mk.injEq] at heq
    have := hlt heq.1
    omega
  . intro ledger cmd hcmd
    simp only [Ledger.handlePost_eq_ok_iff, Ledger.balanced_iff hcmd, exists_and_left,
      exists_eq, and_true]

end TrialBalance

end AccountBalancesProjection

-- Two ledgers of one tenant, the second of which has its own name for the account 1000.
namespace Till

open Concrete

def tenantId : TenantId := ⟨⟨1⟩⟩

def office : StreamKey := ⟨tenantId, ⟨⟨2⟩⟩⟩

def shop : StreamKey := ⟨tenantId, ⟨⟨3⟩⟩⟩

def lines (name : String) : List JournalEntryLine :=
  [⟨⟨"1000", name, .asset⟩, 5, true⟩, ⟨⟨"4000", "Sales", .revenue⟩, 5, false⟩]

def post (key : StreamKey) (name : String) : PostJournalEntry where
  tenantId
  ledgerId := ⟨key.aggregateId⟩
  entryId := ⟨0⟩
  lines := lines name
  occurredAt := ⟨0⟩
  description := none

def posted (key : StreamKey) (name : String) : LedgerEvent :=
  .journalEntryPosted {
    tenantId
    ledgerId := ⟨key.aggregateId⟩
    entryId := ⟨0⟩
    lines := lines name
    description := none
    occurredAt := ⟨0⟩
  }

def streams (name : String) : List (StreamKey × List LedgerEvent) :=
  [(office, [posted office "Cash"]), (shop, [posted shop name])]

def log (name : String) : List StoredEvent :=
  recordedLog "accounting.ledger" (streams name)

theorem handle_post (ledger : Ledger) (key : StreamKey) (name : String)
    (h : ledger.ensureTenant tenantId = .ok ())
    : Ledger.aggregate.handle ledger (JournalCommand.postJournalEntry (post key name))
        =
      .ok [posted key name] := by
  have hbalanced : Ledger.Balanced (lines name) := by
    rw [Ledger.balanced_iff (by simp [lines])]
    refine ⟨by simp [lines], ?_, by simp [lines, Ledger.debits, Ledger.credits]⟩
    intro line hline
    simp only [lines, List.mem_cons, List.not_mem_nil, or_false] at hline
    have hfive : (0 : Int64) < 5 := by decide
    rcases hline with rfl | rfl
    . exact hfive
    . exact hfive
  exact Ledger.handlePost_eq_ok_iff.mpr ⟨h, hbalanced, rfl⟩

theorem log_produced (name : String)
    : AccountBalancesProjection.LedgerLog
        (fun key command => command.tenantId = key.tenantId) (log name) := by
  apply producedLog_recordedLog
  . simp [streams, office, shop]
  . intro s hs
    simp only [streams, List.mem_cons, List.not_mem_nil, or_false] at hs
    have hstep : ∀ key name, key.tenantId = tenantId →
        Ledger.aggregate.Produced (fun command : JournalCommand => command.tenantId = key.tenantId)
          (Ledger.empty ⟨key.aggregateId⟩) ([] ++ [posted key name]) := by
      intro key name hkey
      apply Aggregate.Produced.step (A := Ledger.aggregate)
        (.postJournalEntry (post key name) : JournalCommand) .nil hkey.symm
      apply handle_post (Ledger.empty ⟨key.aggregateId⟩) key name rfl
    rcases hs with rfl | rfl
    . exact hstep office "Cash" rfl
    . exact hstep shop name rfl
  . intro key
    exact .nil

def arrivals : List (DateTime × EventEnvelope JsonValue) :=
  (recorded "accounting.ledger" shop 1 [posted shop "Till"] ++ log "Till").map
    (fun e => (⟨0⟩, e.toEnvelope))

theorem trial_balance_till
    : AccountBalancesProjection.lineCount (log "Till") < 2 ^ 60
      ∧ AccountBalancesProjection.TrialBalance
          (AccountBalancesProjection.projection.deliver AccountBalancesProjection.new arrivals)
          (AccountBalancesProjection.projection.applied AccountBalancesProjection.new arrivals)
          tenantId := by
  have hlines : AccountBalancesProjection.lineCount (log "Till") < 2 ^ 60 := by
    simp [AccountBalancesProjection.lineCount, log, recordedLog, streams, recorded, posted,
      LedgerEvent.lines, lines]
  refine ⟨hlines, ?_⟩
  apply (AccountBalancesProjection.trial_balance (log_produced "Till") hlines _ rfl arrivals _).1
  intro d hd
  simp only [arrivals, List.mem_map, List.mem_append] at hd
  rcases hd with ⟨e, he, rfl⟩
  refine ⟨e, ?_, rfl⟩
  rcases he with he | he
  . simp [log, recordedLog, streams, he]
  . exact he

end Till

end ForgeErp
