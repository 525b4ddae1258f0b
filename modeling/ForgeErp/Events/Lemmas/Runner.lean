import ForgeErp.EventStore.Lemmas.InMemory
import ForgeErp.Events.Runner

/-!
This module contains the verification of the projection runner. It takes what comes with ever
greater sequence numbers, so that the streams of two aggregates do not go together.
-/

namespace ForgeErp

namespace ProjectionRunner

variable {P E : Type} {trait : EventProjection P E} {self : ProjectionRunner P}
variable {envelope : EventEnvelope E} {envelopes : List (EventEnvelope E)}

def Accepts (cursor : Option ProjectionCursor) (envelope : EventEnvelope E) : Prop :=
  ∀ c, cursor = some c →
    c.tenantId = envelope.tenantId ∧ c.lastSequenceNumber < envelope.sequenceNumber

def cursorAt (envelope : EventEnvelope E) : ProjectionCursor where
  tenantId := envelope.tenantId
  lastSequenceNumber := envelope.sequenceNumber

theorem apply_of_accepts (h : Accepts self.cursor envelope)
    : self.apply trait envelope
        = (.ok (), ⟨trait.apply self.projection envelope, some (cursorAt envelope)⟩) := by
  unfold apply
  dsimp only
  split
  . rfl
  . next c hcursor =>
    rcases h c hcursor with ⟨htenant, hlt⟩
    rw [if_neg (not_not.mpr htenant), if_neg (Nat.not_le.mpr hlt), htenant]
    rfl

theorem apply_of_not_accepts (trait : EventProjection P E) (h : ¬ Accepts self.cursor envelope)
    : ∃ err, self.apply trait envelope = (.error err, self) := by
  unfold apply
  dsimp only
  split
  . next hcursor =>
    refine absurd ?_ h
    intro c hc
    rw [hcursor] at hc
    cases hc
  . next c hcursor =>
    split
    . exact ⟨_, rfl⟩
    . next htenant =>
      split
      . exact ⟨_, rfl⟩
      . next hlt =>
        refine absurd ?_ h
        intro c' hc'
        rw [hcursor] at hc'
        cases hc'
        exact ⟨not_not.mp htenant, Nat.not_le.mp hlt⟩

-- Each envelope is accepted after the one before it.
def AcceptsAll (cursor : Option ProjectionCursor) : List (EventEnvelope E) → Prop
  | [] => True
  | envelope :: envelopes =>
    Accepts cursor envelope ∧ AcceptsAll (some (cursorAt envelope)) envelopes

theorem run_of_acceptsAll (trait : EventProjection P E) (self : ProjectionRunner P)
    (h : AcceptsAll self.cursor envelopes)
    : ∃ cursor, self.run trait envelopes
        = (.ok (), ⟨envelopes.foldl trait.apply self.projection, cursor⟩) := by
  induction envelopes generalizing self with
  | nil => exact ⟨self.cursor, rfl⟩
  | cons envelope envelopes ih =>
    unfold run
    rw [apply_of_accepts h.1]
    exact ih _ h.2

theorem acceptsAll_of_run (trait : EventProjection P E) (self : ProjectionRunner P)
    (h : (self.run trait envelopes).1 = .ok ()) : AcceptsAll self.cursor envelopes := by
  induction envelopes generalizing self with
  | nil => trivial
  | cons envelope envelopes ih =>
    unfold run at h
    by_cases haccepts : Accepts self.cursor envelope
    . rw [apply_of_accepts haccepts] at h
      exact ⟨haccepts, ih _ h⟩
    . rcases apply_of_not_accepts trait haccepts with ⟨err, herr⟩
      rw [herr] at h
      cases h

theorem rebuildFromScratch_eq_ok_iff (trait : EventProjection P E) (factory : P)
    (envelopes : List (EventEnvelope E))
    : (∃ cursor, rebuildFromScratch trait factory envelopes
          = .ok (envelopes.foldl trait.apply factory, cursor))
        ↔
      AcceptsAll none envelopes := by
  unfold rebuildFromScratch
  constructor
  . rintro ⟨cursor, h⟩
    apply acceptsAll_of_run trait (new factory)
    split at h
    . cases h
    . next runner hrun => rw [hrun]
  . intro h
    rcases run_of_acceptsAll trait (new factory) h with ⟨cursor, hrun⟩
    rw [hrun]
    exact ⟨cursor, rfl⟩

theorem acceptsAll_iff {tenantId : TenantId} (htenant : ∀ e ∈ envelopes, e.tenantId = tenantId)
    (cursor : Option ProjectionCursor)
    : AcceptsAll cursor envelopes
        ↔
      (∀ e, envelopes.head? = some e → Accepts cursor e)
      ∧ envelopes.Pairwise fun e e' => e.sequenceNumber < e'.sequenceNumber := by
  induction envelopes generalizing cursor with
  | nil => simp [AcceptsAll]
  | cons envelope envelopes ih =>
    rw [List.forall_mem_cons] at htenant
    unfold AcceptsAll
    rw [ih htenant.2, List.pairwise_cons]
    simp only [List.head?_cons, Option.some.injEq, forall_eq']
    refine and_congr_right fun _ => ?_
    constructor
    . rintro ⟨hhead, hsorted⟩
      refine ⟨?_, hsorted⟩
      cases envelopes with
      | nil => simp
      | cons e envelopes =>
        have hlt := (hhead e rfl (cursorAt envelope) rfl).2
        rw [List.forall_mem_cons]
        refine ⟨hlt, ?_⟩
        intro e' he'
        exact Nat.lt_trans hlt ((List.pairwise_cons.mp hsorted).1 e' he')
    . rintro ⟨hlt, hsorted⟩
      refine ⟨?_, hsorted⟩
      rintro e he c hc
      cases hc
      have hmem := List.mem_of_mem_head? he
      exact ⟨htenant.1.trans (htenant.2 e hmem).symm, hlt e hmem⟩

def streamOf (envelopes : List (EventEnvelope E)) (aggregateId : AggregateId)
    : List (EventEnvelope E) :=
  envelopes.filter fun e => e.aggregateId = aggregateId

/--
All envelopes of a tenant, ordered within each aggregate as the event store has numbered them.
-/
structure History (tenantId : TenantId) (envelopes : List (EventEnvelope E)) : Prop where
  tenant : ∀ e ∈ envelopes, e.tenantId = tenantId
  numbered : ∀ aggregateId, NumberedFrom 1 EventEnvelope.sequenceNumber
    (streamOf envelopes aggregateId)

theorem history_of_store {store : InMemoryEventStore} (hstore : store.WellFormed)
    {tenantId : TenantId}
    {log : List StoredEvent} (htenant : ∀ e ∈ log, e.tenantId = tenantId)
    (hstreams : ∀ aggregateId, log.filter (fun e => e.aggregateId = aggregateId)
      = store.loadStream ⟨tenantId, aggregateId⟩)
    : History tenantId (log.map StoredEvent.toEnvelope) where
  tenant := by
    intro e he
    rcases List.mem_map.mp he with ⟨stored, hstored, rfl⟩
    exact htenant stored hstored
  numbered := by
    intro aggregateId
    have hnumbered := (hstore ⟨tenantId, aggregateId⟩).numbered
    rw [← hstreams] at hnumbered
    unfold streamOf
    rw [List.filter_map, NumberedFrom.map_iff]
    exact hnumbered

theorem pairwise_iff_one_aggregate {tenantId : TenantId} (h : History tenantId envelopes)
    : (envelopes.Pairwise fun e e' => e.sequenceNumber < e'.sequenceNumber)
        ↔ ∀ e ∈ envelopes, ∀ e' ∈ envelopes, e.aggregateId = e'.aggregateId := by
  constructor
  . intro hsorted e he e' he'
    have hfirst : ∀ e ∈ envelopes, ∃ first ∈ envelopes, first.aggregateId = e.aggregateId
        ∧ first.sequenceNumber = 1 := by
      intro e he
      have hmem : e ∈ streamOf envelopes e.aggregateId := by simpa [streamOf] using he
      have hlength := List.length_pos_of_mem hmem
      have hget := List.getElem?_eq_getElem hlength
      have hmem' := List.mem_of_getElem? hget
      have hnumber := (h.numbered e.aggregateId).getElem? hget
      unfold streamOf at hmem'
      rw [List.mem_filter, decide_eq_true_iff] at hmem'
      exact ⟨_, hmem'.1, hmem'.2, hnumber⟩
    rcases hfirst e he with ⟨first, hmem, hid, hone⟩
    rcases hfirst e' he' with ⟨first', hmem', hid', hone'⟩
    have hnodup : (envelopes.map EventEnvelope.sequenceNumber).Nodup := by
      apply (List.pairwise_map.mpr hsorted).imp
      intro a b hab
      exact Nat.ne_of_lt hab
    have hsame := List.inj_on_of_nodup_map hnodup hmem hmem' (hone.trans hone'.symm)
    rw [← hid, ← hid', hsame]
  . intro hone
    cases envelopes with
    | nil => exact .nil
    | cons e envelopes =>
      have hall : streamOf (e :: envelopes) e.aggregateId = e :: envelopes := by
        unfold streamOf
        rw [List.filter_eq_self]
        intro e' he'
        exact decide_eq_true (hone e' he' e List.mem_cons_self)
      have hnumbered := h.numbered e.aggregateId
      rw [hall] at hnumbered
      exact hnumbered.pairwise_lt

theorem rebuild_applies_all_iff (trait : EventProjection P E) (factory : P) (tenantId : TenantId)
    (envelopes : List (EventEnvelope E)) (h : History tenantId envelopes)
    : (∃ cursor, rebuildFromScratch trait factory envelopes
          = .ok (envelopes.foldl trait.apply factory, cursor))
        ↔
      ∀ e ∈ envelopes, ∀ e' ∈ envelopes, e.aggregateId = e'.aggregateId := by
  rw [rebuildFromScratch_eq_ok_iff, acceptsAll_iff h.tenant, pairwise_iff_one_aggregate h]
  apply and_iff_right
  intro e _ c hc
  cases hc

section ExactlyOnce

-- A projection that records what it is given.
def recording (trait : EventProjection P E) : EventProjection (P × List (EventEnvelope E)) E where
  apply seen envelope := (trait.apply seen.1 envelope, seen.2 ++ [envelope])

def start (pinned : Option TenantId) (projection : P) : ProjectionRunner P :=
  match pinned with
  | none => new projection
  | some tenantId => newForTenant tenantId projection

-- `apply` is called for each envelope, whatever it has returned for the ones before.
def applyEach (trait : EventProjection P E) (self : ProjectionRunner P)
    (calls : List (EventEnvelope E))
    : ProjectionRunner P :=
  calls.foldl (fun runner envelope => (runner.apply trait envelope).2) self

variable {calls : List (EventEnvelope E)} {pinned : Option TenantId}

theorem applyEach_append (trait : EventProjection P E) (self : ProjectionRunner P)
    (calls calls' : List (EventEnvelope E))
    : applyEach trait self (calls ++ calls')
        = applyEach trait (applyEach trait self calls) calls' := by
  unfold applyEach
  rw [List.foldl_append]

def recorded (trait : EventProjection P E) (pinned : Option TenantId) (projection : P)
    (calls : List (EventEnvelope E))
    : ProjectionRunner (P × List (EventEnvelope E)) :=
  applyEach (recording trait) (start pinned (projection, [])) calls

/--
The envelopes that `apply` passes to the projection.
-/
def passed (trait : EventProjection P E) (pinned : Option TenantId) (projection : P)
    (calls : List (EventEnvelope E))
    : List (EventEnvelope E) :=
  (recorded trait pinned projection calls).projection.2

-- The two runners go through the same calls, one of them with a projection that records.
structure Mirrors (trait : EventProjection P E) (projection : P) (pinned : Option TenantId)
    (runner : ProjectionRunner P) (record : ProjectionRunner (P × List (EventEnvelope E)))
    : Prop where
  cursor : record.cursor = runner.cursor
  inner : record.projection.1 = runner.projection
  folded : runner.projection = record.projection.2.foldl trait.apply projection
  last : (record.projection.2 = [] ∧ runner.cursor = (start pinned projection).cursor)
    ∨ ∃ before e, record.projection.2 = before ++ [e] ∧ runner.cursor = some (cursorAt e)
  tenant : ∀ e ∈ record.projection.2, ∀ c, runner.cursor = some c → e.tenantId = c.tenantId
  below : ∀ e ∈ record.projection.2, ∀ c, runner.cursor = some c →
    e.sequenceNumber ≤ c.lastSequenceNumber
  ordered : record.projection.2.Pairwise fun e e' => e.sequenceNumber < e'.sequenceNumber
  pin : ∀ tenantId, pinned = some tenantId → ∃ c, runner.cursor = some c ∧ c.tenantId = tenantId

theorem Mirrors.start (trait : EventProjection P E) (projection : P) (pinned : Option TenantId)
    : Mirrors trait projection pinned (start pinned projection)
        (start pinned (projection, [])) := by
  cases pinned with
  | none =>
    refine ⟨rfl, rfl, rfl, .inl ⟨rfl, rfl⟩, ?_, ?_, .nil, ?_⟩
    . intro e he
      cases he
    . intro e he
      cases he
    . intro tenantId h
      cases h
  | some tenantId =>
    refine ⟨rfl, rfl, rfl, .inl ⟨rfl, rfl⟩, ?_, ?_, .nil, ?_⟩
    . intro e he
      cases he
    . intro e he
      cases he
    . intro tenantId' h
      cases h
      exact ⟨_, rfl, rfl⟩

variable {projection : P} {runner : ProjectionRunner P}
variable {record : ProjectionRunner (P × List (EventEnvelope E))}

theorem Mirrors.eq_nil (h : Mirrors trait projection pinned runner record)
    (hcursor : runner.cursor = none)
    : record.projection.2 = [] := by
  rcases h.last with ⟨hnil, -⟩ | ⟨before, e, -, hlast⟩
  . exact hnil
  . rw [hcursor] at hlast
    cases hlast

theorem Mirrors.accept (h : Mirrors trait projection pinned runner record)
    (haccepts : Accepts runner.cursor envelope)
    : Mirrors trait projection pinned
        ⟨trait.apply runner.projection envelope, some (cursorAt envelope)⟩
        ⟨(recording trait).apply record.projection envelope, some (cursorAt envelope)⟩ where
  cursor := rfl
  inner := congrArg (trait.apply · envelope) h.inner
  folded := by
    change _ = (record.projection.2 ++ [envelope]).foldl trait.apply projection
    rw [List.foldl_append, ← h.folded]
    rfl
  last := .inr ⟨record.projection.2, envelope, rfl, rfl⟩
  tenant e he c hc := by
    cases hc
    rcases List.mem_append.mp he with hold | hnew
    . cases hcursor : runner.cursor with
      | none =>
        rw [h.eq_nil hcursor] at hold
        cases hold
      | some c => exact (h.tenant e hold c hcursor).trans (haccepts c hcursor).1
    . cases List.mem_singleton.mp hnew
      rfl
  below e he c hc := by
    cases hc
    rcases List.mem_append.mp he with hold | hnew
    . cases hcursor : runner.cursor with
      | none =>
        rw [h.eq_nil hcursor] at hold
        cases hold
      | some c =>
        exact Nat.le_of_lt (Nat.lt_of_le_of_lt (h.below e hold c hcursor) (haccepts c hcursor).2)
    . cases List.mem_singleton.mp hnew
      exact Nat.le_refl _
  ordered := by
    change (record.projection.2 ++ [envelope]).Pairwise _
    rw [List.pairwise_append]
    refine ⟨h.ordered, List.pairwise_singleton _ _, ?_⟩
    intro e he e' he'
    cases List.mem_singleton.mp he'
    cases hcursor : runner.cursor with
    | none =>
      rw [h.eq_nil hcursor] at he
      cases he
    | some c => exact Nat.lt_of_le_of_lt (h.below e he c hcursor) (haccepts c hcursor).2
  pin tenantId hpinned := by
    rcases h.pin tenantId hpinned with ⟨c, hcursor, htenant⟩
    exact ⟨cursorAt envelope, rfl, (haccepts c hcursor).1.symm.trans htenant⟩

theorem Mirrors.apply (h : Mirrors trait projection pinned runner record)
    (envelope : EventEnvelope E)
    : Mirrors trait projection pinned (runner.apply trait envelope).2
        (record.apply (recording trait) envelope).2 := by
  by_cases haccepts : Accepts runner.cursor envelope
  . have haccepts' : Accepts record.cursor envelope := by
      rw [h.cursor]
      exact haccepts
    rw [apply_of_accepts haccepts, apply_of_accepts haccepts']
    exact h.accept haccepts
  . have haccepts' : ¬ Accepts record.cursor envelope := by
      rw [h.cursor]
      exact haccepts
    rcases apply_of_not_accepts trait haccepts with ⟨err, herr⟩
    rcases apply_of_not_accepts (recording trait) haccepts' with ⟨err', herr'⟩
    rw [herr, herr']
    exact h

theorem mirrors_applyEach (trait : EventProjection P E) (projection : P) (pinned : Option TenantId)
    (calls : List (EventEnvelope E))
    : Mirrors trait projection pinned (applyEach trait (start pinned projection) calls)
        (recorded trait pinned projection calls) := by
  induction calls using List.reverseRecOn with
  | nil => exact Mirrors.start trait projection pinned
  | append_singleton calls envelope ih =>
    unfold recorded at ih ⊢
    rw [applyEach_append, applyEach_append]
    exact ih.apply envelope

theorem passed_concat (trait : EventProjection P E) (pinned : Option TenantId) (projection : P)
    (haccepts : Accepts (applyEach trait (start pinned projection) calls).cursor envelope)
    : passed trait pinned projection (calls ++ [envelope])
        = passed trait pinned projection calls ++ [envelope] := by
  rw [← (mirrors_applyEach trait projection pinned calls).cursor] at haccepts
  unfold passed recorded at *
  rw [applyEach_append]
  change ((applyEach (recording trait) (start pinned (projection, [])) calls).apply
    (recording trait) envelope).2.projection.2 = _
  rw [apply_of_accepts haccepts]
  rfl

-- Where a call of `run` ends: after all of the envelopes, or before the first one that is rejected.
theorem run_outcome (trait : EventProjection P E) (pinned : Option TenantId) (projection : P)
    (calls envelopes : List (EventEnvelope E))
    : ∃ before after, envelopes = before ++ after
        ∧ passed trait pinned projection (calls ++ before)
            = passed trait pinned projection calls ++ before
        ∧ ((after = []
            ∧ (applyEach trait (start pinned projection) calls).run trait envelopes
              = (.ok (), applyEach trait (start pinned projection) (calls ++ before)))
          ∨ ∃ rejected rest err, after = rejected :: rest
            ∧ (applyEach trait (start pinned projection) (calls ++ before)).apply trait rejected
              = (.error err, applyEach trait (start pinned projection) (calls ++ before))
            ∧ (applyEach trait (start pinned projection) calls).run trait envelopes
              = (.error err, applyEach trait (start pinned projection) (calls ++ before))) := by
  induction envelopes generalizing calls with
  | nil =>
    refine ⟨[], [], rfl, by simp, .inl ⟨rfl, ?_⟩⟩
    rw [List.append_nil]
    rfl
  | cons envelope envelopes ih =>
    by_cases haccepts : Accepts (applyEach trait (start pinned projection) calls).cursor envelope
    . have hnext : applyEach trait (start pinned projection) (calls ++ [envelope])
          = ⟨trait.apply (applyEach trait (start pinned projection) calls).projection envelope,
            some (cursorAt envelope)⟩ := by
        rw [applyEach_append]
        change ((applyEach trait (start pinned projection) calls).apply trait envelope).2 = _
        rw [apply_of_accepts haccepts]
      have hrun : (applyEach trait (start pinned projection) calls).run trait
        (envelope :: envelopes)
          = (applyEach trait (start pinned projection) (calls ++ [envelope])).run
              trait envelopes := by
        rw [hnext, run, apply_of_accepts haccepts]
      rcases ih (calls ++ [envelope]) with ⟨before, after, hsplit, hpassed, houtcome⟩
      rw [passed_concat trait pinned projection haccepts, List.append_assoc, List.append_assoc]
        at hpassed
      rw [List.append_assoc] at houtcome
      rw [hrun]
      exact ⟨envelope :: before, after, congrArg (envelope :: ·) hsplit, hpassed, houtcome⟩
    . rcases apply_of_not_accepts trait haccepts with ⟨err, herr⟩
      refine ⟨[], envelope :: envelopes, rfl, by simp, .inr ⟨envelope, envelopes, err, rfl, ?_⟩⟩
      rw [List.append_nil, run, herr]
      exact ⟨rfl, rfl⟩

/--
Whatever `apply` is called with, the projection is given envelopes of one tenant with ever greater
sequence numbers, the cursor is at the last one of them, and a call that fails changes nothing.
`run` stops at the first envelope that is rejected.
-/
theorem passed_exactly_once (trait : EventProjection P E)
    (pinned : Option TenantId) (projection : P)
    (calls : List (EventEnvelope E))
    : (applyEach trait (start pinned projection) calls).projection
          = (passed trait pinned projection calls).foldl trait.apply projection
        ∧ (∃ tenantId, ∀ e ∈ passed trait pinned projection calls, e.tenantId = tenantId)
        ∧ (∀ tenantId, pinned = some tenantId →
            ∀ e ∈ passed trait pinned projection calls, e.tenantId = tenantId)
        ∧ ((passed trait pinned projection calls).Pairwise
            fun e e' => e.sequenceNumber < e'.sequenceNumber)
        ∧ (∀ last, (passed trait pinned projection calls).getLast? = some last →
            (applyEach trait (start pinned projection) calls).cursor = some (cursorAt last))
        ∧ (∀ envelope err runner,
            (applyEach trait (start pinned projection) calls).apply trait envelope
              = (.error err, runner) →
            runner = applyEach trait (start pinned projection) calls)
        ∧ ∀ envelopes, ∃ before after, envelopes = before ++ after
          ∧ passed trait pinned projection (calls ++ before)
              = passed trait pinned projection calls ++ before
          ∧ ((after = []
              ∧ (applyEach trait (start pinned projection) calls).run trait envelopes
                = (.ok (), applyEach trait (start pinned projection) (calls ++ before)))
            ∨ ∃ rejected rest err, after = rejected :: rest
              ∧ (applyEach trait (start pinned projection) (calls ++ before)).apply trait rejected
                = (.error err, applyEach trait (start pinned projection) (calls ++ before))
              ∧ (applyEach trait (start pinned projection) calls).run trait envelopes
                = (.error err, applyEach trait (start pinned projection) (calls ++ before))) := by
  have h := mirrors_applyEach trait projection pinned calls
  refine ⟨h.folded, ?_, ?_, h.ordered, ?_, ?_, run_outcome trait pinned projection calls⟩
  . cases hcursor : (applyEach trait (start pinned projection) calls).cursor with
    | none =>
      refine ⟨⟨⟨0⟩⟩, ?_⟩
      intro e he
      unfold passed at he
      rw [h.eq_nil hcursor] at he
      cases he
    | some c => exact ⟨c.tenantId, fun e he => h.tenant e he c hcursor⟩
  . intro tenantId hpinned e he
    rcases h.pin tenantId hpinned with ⟨c, hcursor, htenant⟩
    exact (h.tenant e he c hcursor).trans htenant
  . intro last hlast
    unfold passed at hlast
    rcases h.last with ⟨hnil, -⟩ | ⟨before, e, hpassed, hcursor⟩
    . rw [hnil] at hlast
      cases hlast
    . rw [hpassed, List.getLast?_concat] at hlast
      cases hlast
      exact hcursor
  . intro envelope err runner happly
    by_cases haccepts : Accepts (applyEach trait (start pinned projection) calls).cursor envelope
    . rw [apply_of_accepts haccepts] at happly
      cases happly
    . rcases apply_of_not_accepts trait haccepts with ⟨err', herr⟩
      rw [herr] at happly
      cases happly
      rfl

end ExactlyOnce

end ProjectionRunner

namespace Tally

open ProjectionRunner

def envelope (aggregateId sequenceNumber : Nat) : EventEnvelope Nat where
  eventId := ⟨0⟩
  tenantId := ⟨⟨1⟩⟩
  aggregateId := ⟨⟨.ofNat 128 aggregateId⟩⟩
  aggregateType := "tally"
  sequenceNumber
  payload := sequenceNumber

-- A projection that keeps what it is given.
def trait : EventProjection (List Nat) Nat where
  apply seen envelope := seen ++ [envelope.payload]

theorem history_one : History ⟨⟨1⟩⟩ [envelope 2 1, envelope 2 2] where
  tenant := by simp [envelope]
  numbered := by
    intro aggregateId
    unfold streamOf
    by_cases h : (envelope 2 1).aggregateId = aggregateId
    . have h' : (envelope 2 2).aggregateId = aggregateId := h
      simp only [List.filter_cons, h, h', decide_true, if_true, List.filter_nil]
      rfl
    . have h' : ¬ (envelope 2 2).aggregateId = aggregateId := h
      simp [h, h']

theorem rebuild_applies_all_one
    : ∃ cursor, rebuildFromScratch trait [] [envelope 2 1, envelope 2 2] = .ok ([1, 2], cursor) :=
  (rebuild_applies_all_iff trait [] _ _ history_one).mpr (by decide)

theorem history_two : History ⟨⟨1⟩⟩ [envelope 2 1, envelope 3 1] where
  tenant := by simp [envelope]
  numbered := by
    intro aggregateId
    unfold streamOf
    by_cases h : (envelope 2 1).aggregateId = aggregateId
    . have h' : ¬ (envelope 3 1).aggregateId = aggregateId := by
        rw [← h]
        decide
      simp only [List.filter_cons, h, h', decide_true, decide_false, if_true, List.filter_nil]
      rfl
    . by_cases h' : (envelope 3 1).aggregateId = aggregateId
      . simp only [List.filter_cons, h, h', decide_true, decide_false, if_true, List.filter_nil]
        rfl
      . simp [h, h']

/--
The first events of two aggregates are both number 1, and the second one of them is refused.
-/
theorem rebuild_refuses_two
    : ¬ ∀ tenantId envelopes, History tenantId envelopes →
        ∃ cursor, rebuildFromScratch trait [] envelopes
          = .ok (envelopes.foldl trait.apply [], cursor) := by
  intro h
  rcases h _ _ history_two with ⟨cursor, hrebuild⟩
  have herror : rebuildFromScratch trait [] [envelope 2 1, envelope 3 1]
      = .error (.nonMonotonicSequence 1 1) := by rfl
  rw [herror] at hrebuild
  cases hrebuild

end Tally

end ForgeErp
