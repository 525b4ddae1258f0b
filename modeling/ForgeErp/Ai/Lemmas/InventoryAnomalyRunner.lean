import ForgeErp.Ai.InventoryAnomalyRunner
import ForgeErp.Core.Text

/-!
This module contains the verification of the cadence. The loop that catches up walks from tick to
tick until it is past the clock, which an interval of nothing never brings it to.
-/

namespace ForgeErp

namespace InventoryAnomalyRunner

section CatchUp

variable {latest fuel : Nat} {interval : Duration} {now nextTick tick : Instant}

-- The first of the ticks `nextTick, nextTick + interval, ...` after `now`.
def tickAfter (interval : Duration) (now nextTick : Instant) : Nat :=
  nextTick.nanos + ((now.nanos - nextTick.nanos) / interval.nanos + 1) * interval.nanos

/--
The loop ends, on the first tick of the old cadence that is after `now`.
-/
def CatchesUp (latest : Nat) (interval : Duration) (now nextTick : Instant) : Prop :=
  ∃ fuel tick, catchUp latest interval now fuel nextTick = .ended tick
    ∧ now.nanos < tick.nanos
    ∧ tick.nanos ≤ now.nanos + interval.nanos
    ∧ ∃ k, tick.nanos = nextTick.nanos + k * interval.nanos

theorem catchUp_of_lt (h : now.nanos < nextTick.nanos) (fuel : Nat)
    : catchUp latest interval now (fuel + 1) nextTick = .ended nextTick := by
  unfold catchUp
  exact if_neg (by omega)

theorem catchUp_of_le (h : nextTick.nanos ≤ now.nanos) (fuel : Nat)
    : catchUp latest interval now (fuel + 1) nextTick
        =
      if nextTick.nanos + interval.nanos ≤ latest then
        catchUp latest interval now fuel ⟨nextTick.nanos + interval.nanos⟩
      else
        .panicked := by
  rw [catchUp, if_pos h]
  unfold Instant.add
  by_cases hfits : nextTick.nanos + interval.nanos ≤ latest
  . rw [if_pos hfits, if_pos hfits]
  . rw [if_neg hfits, if_neg hfits]

-- By induction on the rounds: every one of them starts at a tick that is not past the clock.
theorem catchUp_eq_ended (h : catchUp latest interval now fuel nextTick = .ended tick)
    (hle : nextTick.nanos ≤ now.nanos)
    : now.nanos < tick.nanos ∧ tick.nanos ≤ now.nanos + interval.nanos ∧ tick.nanos ≤ latest
      ∧ ∃ k, tick.nanos = nextTick.nanos + (k + 1) * interval.nanos := by
  induction fuel generalizing nextTick with
  | zero => cases h
  | succ fuel ih =>
    rw [catchUp_of_le hle] at h
    split at h
    . next hfits =>
      by_cases hnext : nextTick.nanos + interval.nanos ≤ now.nanos
      . rcases ih h hnext with ⟨hlt, hwithin, hlatest, k, hk⟩
        refine ⟨hlt, hwithin, hlatest, k + 1, ?_⟩
        rw [hk, Nat.add_mul (k + 1) 1]
        dsimp only
        omega
      . cases fuel with
        | zero => cases h
        | succ fuel =>
          rw [catchUp_of_lt (Nat.not_le.mp hnext)] at h
          cases h
          refine ⟨Nat.not_le.mp hnext, Nat.add_le_add_right hle _, hfits, 0, ?_⟩
          rw [Nat.zero_add, Nat.one_mul]
    . cases h

theorem catchUp_reaches (m : Nat) (hle : nextTick.nanos + m * interval.nanos ≤ now.nanos)
    (hlt : now.nanos < nextTick.nanos + (m + 1) * interval.nanos)
    (hlatest : nextTick.nanos + (m + 1) * interval.nanos ≤ latest)
    : catchUp latest interval now (m + 2) nextTick
        =
      .ended ⟨nextTick.nanos + (m + 1) * interval.nanos⟩ := by
  induction m generalizing nextTick with
  | zero =>
    rw [Nat.zero_mul, Nat.add_zero] at hle
    rw [Nat.zero_add, Nat.one_mul] at hlt hlatest ⊢
    rw [catchUp_of_le hle, if_pos hlatest]
    exact catchUp_of_lt hlt 0
  | succ m ih =>
    rw [Nat.add_mul (m + 1) 1, Nat.one_mul] at hlt hlatest ⊢
    rw [Nat.add_mul m 1, Nat.one_mul] at hle
    rw [catchUp_of_le (by omega), if_pos (by omega), ih]
    . dsimp only
      congr 2
      omega
    . dsimp only
      omega
    . dsimp only
      omega
    . dsimp only
      omega

theorem tickAfter_spec (hinterval : 0 < interval.nanos) (hle : nextTick.nanos ≤ now.nanos)
    : nextTick.nanos + (now.nanos - nextTick.nanos) / interval.nanos * interval.nanos ≤ now.nanos
      ∧ now.nanos < tickAfter interval now nextTick := by
  have hdiv := Nat.div_mul_le_self (now.nanos - nextTick.nanos) interval.nanos
  have hlt := Nat.lt_mul_div_succ (now.nanos - nextTick.nanos) hinterval
  rw [Nat.mul_comm] at hlt
  unfold tickAfter
  omega

theorem tickAfter_eq {k : Nat} (hlt : now.nanos < nextTick.nanos + (k + 1) * interval.nanos)
    (hwithin : nextTick.nanos + (k + 1) * interval.nanos ≤ now.nanos + interval.nanos)
    : tickAfter interval now nextTick = nextTick.nanos + (k + 1) * interval.nanos := by
  have hsucc : (k + 1) * interval.nanos = k * interval.nanos + interval.nanos := Nat.succ_mul _ _
  have hdiv : (now.nanos - nextTick.nanos) / interval.nanos = k := by
    apply Nat.div_eq_of_lt_le
    . omega
    . omega
  unfold tickAfter
  rw [hdiv]

def Catchable (latest : Nat) (interval : Duration) (now nextTick : Instant) : Prop :=
  0 < interval.nanos
  ∧ nextTick.nanos ≤ now.nanos + interval.nanos
  ∧ (nextTick.nanos ≤ now.nanos → tickAfter interval now nextTick ≤ latest)

theorem catchesUp_iff
    : CatchesUp latest interval now nextTick ↔ Catchable latest interval now nextTick := by
  constructor
  . rintro ⟨fuel, tick, hended, hlt, hwithin, _⟩
    by_cases hle : nextTick.nanos ≤ now.nanos
    . rcases catchUp_eq_ended hended hle with ⟨_, _, hlatest, k, hk⟩
      rw [hk] at hlt hwithin hlatest
      refine ⟨by omega, by omega, ?_⟩
      intro _
      rw [tickAfter_eq hlt hwithin]
      exact hlatest
    . cases fuel with
      | zero => cases hended
      | succ fuel =>
        rw [catchUp_of_lt (Nat.not_le.mp hle)] at hended
        cases hended
        exact ⟨by omega, hwithin, fun h => absurd h hle⟩
  . rintro ⟨hinterval, hwithin, hlatest⟩
    by_cases hle : nextTick.nanos ≤ now.nanos
    . rcases tickAfter_spec hinterval hle with ⟨hbefore, hafter⟩
      have hreaches := catchUp_reaches _ hbefore hafter (hlatest hle)
      refine ⟨_, _, hreaches, hafter, ?_, _, rfl⟩
      dsimp only
      rw [Nat.succ_mul]
      omega
    . refine ⟨1, nextTick, catchUp_of_lt (Nat.not_le.mp hle) 0, Nat.not_le.mp hle, hwithin, 0, ?_⟩
      rw [Nat.zero_mul, Nat.add_zero]

end CatchUp

section Iterations

variable {overflowChecks : Bool} {latest : Nat} {cfg : InventoryAnomalyRunner}
  {fuel : Nat} {s s' : State}

theorem tick_eq_ended {now : Instant} (h : tick latest cfg fuel s now = .ended s')
    : (s'.nextTick = s.nextTick ∧ now.nanos < s.nextTick.nanos)
      ∨ (s.nextTick.nanos ≤ now.nanos
          ∧ ∃ fuel', catchUp latest cfg.interval now fuel' s.nextTick = .ended s'.nextTick) := by
  unfold tick at h
  split at h
  . next hle =>
    split at h
    . cases h
    . cases h
    . next nextTick hended =>
      cases h
      exact Or.inr ⟨hle, fuel, hended⟩
  . next hlt =>
    cases h
    exact Or.inl ⟨rfl, Nat.not_le.mp hlt⟩

/--
The next tick is one of the ticks that were due when the thread was started, and of these the first
one after the last reading of the clock.
-/
structure Cadence (cfg : InventoryAnomalyRunner) (t : Thread) : Prop where
  onGrid : ∃ k, t.state.nextTick.nanos = t.startedAt.nanos + k * cfg.interval.nanos
  ahead : t.lastNow.nanos < t.state.nextTick.nanos
  soon : t.state.nextTick.nanos ≤ t.lastNow.nanos + cfg.interval.nanos

theorem Cadence.tick {t : Thread} (h : Cadence cfg t) {now : Instant}
    (hnow : t.lastNow.nanos ≤ now.nanos)
    {s₁ : State} (htick : tick latest cfg fuel t.state now = .ended s₁) {state : State}
    (hstate : state.nextTick = s₁.nextTick)
    : Cadence cfg { t with lastNow := now, state } := by
  rcases h with ⟨⟨k, hk⟩, _, hsoon⟩
  rcases tick_eq_ended htick with ⟨hsame, hlt⟩ | ⟨hle, fuel', hended⟩
  . have hnext : state.nextTick = t.state.nextTick := hstate.trans hsame
    refine ⟨⟨k, ?_⟩, ?_, ?_⟩
    . dsimp only
      rw [hnext]
      exact hk
    . dsimp only
      rw [hnext]
      exact hlt
    . dsimp only
      rw [hnext]
      omega
  . rcases catchUp_eq_ended hended hle with ⟨hlt, hwithin, _, m, hm⟩
    rw [← hstate] at hlt hwithin hm
    refine ⟨⟨k + (m + 1), ?_⟩, hlt, hwithin⟩
    dsimp only
    rw [hm, hk, Nat.add_mul k (m + 1), Nat.add_assoc]

theorem Cadence.catchable {t : Thread} (h : Cadence cfg t) (hinterval : 0 < cfg.interval.nanos)
    {now : Instant} (hnow : t.lastNow.nanos ≤ now.nanos)
    (hlatest : t.state.nextTick.nanos ≤ now.nanos →
      tickAfter cfg.interval now t.state.nextTick ≤ latest)
    : Catchable latest cfg.interval now t.state.nextTick := by
  have hsoon := h.soon
  exact ⟨hinterval, by omega, hlatest⟩

theorem fail_nextTick {retryNow : Instant}
    (h : fail overflowChecks latest cfg s retryNow = .ended s')
    : s'.nextTick = s.nextTick := by
  unfold fail at h
  split at h
  . cases h
  . split at h
    . split at h
      . cases h
      . cases h
        rfl
    . cases h
      rfl

variable [FloatText] [TextFormat Uuid] {tenantId : TenantId} {it : Iteration}

theorem work_nextTick (h : work overflowChecks latest cfg tenantId s it = .ended s')
    : s'.nextTick = s.nextTick := by
  unfold work at h
  dsimp only at h
  split at h
  . exact fail_nextTick (s := { s with pending := false }) h
  . split at h
    . cases h
    . cases h
      rfl
    . exact fail_nextTick (s := { s with pending := false }) h

-- Nothing but the tick at the top of an iteration moves the next one.
theorem iterate_nextTick (h : iterate overflowChecks latest cfg tenantId fuel s it = .ended s')
    : (it.shutdown = true ∧ s' = { s with stopped := true })
      ∨ (it.shutdown = false
          ∧ ∃ s₁, tick latest cfg fuel s it.now = .ended s₁ ∧ s'.nextTick = s₁.nextTick) := by
  unfold iterate at h
  split at h
  . next hshutdown =>
    cases h
    exact Or.inl ⟨hshutdown, rfl⟩
  . next hshutdown =>
    refine Or.inr ⟨by simpa using hshutdown, ?_⟩
    split at h
    . cases h
    . cases h
    . next s₁ htick =>
      refine ⟨s₁, htick, ?_⟩
      generalize htriggered : (if it.triggered then { s₁ with pending := true } else s₁) = s₂ at h
      have hsame : s₂.nextTick = s₁.nextTick := by
        rw [← htriggered]
        split
        . rfl
        . rfl
      dsimp only at h
      split at h
      . cases h
        exact hsame
      . split at h
        . cases h
          exact hsame
        . exact (work_nextTick h).trans hsame

theorem runnerLoop_step {t t' : Thread}
    (h : (runnerLoop overflowChecks latest cfg tenantId).step t (fuel, it) = some t')
    : ∃ state, iterate overflowChecks latest cfg tenantId fuel t.state it = .ended state
        ∧ t.lastNow.nanos ≤ (if it.shutdown then t.lastNow else it.now).nanos
        ∧ t' = { t with lastNow := if it.shutdown then t.lastNow else it.now, state } := by
  unfold runnerLoop at h
  dsimp only at h
  generalize (if it.shutdown then t.lastNow else it.now) = now at h ⊢
  split at h
  . cases h
  . next hclock =>
    rw [Bool.or_eq_true, not_or, decide_eq_true_eq, Nat.not_lt] at hclock
    split at h
    . next state hended => exact ⟨state, hended, hclock.2, (Option.some.inj h).symm⟩
    . cases h

theorem cadence_of_reachable (hinterval : 0 < cfg.interval.nanos) {t : Thread}
    (ht : (runnerLoop overflowChecks latest cfg tenantId).Reachable t) : Cadence cfg t := by
  apply Machine.Reachable.invariant _ _ t ht
  . rintro t ⟨hnow, hstart⟩
    unfold start Instant.add at hstart
    split at hstart
    . have hnext : t.state.nextTick.nanos = t.startedAt.nanos + cfg.interval.nanos := by
        rw [← Option.some.inj hstart]
      refine ⟨⟨1, ?_⟩, ?_, ?_⟩
      . rw [hnext, Nat.one_mul]
      . rw [hnow, hnext]
        omega
      . rw [hnow, hnext]
    . cases hstart
  . rintro t ⟨fuel, it⟩ t' h hstep
    rcases runnerLoop_step hstep with ⟨state, hended, hclock, rfl⟩
    rcases iterate_nextTick hended with ⟨hshutdown, rfl⟩ | ⟨hshutdown, s₁, htick, hstate⟩
    . rw [if_pos hshutdown]
      exact ⟨h.onGrid, h.ahead, h.soon⟩
    . have hrunning : ¬ it.shutdown = true := by simp [hshutdown]
      rw [if_neg hrunning] at hclock ⊢
      exact h.tick hclock htick hstate

theorem cadence_kept_iff (overflowChecks : Bool) (latest : Nat) (cfg : InventoryAnomalyRunner)
    (tenantId : TenantId) (t : Thread)
    (ht : (runnerLoop overflowChecks latest cfg tenantId).Reachable t)
    : (∀ now nextTick, CatchesUp latest cfg.interval now nextTick
          ↔ Catchable latest cfg.interval now nextTick)
      ∧ (0 < cfg.interval.nanos →
          Cadence cfg t
          ∧ ∀ now : Instant, t.lastNow.nanos ≤ now.nanos →
              (t.state.nextTick.nanos ≤ now.nanos →
                tickAfter cfg.interval now t.state.nextTick ≤ latest) →
              CatchesUp latest cfg.interval now t.state.nextTick) := by
  refine ⟨fun _ _ => catchesUp_iff, ?_⟩
  intro hinterval
  have hcadence := cadence_of_reachable hinterval ht
  refine ⟨hcadence, ?_⟩
  intro now hnow hlatest
  exact catchesUp_iff.mpr (hcadence.catchable hinterval hnow hlatest)

end Iterations

section Hourly

open Concrete

def restless : Duration := ⟨0⟩

-- With nothing to add the loop never gets past the clock.
theorem restless_never_ends
    : (∀ fuel, catchUp (2 ^ 63 * 10 ^ 9) restless ⟨7⟩ fuel ⟨7⟩ = .running)
      ∧ ¬ CatchesUp (2 ^ 63 * 10 ^ 9) restless ⟨7⟩ ⟨7⟩ := by
  have hrunning : ∀ fuel, catchUp (2 ^ 63 * 10 ^ 9) restless ⟨7⟩ fuel ⟨7⟩ = .running := by
    intro fuel
    induction fuel with
    | zero => rfl
    | succ fuel ih =>
      rw [catchUp_of_le (Nat.le_refl 7), if_pos (by decide)]
      exact ih
  refine ⟨hrunning, ?_⟩
  rintro ⟨fuel, tick, hended, _⟩
  rw [hrunning fuel] at hended
  cases hended

def tenantId : TenantId := ⟨⟨1⟩⟩

def started : Thread where
  startedAt := ⟨0⟩
  lastNow := ⟨0⟩
  state := ⟨⟨60 * 10 ^ 9⟩, true, 0, none, [], false⟩

theorem cadence_kept_iff_started
    : Cadence default started ∧ CatchesUp (2 ^ 63 * 10 ^ 9) default.interval ⟨200 * 10 ^ 9⟩
        ⟨60 * 10 ^ 9⟩ := by
  have hreachable : (runnerLoop true (2 ^ 63 * 10 ^ 9) default tenantId).Reachable started :=
    .init ⟨rfl, rfl⟩
  have hkept := cadence_kept_iff true (2 ^ 63 * 10 ^ 9) default tenantId started hreachable
  rcases hkept.2 (by decide) with ⟨hcadence, hcatches⟩
  exact ⟨hcadence, hcatches ⟨200 * 10 ^ 9⟩ (by decide) (by decide)⟩

end Hourly

end InventoryAnomalyRunner

end ForgeErp
