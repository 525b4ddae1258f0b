import ForgeErp.Ai.InventoryAnomaly

/-!
This module contains the verification of the window arithmetic. The differences saturate and the
sums do not, so that it comes down to whether `window + 2` is a `usize`.
-/

namespace ForgeErp

namespace InventoryAnomaly

theorem addUsize_of_fits {a b : UInt64} (h : a.toNat + b.toNat < 2 ^ 64) (overflowChecks : Bool)
    : ∃ sum, addUsize overflowChecks a b = some sum ∧ sum.toNat = a.toNat + b.toNat := by
  refine ⟨a + b, ?_, ?_⟩
  . unfold addUsize
    rw [decide_eq_false (Nat.not_le.mpr h), Bool.and_false, if_neg Bool.false_ne_true]
  . rw [UInt64.toNat_add, Nat.mod_eq_of_lt h]

theorem addUsize_of_not_fits {a b : UInt64} (h : ¬ a.toNat + b.toNat < 2 ^ 64)
    : addUsize true a b = none := by
  unfold addUsize
  rw [decide_eq_true (Nat.not_lt.mp h)]
  rfl

-- A slice that is in range cuts its list in three.
theorem sliceOf_eq_some {α : Type} {xs : List α} {start stop : Nat} (hle : start ≤ stop)
    (hstop : stop ≤ xs.length)
    : ∃ mid, sliceOf xs start stop = some mid ∧ mid.length = stop - start
        ∧ xs = xs.take start ++ mid ++ xs.drop stop := by
  refine ⟨(xs.drop start).take (stop - start), if_pos ⟨hle, hstop⟩, ?_, ?_⟩
  . rw [List.length_take, List.length_drop]
    omega
  . have hdrop : xs.drop stop = (xs.drop start).drop (stop - start) := by
      rw [List.drop_drop]
      congr 1
      omega
    rw [hdrop, List.append_assoc, List.take_append_drop, List.take_append_drop]

/--
Every delta is the difference of two neighbours of the trend.
-/
structure Deltas (historicalTrend : List Int64) (deltas : List Float) : Prop where
  length_eq : deltas.length = historicalTrend.length - 1
  delta : ∀ i prev cur, historicalTrend[i]? = some prev → historicalTrend[i + 1]? = some cur →
    deltas[i]? = some (cur.toFloat - prev.toFloat)

theorem mapM_eq_some_map {α β : Type} {f : α → Option β} {g : α → β} {l : List α}
    (h : ∀ a ∈ l, f a = some (g a)) : l.mapM f = some (l.map g) := by
  induction l with
  | nil => rfl
  | cons a l ih =>
    rw [List.forall_mem_cons] at h
    rw [List.mapM_cons, h.1, ih h.2]
    rfl

-- No round of the loop reads outside of the trend.
theorem deltasOf_eq_some (historicalTrend : List Int64)
    : ∃ deltas, deltasOf historicalTrend = some deltas ∧ Deltas historicalTrend deltas := by
  have hmap : deltasOf historicalTrend
      = some ((List.range' 1 (historicalTrend.length - 1)).map fun i =>
          (historicalTrend[i]?.getD 0).toFloat - (historicalTrend[i - 1]?.getD 0).toFloat) := by
    apply mapM_eq_some_map
    intro i hi
    rw [List.mem_range'_1] at hi
    have hcur : i < historicalTrend.length := by omega
    have hprev : i - 1 < historicalTrend.length := by omega
    rw [List.getElem?_eq_getElem hcur, List.getElem?_eq_getElem hprev]
    rfl
  refine ⟨_, hmap, ?_, ?_⟩
  . rw [List.length_map, List.length_range']
  . intro i prev cur hprev hcur
    have hlt := (List.getElem?_eq_some_iff.mp hcur).1
    rw [List.getElem?_map, List.getElem?_range' (by omega), Option.map_some, Nat.one_mul,
      Nat.add_comm 1 i,
      hcur, Nat.add_sub_cancel, hprev]
    rfl

variable [FloatText]

/--
In every build: too few points give no anomaly, and from `window + 2` points on the deltas end in
`window` of them for the baseline and the one that is judged by it.
-/
structure WindowSound (item : InventoryItemSnapshot) (window : UInt64) (zThreshold : Float)
    : Prop where
  tooFew : ∀ overflowChecks, item.historicalTrend.length < window.toNat + 2 →
    detectItemAnomaly overflowChecks item window zThreshold = some none
  enough : ∀ overflowChecks, window.toNat + 2 ≤ item.historicalTrend.length →
    ∃ deltas earlier baseline last, Deltas item.historicalTrend deltas
      ∧ deltas = earlier ++ baseline ++ [last]
      ∧ baseline.length = window.toNat
      ∧ detectItemAnomaly overflowChecks item window zThreshold
          = some (assess item.itemId zThreshold last baseline)

variable {item : InventoryItemSnapshot} {window : UInt64} {zThreshold : Float}

theorem detectItemAnomaly_of_not_fits (h : ¬ window.toNat + 2 < 2 ^ 64)
    : detectItemAnomaly true item window zThreshold = none := by
  unfold detectItemAnomaly
  have hnone : addUsize true window 2 = none := addUsize_of_not_fits h
  rw [hnone]

theorem detectItemAnomaly_of_tooFew (h : window.toNat + 2 < 2 ^ 64)
    (hlength : item.historicalTrend.length < window.toNat + 2) (overflowChecks : Bool)
    : detectItemAnomaly overflowChecks item window zThreshold = some none := by
  rcases addUsize_of_fits (a := window) (b := 2) h overflowChecks with ⟨needed, hneeded, hvalue⟩
  unfold detectItemAnomaly
  rw [hneeded]
  dsimp only
  rw [hvalue, if_pos]
  exact hlength

theorem detectItemAnomaly_of_enough (h : window.toNat + 2 < 2 ^ 64)
    (hlength : window.toNat + 2 ≤ item.historicalTrend.length) (overflowChecks : Bool)
    : ∃ deltas earlier baseline last, Deltas item.historicalTrend deltas
        ∧ deltas = earlier ++ baseline ++ [last]
        ∧ baseline.length = window.toNat
        ∧ detectItemAnomaly overflowChecks item window zThreshold
            = some (assess item.itemId zThreshold last baseline) := by
  rcases addUsize_of_fits (a := window) (b := 2) h overflowChecks with ⟨needed, hneeded, hvalue⟩
  have hone : window.toNat + (1 : UInt64).toNat < 2 ^ 64 := by
    have : (1 : UInt64).toNat = 1 := rfl
    omega
  rcases addUsize_of_fits hone overflowChecks with ⟨width, hwidth, hvalue'⟩
  rcases deltasOf_eq_some item.historicalTrend with ⟨deltas, hdeltas, hspec⟩
  have hvalue : needed.toNat = window.toNat + 2 := hvalue
  have hvalue' : width.toNat = window.toNat + 1 := hvalue'
  have hcount := hspec.length_eq
  have hrange : deltas.length - width.toNat ≤ deltas.length - 1 := by omega
  rcases sliceOf_eq_some hrange (Nat.sub_le deltas.length 1)
      with ⟨baseline, hslice, hbaseline, hcut⟩
  have hlast : ∃ last, deltas.drop (deltas.length - 1) = [last] := by
    rw [← List.length_eq_one_iff, List.length_drop]
    omega
  rcases hlast with ⟨last, hlast⟩
  have hgetLast : deltas.getLast?.getD 0.0 = last := by
    rw [hcut, hlast, List.getLast?_append]
    rfl
  rw [hlast] at hcut
  refine ⟨deltas, _, baseline, last, hspec, hcut, by omega, ?_⟩
  unfold detectItemAnomaly
  rw [hneeded]
  dsimp only
  rw [if_neg (by omega), hdeltas]
  dsimp only
  rw [hwidth]
  dsimp only
  rw [hslice, hgetLast]

theorem windowSound_of_fits (h : window.toNat + 2 < 2 ^ 64)
    : WindowSound item window zThreshold where
  tooFew overflowChecks hlength := detectItemAnomaly_of_tooFew h hlength overflowChecks
  enough overflowChecks hlength := detectItemAnomaly_of_enough h hlength overflowChecks

theorem fits_of_windowSound (h : WindowSound item window zThreshold)
    : window.toNat + 2 < 2 ^ 64 := by
  by_contra hfits
  have hnone := @detectItemAnomaly_of_not_fits _ item window zThreshold hfits
  by_cases hlength : item.historicalTrend.length < window.toNat + 2
  . have := hnone.symm.trans (h.tooFew true hlength)
    cases this
  . rcases h.enough true (Nat.not_lt.mp hlength) with ⟨_, _, _, _, _, _, _, hdetect⟩
    have := hnone.symm.trans hdetect
    cases this

theorem windowSound_iff (item : InventoryItemSnapshot) (window : UInt64) (zThreshold : Float)
    : WindowSound item window zThreshold ↔ window.toNat + 2 < 2 ^ 64 :=
  ⟨fits_of_windowSound, windowSound_of_fits⟩

-- A whole snapshot gets through as soon as one of its items does.
theorem detectAll_eq_none_iff {items : List InventoryItemSnapshot}
    : detectAll true items window zThreshold = none ↔ items ≠ [] ∧ ¬ window.toNat + 2 < 2 ^ 64 := by
  by_cases hfits : window.toNat + 2 < 2 ^ 64
  . have hsome : ∃ anomalies, detectAll true items window zThreshold = some anomalies := by
      induction items with
      | nil => exact ⟨[], rfl⟩
      | cons item items ih =>
        rcases ih with ⟨anomalies, hanomalies⟩
        have hitem : ∃ found, detectItemAnomaly true item window zThreshold = some found := by
          by_cases hlength : item.historicalTrend.length < window.toNat + 2
          . exact ⟨_, detectItemAnomaly_of_tooFew hfits hlength true⟩
          . rcases @detectItemAnomaly_of_enough _ item window zThreshold hfits
                (Nat.not_lt.mp hlength) true
              with ⟨_, _, _, _, _, _, _, hdetect⟩
            exact ⟨_, hdetect⟩
        rcases hitem with ⟨found, hfound⟩
        unfold detectAll
        rw [hfound]
        dsimp only
        rw [hanomalies]
        exact ⟨_, rfl⟩
    rcases hsome with ⟨anomalies, hanomalies⟩
    rw [hanomalies]
    exact iff_of_false (by simp) (fun h => h.2 hfits)
  . cases items with
    | nil => simp [detectAll]
    | cons item items =>
      unfold detectAll
      rw [detectItemAnomaly_of_not_fits hfits]
      exact iff_of_true rfl ⟨by simp, hfits⟩

end InventoryAnomaly

open InventoryAnomaly

theorem InventoryAnomalyJob.run_eq_none_iff [FloatText] [TextFormat Uuid]
    {job : InventoryAnomalyJob}
    : job.run true = none
        ↔
      job.check = .ok () ∧ job.input.items ≠ [] ∧ ¬ job.window.toNat + 2 < 2 ^ 64 := by
  rw [← @detectAll_eq_none_iff _ job.window job.zThreshold]
  unfold run
  cases job.check with
  | error err => simp
  | ok _ =>
    dsimp only
    cases detectAll true job.input.items job.window job.zThreshold with
    | none => simp
    | some anomalies => simp

-- A job that is accepted gets through its items if the windows of all of them are sound.
theorem InventoryAnomalyJob.run_isSome_iff [FloatText] [TextFormat Uuid] {job : InventoryAnomalyJob}
    (hcheck : job.check = .ok ()) (hitems : job.input.items ≠ [])
    : (job.run true).isSome ↔ ∀ item ∈ job.input.items,
        WindowSound item job.window job.zThreshold := by
  rw [← Option.ne_none_iff_isSome, Ne, run_eq_none_iff]
  constructor
  . intro hsome item hitem
    apply windowSound_of_fits
    by_contra hfits
    exact hsome ⟨hcheck, hitems, hfits⟩
  . rintro hsound ⟨-, -, hfits⟩
    rcases List.exists_mem_of_ne_nil _ hitems with ⟨item, hitem⟩
    exact hfits (fits_of_windowSound (hsound item hitem))

section Widest

open Concrete

def steady : InventoryItemSnapshot where
  itemId := "bolt"
  quantity := 3
  historicalTrend := [1, 2, 3]

-- `usize::MAX` is at least two, and two more is not a `usize`.
theorem window_overflows
    : (2 : UInt64) ≤ UInt64.ofNat (2 ^ 64 - 1)
      ∧ detectItemAnomaly true steady (UInt64.ofNat (2 ^ 64 - 1)) 3.0 = none
      ∧ ¬ WindowSound steady (UInt64.ofNat (2 ^ 64 - 1)) 3.0 := by
  have hnone : detectItemAnomaly true steady (UInt64.ofNat (2 ^ 64 - 1)) 3.0 = none := rfl
  refine ⟨by decide, hnone, ?_⟩
  intro hsound
  have := hnone.symm.trans (hsound.tooFew true (by decide))
  cases this

end Widest

end ForgeErp
