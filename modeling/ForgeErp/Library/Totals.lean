import Mathlib.Algebra.BigOperators.Group.List.Lemmas
import Mathlib.Algebra.Order.BigOperators.Group.List
import Mathlib.Algebra.Order.Group.Nat

/-!
This module contains sums over lists whose entries belong to keys: the totals of the keys add up to
the total of the list, and a change at one key changes the sum over all keys by as much.
-/

namespace Totals

variable {ι κ M : Type} [DecidableEq κ] [AddCommMonoid M]

def totalAt (key : ι → κ) (f : ι → M) (items : List ι) (k : κ) : M :=
  ((items.filter (fun i => key i = k)).map f).sum

theorem totalAt_cons (key : ι → κ) (f : ι → M) (i : ι) (items : List ι) (k : κ)
    : totalAt key f (i :: items) k = (if key i = k then f i else 0) + totalAt key f items k := by
  unfold totalAt
  by_cases h : key i = k
  . simp [h]
  . simp [h]

theorem sum_indicator {ks : List κ} (hnodup : ks.Nodup) {k : κ} (hk : k ∈ ks) (m : M)
    : (ks.map (fun k' => if k = k' then m else 0)).sum = m := by
  induction ks with
  | nil => simp at hk
  | cons k' ks ih =>
    rw [List.nodup_cons] at hnodup
    rw [List.map_cons, List.sum_cons]
    by_cases h : k = k'
    . have hrest : (ks.map (fun k' => if k = k' then m else 0)).sum = 0 := by
        apply List.sum_eq_zero
        intro x hx
        rw [List.mem_map] at hx
        rcases hx with ⟨k'', hk'', rfl⟩
        have hne : k ≠ k'' := by
          intro heq
          apply hnodup.1
          rw [← h, heq]
          exact hk''
        rw [if_neg hne]
      rw [if_pos h, hrest, add_zero]
    . rw [if_neg h, zero_add]
      apply ih hnodup.2
      simpa [h] using hk

theorem sum_totalAt {ks : List κ} (hnodup : ks.Nodup) (key : ι → κ) (f : ι → M) {items : List ι}
    (hmem : ∀ i ∈ items, key i ∈ ks)
    : (ks.map (totalAt key f items)).sum = (items.map f).sum := by
  induction items with
  | nil =>
    have : totalAt key f [] = fun _ => 0 := rfl
    simp [this]
  | cons i items ih =>
    have : totalAt key f (i :: items)
        = fun k => (if key i = k then f i else 0) + totalAt key f items k :=
      funext (totalAt_cons key f i items)
    rw [this, List.sum_map_add, sum_indicator hnodup (hmem i (by simp)),
      ih (fun j hj => hmem j (by simp [hj]))]
    simp

theorem sum_map_update {ks : List κ} (hnodup : ks.Nodup) {k : κ} (hk : k ∈ ks) {f g : κ → M}
    (hother : ∀ k', k' ≠ k → f k' = g k')
    : (ks.map f).sum + g k = (ks.map g).sum + f k := by
  induction ks with
  | nil => simp at hk
  | cons k' ks ih =>
    rw [List.nodup_cons] at hnodup
    rw [List.map_cons, List.sum_cons, List.map_cons, List.sum_cons]
    by_cases h : k' = k
    . subst h
      have hrest : ks.map f = ks.map g := by
        apply List.map_congr_left
        intro k'' hk''
        apply hother
        intro heq
        rw [heq] at hk''
        exact hnodup.1 hk''
      rw [hrest, add_comm (f k'), add_comm (g k'), add_assoc, add_assoc, add_comm (f k')]
    . have hmem : k ∈ ks := by simpa [Ne.symm h] using hk
      rw [hother k' h, add_assoc, ih hnodup.2 hmem, add_assoc]

theorem sum_map_filter (p : ι → Bool) (f : ι → M) (items : List ι)
    : ((items.filter p).map f).sum = (items.map (fun i => if p i then f i else 0)).sum := by
  induction items with
  | nil => rfl
  | cons i items ih =>
    rw [List.map_cons, List.sum_cons, ← ih]
    by_cases h : p i
    . simp [h]
    . simp [h]

end Totals
