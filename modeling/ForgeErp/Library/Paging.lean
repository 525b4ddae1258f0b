import Mathlib.Data.List.Nodup
import Mathlib.Data.List.Sort
import Mathlib.Tactic.Common

/-!
This module contains reading a list page by page when every page is cut out of a sorted arrangement
of its own. The order may leave elements tied, and arrangements may differ in how they place them.
-/

namespace Paging

variable {α : Type} {r : α → α → Prop} {log l : List α}

structure Arranges (r : α → α → Prop) (log l : List α) : Prop where
  perm : l.Perm log
  sorted : l.Pairwise r

def page (size i : Nat) (l : List α) : List α :=
  (l.drop (size * i)).take size

theorem mem_page_iff {size i : Nat} {a : α}
    : a ∈ page size i l ↔ ∃ j, l[j]? = some a ∧ size * i ≤ j ∧ j < size * i + size := by
  unfold page
  rw [List.mem_iff_getElem?]
  constructor
  . rintro ⟨k, hk⟩
    rw [List.getElem?_take, List.getElem?_drop] at hk
    split at hk
    . exact ⟨size * i + k, hk, by omega, by omega⟩
    . cases hk
  . rintro ⟨j, hj, hlo, hhi⟩
    refine ⟨j - size * i, ?_⟩
    rw [List.getElem?_take, if_pos (by omega), List.getElem?_drop]
    rw [show size * i + (j - size * i) = j by omega]
    exact hj

theorem getElem?_iff_lt_countP {p : α → Prop} [DecidablePred p]
    (hdown : ∀ a b, r a b → p b → p a) (hsorted : l.Pairwise r) {j : Nat} {a : α}
    (ha : l[j]? = some a) : p a ↔ j < l.countP p := by
  induction l generalizing j with
  | nil => simp at ha
  | cons b l ih =>
    rw [List.pairwise_cons] at hsorted
    by_cases hb : p b
    . rw [List.countP_cons_of_pos (by simpa using hb)]
      cases j with
      | zero =>
        cases ha
        simp [hb]
      | succ j =>
        rw [ih hsorted.2 ha]
        omega
    . have hnone : ∀ c ∈ l, ¬ p c := by
        intro c hc hpc
        apply hb
        apply hdown b c (hsorted.1 c hc) hpc
      have hcount : (b :: l).countP p = 0 := by
        rw [List.countP_eq_zero]
        simpa [hb] using hnone
      rw [hcount]
      have hpa : ¬ p a := by
        cases List.mem_cons.mp (List.mem_of_getElem? ha) with
        | inl heq => rwa [heq]
        | inr hmem => exact hnone a hmem
      simp [hpa]

section Ranks

variable [DecidableRel r]

def lower (r : α → α → Prop) [DecidableRel r] (log : List α) (a : α) : Nat :=
  log.countP (fun b => ¬ r a b)

def upper (r : α → α → Prop) [DecidableRel r] (log : List α) (a : α) : Nat :=
  log.countP (fun b => r b a)

theorem upper_le_length (a : α) : upper r log a ≤ log.length := by
  apply List.countP_le_length

def before (r : α → α → Prop) [DecidableRel r] (log : List α) (a : α) : List α :=
  log.filter (fun b => ¬ r a b)

def ties (r : α → α → Prop) [DecidableRel r] (log : List α) (a : α) : List α :=
  (log.filter (fun b => r a b)).filter (fun b => r b a)

def after (r : α → α → Prop) [DecidableRel r] (log : List α) (a : α) : List α :=
  (log.filter (fun b => r a b)).filter (fun b => ¬ r b a)

theorem parts_perm (a : α) : (before r log a ++ (ties r log a ++ after r log a)).Perm log := by
  have hties : (ties r log a ++ after r log a).Perm (log.filter (fun b => r a b)) := by
    unfold ties after
    simpa using List.filter_append_perm (fun b => decide (r b a)) (log.filter (fun b => r a b))
  have hbefore : (before r log a ++ log.filter (fun b => r a b)).Perm log := by
    unfold before
    simpa using List.filter_append_perm (fun b => !decide (r a b)) log
  apply (hties.append_left _).trans hbefore

theorem rel_of_mem_ties {a b : α} (h : b ∈ ties r log a) : r a b ∧ r b a := by
  unfold ties at h
  simp only [List.mem_filter, decide_eq_true_eq] at h
  exact ⟨h.1.2, h.2⟩

theorem rel_of_mem_after {a b : α} (h : b ∈ after r log a) : r a b := by
  unfold after at h
  simp only [List.mem_filter, decide_eq_true_eq] at h
  exact h.1.2

variable [Std.Total r]

theorem rel_of_mem_before {a b : α} (h : b ∈ before r log a) : r b a := by
  have hnot : ¬ r a b := by simpa using List.of_mem_filter h
  apply (Std.Total.total a b).resolve_left hnot

theorem upper_eq (a : α) : upper r log a = lower r log a + (ties r log a).length := by
  have hbefore : (before r log a).countP (fun b => r b a) = lower r log a := by
    unfold lower
    rw [List.countP_eq_length_filter (l := log), List.countP_eq_length.mpr]
    . rfl
    . intro b hb
      simpa using rel_of_mem_before hb
  have hties : (ties r log a).countP (fun b => r b a) = (ties r log a).length := by
    rw [List.countP_eq_length]
    intro b hb
    simpa using (rel_of_mem_ties hb).2
  have hafter : (after r log a).countP (fun b => r b a) = 0 := by
    rw [List.countP_eq_zero]
    intro b hb
    simpa using List.of_mem_filter hb
  unfold upper
  rw [← (parts_perm (r := r) a).countP_eq, List.countP_append, List.countP_append, hbefore, hties,
    hafter]
  rfl

variable [IsTrans α r]

theorem Arranges.rank (h : Arranges r log l) {j : Nat} {a : α} (ha : l[j]? = some a)
    : lower r log a ≤ j ∧ j < upper r log a := by
  have hrefl : r a a := by
    cases Std.Total.total (r := r) a a with
    | inl h => exact h
    | inr h => exact h
  constructor
  . have hlower : ∀ b c, r b c → ¬ r a c → ¬ r a b := by
      intro b c hbc hac hab
      apply hac
      apply IsTrans.trans a b c hab hbc
    have := getElem?_iff_lt_countP hlower h.sorted ha
    unfold lower
    rw [← h.perm.countP_eq]
    by_contra hlt
    exact this.mpr (by omega) hrefl
  . have hupper : ∀ b c, r b c → r c a → r b a := by
      intro b c hbc hca
      apply IsTrans.trans b c a hbc hca
    have := getElem?_iff_lt_countP hupper h.sorted ha
    unfold upper
    rw [← h.perm.countP_eq]
    apply this.mp hrefl

/--
No page ends between two elements that are tied with `a`.
-/
def Uncut (r : α → α → Prop) [DecidableRel r] (size : Nat) (log : List α) (a : α) : Prop :=
  ∀ i, ¬ (lower r log a < size * i ∧ size * i < upper r log a)

omit [IsTrans α r] in
theorem uncut_of_untied {a : α} (hnodup : log.Nodup) (huntied : ∀ b ∈ log, r a b → r b a → b = a)
    (size : Nat) : Uncut r size log a := by
  have hlone : (ties r log a).length ≤ 1 := by
    have hsub : ties r log a ⊆ [a] := by
      intro b hb
      have hmem : b ∈ log := List.mem_of_mem_filter (List.mem_of_mem_filter hb)
      rcases rel_of_mem_ties hb with ⟨hab, hba⟩
      exact List.mem_singleton.mpr (huntied b hmem hab hba)
    exact (List.subperm_of_subset ((hnodup.filter _).filter _) hsub).length_le
  have hupper : upper r log a = lower r log a + (ties r log a).length := upper_eq a
  intro i
  omega

theorem Arranges.mem_page_iff (h : Arranges r log l) {size i : Nat} {a : α} (ha : a ∈ log)
    (huncut : Uncut r size log a)
    : a ∈ page size i l ↔ size * i ≤ lower r log a ∧ lower r log a < size * i + size := by
  have hstart := huncut i
  have hend := huncut (i + 1)
  rw [Nat.mul_succ] at hend
  rw [Paging.mem_page_iff]
  constructor
  . rintro ⟨j, hj, hlo, hhi⟩
    have := h.rank hj
    omega
  . intro hlower
    rcases List.mem_iff_getElem?.mp (h.perm.mem_iff.mpr ha) with ⟨j, hj⟩
    have := h.rank hj
    exact ⟨j, hj, by omega, by omega⟩

theorem page_nodup (h : l.Nodup) (size i : Nat) : (page size i l).Nodup := by
  unfold page
  apply List.Nodup.sublist _ h
  apply (List.take_sublist _ _).trans (List.drop_sublist _ _)

theorem pages_perm {ordered : Nat → List α} {wanted : α → Bool} {size m : Nat}
    (hnodup : log.Nodup) (hordered : ∀ i, Arranges r log (ordered i))
    (huncut : ∀ a ∈ log, wanted a → Uncut r size log a) (hsize : 0 < size)
    (hlength : log.length ≤ size * m)
    : ((List.range m).flatMap (fun i => (page size i (ordered i)).filter wanted)).Perm
        (log.filter wanted) := by
  have hmem : ∀ i a, a ∈ (page size i (ordered i)).filter wanted ↔
      (a ∈ log ∧ wanted a = true) ∧ size * i ≤ lower r log a ∧ lower r log a < size * i + size := by
    intro i a
    rw [List.mem_filter]
    constructor
    . rintro ⟨hpage, hwanted⟩
      have hlog : a ∈ log := by
        rcases Paging.mem_page_iff.mp hpage with ⟨j, hj, _⟩
        apply (hordered i).perm.mem_iff.mp (List.mem_of_getElem? hj)
      refine ⟨⟨hlog, hwanted⟩, ?_⟩
      apply ((hordered i).mem_page_iff hlog (huncut a hlog hwanted)).mp hpage
    . rintro ⟨⟨hlog, hwanted⟩, hlower⟩
      exact ⟨((hordered i).mem_page_iff hlog (huncut a hlog hwanted)).mpr hlower, hwanted⟩
  rw [List.perm_ext_iff_of_nodup]
  . intro a
    rw [List.mem_flatMap, List.mem_filter]
    constructor
    . rintro ⟨i, _, ha⟩
      apply ((hmem i a).mp ha).1
    . intro ha
      have hlt : lower r log a < size * m := by
        rcases List.mem_iff_getElem?.mp ((hordered 0).perm.mem_iff.mpr ha.1) with ⟨j, hj⟩
        have hrank := (hordered 0).rank hj
        have hupper : upper r log a ≤ log.length := upper_le_length a
        omega
      refine ⟨lower r log a / size, ?_, ?_⟩
      . rw [List.mem_range]
        apply Nat.div_lt_of_lt_mul hlt
      . rw [hmem]
        refine ⟨ha, Nat.mul_div_le _ _, ?_⟩
        rw [← Nat.mul_succ]
        apply Nat.lt_mul_div_succ _ hsize
  . rw [List.nodup_flatMap]
    constructor
    . intro i _
      apply List.Nodup.filter
      apply page_nodup
      apply (hordered i).perm.nodup_iff.mpr hnodup
    . apply List.nodup_range.imp
      intro i k hne a hi hk
      apply hne
      have hi := ((hmem i a).mp hi).2
      have hk := ((hmem k a).mp hk).2
      have hki : size * k < size * (i + 1) := by
        rw [Nat.mul_succ]
        omega
      have hik : size * i < size * (k + 1) := by
        rw [Nat.mul_succ]
        omega
      have := Nat.lt_of_mul_lt_mul_left hki
      have := Nat.lt_of_mul_lt_mul_left hik
      omega
  . exact hnodup.filter _

theorem pairwise_parts {a : α} {mid : List α} (hmid : mid.Perm (ties r log a))
    : ((before r log a).insertionSort r ++ (mid ++ (after r log a).insertionSort r)).Pairwise
        r := by
  have htrans : ∀ b c, r b a → r a c → r b c := fun b c hb hc => IsTrans.trans b a c hb hc
  have hmidRel : ∀ b ∈ mid, r a b ∧ r b a := by
    intro b hb
    apply rel_of_mem_ties (hmid.mem_iff.mp hb)
  have hbeforeRel : ∀ b ∈ (before r log a).insertionSort r, r b a := by
    intro b hb
    apply rel_of_mem_before ((List.mem_insertionSort r).mp hb)
  have hafterRel : ∀ b ∈ (after r log a).insertionSort r, r a b := by
    intro b hb
    apply rel_of_mem_after ((List.mem_insertionSort r).mp hb)
  rw [List.pairwise_append, List.pairwise_append]
  refine ⟨List.pairwise_insertionSort r _, ⟨?_, List.pairwise_insertionSort r _, ?_⟩, ?_⟩
  . apply List.pairwise_of_forall_mem_list
    intro b hb c hc
    apply htrans b c (hmidRel b hb).2 (hmidRel c hc).1
  . intro b hb c hc
    apply htrans b c (hmidRel b hb).2 (hafterRel c hc)
  . intro b hb c hc
    apply htrans b c (hbeforeRel b hb)
    cases List.mem_append.mp hc with
    | inl hc => exact (hmidRel c hc).1
    | inr hc => exact hafterRel c hc

theorem exists_arranges_at {a : α} {j : Nat} (ha : a ∈ log) (hlower : lower r log a ≤ j)
    (hupper : j < upper r log a) : ∃ l, Arranges r log l ∧ l[j]? = some a := by
  have hmem : a ∈ ties r log a := by
    have hrefl : r a a := Std.Refl.refl a
    simp [ties, ha, hrefl]
  rcases List.append_of_mem hmem with ⟨s, t, hst⟩
  have hties : (ties r log a).length = (s ++ t).length + 1 := by
    rw [hst, List.length_append, List.length_append, List.length_cons]
    omega
  rw [upper_eq] at hupper
  have hbefore : ((before r log a).insertionSort r).length = lower r log a := by
    unfold lower
    rw [List.length_insertionSort, List.countP_eq_length_filter]
    rfl
  have hmid : ((s ++ t).take (j - lower r log a) ++ a :: (s ++ t).drop (j - lower r log a)).Perm
      (ties r log a) := by
    rw [hst]
    apply List.perm_middle.trans
    rw [List.take_append_drop]
    exact List.perm_middle.symm
  refine ⟨_, ⟨?_, pairwise_parts hmid⟩, ?_⟩
  . apply List.Perm.trans _ (parts_perm (r := r) a)
    apply (List.perm_insertionSort r _).append
    apply hmid.append (List.perm_insertionSort r _)
  . rw [List.getElem?_append_right (by omega), hbefore]
    rw [List.getElem?_append_left, List.getElem?_append_right]
    . rw [List.length_take, Nat.min_eq_left (by omega), Nat.sub_self]
      rfl
    . rw [List.length_take]
      omega
    . rw [List.length_append, List.length_take, List.length_cons, List.length_drop]
      omega

theorem exists_arranges : ∃ l, Arranges r log l := by
  exact ⟨log.insertionSort r, List.perm_insertionSort r log, List.pairwise_insertionSort r log⟩

/--
If a page ends between elements that are tied with a wanted one, there are arrangements with which
that one is read twice.
-/
theorem exists_pages_not_perm {wanted : α → Bool} {size m : Nat} {a : α} (hnodup : log.Nodup)
    (ha : a ∈ log) (hwanted : wanted a = true) (hsize : 0 < size) (hlength : log.length ≤ size * m)
    (hcut : ¬ Uncut r size log a)
    : ∃ ordered : Nat → List α, (∀ i, Arranges r log (ordered i))
      ∧ ¬ ((List.range m).flatMap (fun i => (page size i (ordered i)).filter wanted)).Perm
          (log.filter wanted) := by
  unfold Uncut at hcut
  push Not at hcut
  rcases hcut with ⟨i, hlower, hupper⟩
  have hend : upper r log a ≤ log.length := upper_le_length a
  have hi : 0 < i := by
    apply Nat.pos_of_ne_zero
    intro hzero
    subst hzero
    omega
  have him : i < m := by
    apply Nat.lt_of_mul_lt_mul_left (a := size)
    omega
  have hlast : lower r log a ≤ size * i - 1 := by omega
  rcases exists_arranges_at ha hlast (by omega) with ⟨l₁, hl₁, h₁⟩
  rcases exists_arranges_at ha (Nat.le_of_lt hlower) hupper with ⟨l₂, hl₂, h₂⟩
  refine ⟨fun k => if k = i then l₂ else l₁, ?_, ?_⟩
  . intro k
    dsimp only
    split
    . exact hl₂
    . exact hl₁
  . intro hperm
    have hpages := hperm.nodup_iff.mpr (hnodup.filter _)
    rw [List.nodup_flatMap] at hpages
    have hdisjoint := List.pairwise_iff_getElem.mp hpages.2 (i - 1) i (by simp; omega)
      (by simpa using him) (by omega)
    simp only [List.getElem_range] at hdisjoint
    apply hdisjoint (a := a)
    . dsimp only
      rw [if_neg (by omega), List.mem_filter, Paging.mem_page_iff]
      have : size * (i - 1) + size = size * i := by
        rw [← Nat.mul_succ]
        congr 1
        omega
      exact ⟨⟨_, h₁, by omega, by omega⟩, hwanted⟩
    . dsimp only
      rw [if_pos rfl, List.mem_filter, Paging.mem_page_iff]
      exact ⟨⟨_, h₂, by omega, by omega⟩, hwanted⟩

end Ranks

end Paging
