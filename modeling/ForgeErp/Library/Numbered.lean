import Mathlib.Data.List.Basic

/-!
This module contains lists whose elements carry consecutive numbers.
-/

/--
The numbers `f` assigns to the elements of `l` are `n, n + 1, n + 2, ...`
-/
def NumberedFrom {α : Type} (n : Nat) (f : α → Nat) (l : List α) : Prop :=
  l.map f = List.range' n l.length

namespace NumberedFrom

variable {α β : Type} {n : Nat} {f : α → Nat}

@[simp]
theorem nil : NumberedFrom n f [] := by
  simp [NumberedFrom]

theorem cons_iff {a : α} {l : List α}
    : NumberedFrom n f (a :: l) ↔ f a = n ∧ NumberedFrom (n + 1) f l := by
  simp [NumberedFrom, List.range'_succ]

theorem append_iff {l₁ l₂ : List α}
    : NumberedFrom n f (l₁ ++ l₂) ↔ NumberedFrom n f l₁ ∧ NumberedFrom (n + l₁.length) f l₂ := by
  induction l₁ generalizing n with
  | nil => simp
  | cons a l₁ ih =>
    simp only [List.cons_append, cons_iff, ih, List.length_cons, and_assoc]
    rw [show n + 1 + l₁.length = n + (l₁.length + 1) by omega]

theorem concat {l : List α} {a : α} (h : NumberedFrom n f l) (ha : f a = n + l.length)
    : NumberedFrom n f (l ++ [a]) := by
  rw [append_iff, cons_iff]
  exact ⟨h, ha, nil⟩

theorem map_iff {g : β → α} {l : List β}
    : NumberedFrom n f (l.map g) ↔ NumberedFrom n (fun b => f (g b)) l := by
  simp [NumberedFrom, Function.comp_def]

theorem getElem? {l : List α} {i : Nat} {a : α} (h : NumberedFrom n f l) (ha : l[i]? = some a)
    : f a = n + i := by
  have hmap : (l.map f)[i]? = some (f a) := by simp [ha]
  rw [h] at hmap
  obtain ⟨hi, hrange⟩ := List.getElem?_eq_some_iff.mp hmap
  simp only [List.getElem_range'] at hrange
  omega

theorem mem_bounds {l : List α} {a : α} (h : NumberedFrom n f l) (ha : a ∈ l)
    : n ≤ f a ∧ f a < n + l.length := by
  have : f a ∈ l.map f := List.mem_map_of_mem ha
  rw [h, List.mem_range'_1] at this
  exact this

theorem getElem?_of_mem {l : List α} {a : α} (h : NumberedFrom n f l) (ha : a ∈ l)
    : l[f a - n]? = some a := by
  obtain ⟨i, hi⟩ := List.mem_iff_getElem?.mp ha
  have := h.getElem? hi
  rw [this]
  simpa using hi

theorem eq_of_mem {l : List α} {a b : α} (h : NumberedFrom n f l) (ha : a ∈ l) (hb : b ∈ l)
    (hab : f a = f b) : a = b := by
  have ha := h.getElem?_of_mem ha
  rw [hab, h.getElem?_of_mem hb] at ha
  exact (Option.some.inj ha).symm

theorem getLast? {l : List α} (h : NumberedFrom 1 f l)
    : (l.getLast?.map f).getD 0 = l.length := by
  rw [List.getLast?_eq_getElem?]
  cases hl : l[l.length - 1]? with
  | none =>
    simp only [List.getElem?_eq_none_iff] at hl
    simp only [Option.map_none, Option.getD_none]
    omega
  | some a =>
    have := h.getElem? hl
    obtain ⟨hi, -⟩ := List.getElem?_eq_some_iff.mp hl
    simp only [Option.map_some, Option.getD_some]
    omega

theorem pairwise_lt {l : List α} (h : NumberedFrom n f l) : l.Pairwise (fun a b => f a < f b) := by
  have : (l.map f).Pairwise (· < ·) := by
    rw [h]
    exact List.pairwise_lt_range'
  apply List.pairwise_map.mp this

theorem filter_lt {l : List α} (h : NumberedFrom n f l) (k : Nat)
    : l.filter (fun a => f a < n + k) = l.take k := by
  induction l generalizing n k with
  | nil => simp
  | cons a l ih =>
    rw [cons_iff] at h
    cases k with
    | zero =>
      rw [List.take_zero, List.filter_eq_nil_iff]
      intro b hb
      rw [List.mem_cons] at hb
      cases hb with
      | inl hb =>
        subst hb
        simp [h.1]
      | inr hb =>
        have := (h.2.mem_bounds hb).1
        simp only [decide_eq_true_eq]
        omega
    | succ k =>
      have ih := ih h.2 k
      rw [Nat.add_right_comm, Nat.add_assoc] at ih
      rw [List.filter_cons_of_pos (by simp [h.1]), ih, List.take_succ_cons]

theorem nodup {l : List α} (h : NumberedFrom n f l) : l.Nodup := by
  apply h.pairwise_lt.imp
  intro a b hab heq
  subst heq
  omega

end NumberedFrom
