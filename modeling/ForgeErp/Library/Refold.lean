import ForgeErp.Library.View
import Mathlib.Data.List.Induction

/-!
This module contains views that are folded anew from some of the entries of their log. The entries
come in order, possibly repeated, up to a point at which the view would refuse the next one.
-/

namespace View

variable {R M : Type} (number : M → Nat) (effect : M → Option (Option R → R))

-- An entry without an effect cannot be read.
def absorb (view : View R) (m : M) : View R :=
  match effect m with
  | none => view
  | some f => if gate view.cursor (number m) = .accept then ⟨number m, some (f view.row)⟩ else view

def fold (ms : List M) : View R :=
  ms.foldl (absorb number effect) ⟨0, none⟩

-- The row alone, whatever the numbers.
def rowOf (ms : List M) : Option R :=
  ms.foldl (fun row m => ((effect m).map fun f => f row).or row) none

variable {number : M → Nat} {effect : M → Option (Option R → R)}

section Concat

variable {view : View R} {ms : List M} {m : M} {f : Option R → R}

theorem absorb_none (h : effect m = none) : absorb number effect view m = view := by
  unfold absorb
  rw [h]

theorem absorb_accept (h : effect m = some f) (hgate : gate view.cursor (number m) = .accept)
    : absorb number effect view m = ⟨number m, some (f view.row)⟩ := by
  unfold absorb
  rw [h]
  exact if_pos hgate

theorem absorb_of_not_accept (hgate : gate view.cursor (number m) ≠ .accept)
    : absorb number effect view m = view := by
  unfold absorb
  split
  . rfl
  . exact if_neg hgate

theorem fold_concat (number : M → Nat) (effect : M → Option (Option R → R)) (ms : List M) (m : M)
    : fold number effect (ms ++ [m]) = absorb number effect (fold number effect ms) m := by
  unfold fold
  rw [List.foldl_append]
  rfl

theorem rowOf_concat_none (h : effect m = none) : rowOf effect (ms ++ [m]) = rowOf effect ms := by
  unfold rowOf
  rw [List.foldl_append, List.foldl_cons, h]
  rfl

theorem rowOf_concat_some (h : effect m = some f)
    : rowOf effect (ms ++ [m]) = some (f (rowOf effect ms)) := by
  unfold rowOf
  rw [List.foldl_append, List.foldl_cons, h]
  rfl

theorem rowOf_unreadable (h : ∀ m ∈ ms, effect m = none) : rowOf effect ms = none := by
  induction ms using List.reverseRecOn with
  | nil => rfl
  | append_singleton ms m ih =>
    rw [rowOf_concat_none (h m (by simp))]
    apply ih fun m' hm' => h m' (List.mem_append_left _ hm')

end Concat

/--
The row is that of the entries up to the cursor, and none of the others would still be accepted.
-/
structure Whole (number : M → Nat) (effect : M → Option (Option R → R)) (log : List M)
    (view : View R) : Prop where
  bound : view.cursor ≤ log.length
  row : view.row = rowOf effect (log.filter fun m => number m ≤ view.cursor)
  unread : ∀ m ∈ log, gate view.cursor (number m) = .accept → effect m = none

section Whole

variable {log : List M} {view : View R} {m : M}

-- An entry that is not accepted lies beyond the cursor, and changes nothing.
theorem Whole.skip (h : Whole number effect log view) (hm : number m = log.length + 1)
    (hunread : gate view.cursor (number m) = .accept → effect m = none)
    : Whole number effect (log ++ [m]) view where
  bound := by
    have := h.bound
    rw [List.length_append]
    omega
  row := by
    have hbound := h.bound
    rw [List.filter_append, List.filter_cons_of_neg (by simp; omega),
      List.filter_nil, List.append_nil]
    exact h.row
  unread m' hm' hgate := by
    rw [List.mem_append, List.mem_singleton] at hm'
    rcases hm' with hm' | rfl
    . exact h.unread m' hm' hgate
    . exact hunread hgate

theorem Whole.row_of_accept (h : Whole number effect log view)
    (hnumbered : NumberedFrom 1 number log)
    (hm : number m = log.length + 1) (hgate : gate view.cursor (number m) = .accept)
    : view.row = rowOf effect log := by
  rw [gate_eq_accept_iff] at hgate
  rw [h.row]
  rcases hgate.2 with hnext | hzero
  . have hall : (log.filter fun m => number m ≤ view.cursor) = log := by
      rw [List.filter_eq_self]
      intro m' hm'
      have := hnumbered.mem_bounds hm'
      simp only [decide_eq_true_eq]
      omega
    rw [hall]
  . -- nothing has been accepted so far, so that there is nothing to be read
    have hunread : ∀ m' ∈ log, effect m' = none := by
      intro m' hm'
      apply h.unread m' hm'
      have := hnumbered.mem_bounds hm'
      rw [gate_eq_accept_iff]
      omega
    rw [rowOf_unreadable hunread, rowOf_unreadable]
    intro m' hm'
    exact hunread m' (List.mem_of_mem_filter hm')

theorem Whole.accept (h : Whole number effect log view) (hnumbered : NumberedFrom 1 number log)
    (hm : number m = log.length + 1) (hgate : gate view.cursor (number m) = .accept)
    {f : Option R → R}
    (heffect : effect m = some f)
    : Whole number effect (log ++ [m]) ⟨number m, some (f view.row)⟩ where
  bound := by
    rw [List.length_append]
    dsimp only
    exact Nat.le_of_eq hm
  row := by
    have hall : ((log ++ [m]).filter fun m' => number m' ≤ number m) = log ++ [m] := by
      rw [List.filter_eq_self]
      intro m' hm'
      have hbounds := (hnumbered.concat (a := m) (by omega)).mem_bounds hm'
      rw [List.length_append, List.length_singleton] at hbounds
      simp only [decide_eq_true_eq]
      omega
    dsimp only
    rw [hall, rowOf_concat_some heffect, h.row_of_accept hnumbered hm hgate]
  unread m' hm' hgate' := by
    have hbounds := (hnumbered.concat (a := m) (by omega)).mem_bounds hm'
    rw [List.length_append, List.length_singleton] at hbounds
    rw [gate_eq_accept_iff] at hgate'
    dsimp only at hgate'
    omega

theorem whole_fold (hnumbered : NumberedFrom 1 number log)
    : Whole number effect log (fold number effect log) := by
  induction log using List.reverseRecOn with
  | nil =>
    refine ⟨Nat.le_refl 0, rfl, ?_⟩
    intro m hm
    cases hm
  | append_singleton log m ih =>
    rw [NumberedFrom.append_iff, NumberedFrom.cons_iff] at hnumbered
    rcases hnumbered with ⟨hlog, hm, -⟩
    have ih := ih hlog
    rw [fold_concat]
    by_cases hgate : gate (fold number effect log).cursor (number m) = .accept
    . cases heffect : effect m with
      | none =>
        rw [absorb_none heffect]
        exact ih.skip (by omega) fun _ => heffect
      | some f =>
        rw [absorb_accept heffect hgate]
        exact ih.accept hlog (by omega) hgate heffect
    . rw [absorb_of_not_accept hgate]
      exact ih.skip (by omega) fun haccept => absurd haccept hgate

end Whole

/--
Each entry repeats the one before it, or is accepted and can be read.
-/
inductive Taken (number : M → Nat) (effect : M → Option (Option R → R)) : List M → Prop where
  | nil : Taken number effect []
  | again {ms : List M} {m : M} (h : Taken number effect ms)
    (hlast : number m = (fold number effect ms).cursor) : Taken number effect (ms ++ [m])
  | next {ms : List M} {m : M} {f : Option R → R} (h : Taken number effect ms)
    (hgate : gate (fold number effect ms).cursor (number m) = .accept) (heffect : effect m = some f)
    : Taken number effect (ms ++ [m])

section Taken

variable {log ms : List M} {m : M}

theorem fold_again (hlast : number m = (fold number effect ms).cursor)
    : fold number effect (ms ++ [m]) = fold number effect ms := by
  rw [fold_concat, absorb_of_not_accept]
  rw [ne_eq, gate_eq_accept_iff]
  omega

theorem fold_next {f : Option R → R}
    (hgate : gate (fold number effect ms).cursor (number m) = .accept)
    (heffect : effect m = some f)
    : fold number effect (ms ++ [m]) = ⟨number m, some (f (fold number effect ms).row)⟩ := by
  rw [fold_concat, absorb_accept heffect hgate]

theorem Taken.cursor_eq (h : Taken number effect ms)
    : (fold number effect ms).cursor = (ms.getLast?.map number).getD 0 := by
  cases h with
  | nil => rfl
  | again h hlast =>
    rw [fold_again hlast, List.getLast?_append, ← hlast]
    rfl
  | next h hgate heffect =>
    rw [fold_next hgate heffect, List.getLast?_append]
    rfl

/--
The row is that of the entries of the log that have been taken in, which are consecutive ones.
-/
structure Part (number : M → Nat) (effect : M → Option (Option R → R))
    (log ms : List M) (view : View R)
    : Prop where
  le : ∀ m ∈ ms, number m ≤ view.cursor
  attained : view.cursor = 0 ∨ ∃ m ∈ ms, number m = view.cursor ∧ (effect m).isSome
  next : ∀ m ∈ ms, number m < view.cursor → ∃ m' ∈ ms, number m' = number m + 1 ∧ (effect m').isSome
  row : view.row = rowOf effect (log.filter fun m => number m ∈ ms.map number)

-- Behind the entries whose numbers are in `ns` there is one more.
theorem filter_concat (hnumbered : NumberedFrom 1 number log) (hm : m ∈ log) {ns : List Nat}
    (hns : ∀ n ∈ ns, n < number m)
    : (log.filter fun m' => number m' ∈ ns ++ [number m])
        = (log.filter fun m' => number m' ∈ ns) ++ [m] := by
  have hsorted := hnumbered.pairwise_lt
  obtain ⟨before, after, rfl⟩ := List.append_of_mem hm
  rw [List.pairwise_append, List.pairwise_cons] at hsorted
  rcases hsorted with ⟨-, ⟨hafter, -⟩, hbefore⟩
  have hnot : number m ∉ ns := fun h => Nat.lt_irrefl _ (hns _ h)
  have hbefore : (before.filter fun m' => number m' ∈ ns ++ [number m])
      = before.filter fun m' => number m' ∈ ns := by
    apply List.filter_congr
    intro m' hm'
    have hlt := hbefore m' hm' m List.mem_cons_self
    simp only [List.mem_append, List.mem_singleton, decide_eq_decide, or_iff_left_iff_imp]
    omega
  have hnone : ∀ ns' : List Nat, (∀ n ∈ ns', n ≤ number m) →
      (after.filter fun m' => number m' ∈ ns') = [] := by
    intro ns' hns'
    rw [List.filter_eq_nil_iff]
    intro m' hm' hmem
    have hle := hns' _ (of_decide_eq_true hmem)
    have hlt := hafter m' hm'
    omega
  rw [List.filter_append, List.filter_append, hbefore, List.filter_cons_of_pos (by simp),
    List.filter_cons_of_neg (by simpa using hnot), hnone, hnone, List.append_nil]
  . intro n hn
    exact Nat.le_of_lt (hns n hn)
  . intro n hn
    rw [List.mem_append, List.mem_singleton] at hn
    rcases hn with hn | rfl
    . exact Nat.le_of_lt (hns n hn)
    . exact Nat.le_refl _

theorem Taken.part (hnumbered : NumberedFrom 1 number log) (h : Taken number effect ms)
    (hms : ∀ m ∈ ms, m ∈ log)
    : Part number effect log ms (fold number effect ms) := by
  induction h with
  | nil =>
    refine ⟨?_, .inl rfl, ?_, ?_⟩
    . intro m hm
      cases hm
    . intro m hm
      cases hm
    . simp [fold, rowOf]
  | @again ms m h hlast ih =>
    have ih := ih fun m' hm' => hms m' (List.mem_append_left _ hm')
    have hpos := (hnumbered.mem_bounds (hms m (by simp))).1
    have hattained := ih.attained.resolve_left (by omega)
    rw [fold_again hlast]
    constructor
    . intro m' hm'
      rw [List.mem_append, List.mem_singleton] at hm'
      rcases hm' with hm' | rfl
      . exact ih.le m' hm'
      . exact Nat.le_of_eq hlast
    . rcases hattained with ⟨m', hm', hnumber⟩
      exact .inr ⟨m', List.mem_append_left _ hm', hnumber⟩
    . intro m' hm' hlt
      rw [List.mem_append, List.mem_singleton] at hm'
      rcases hm' with hm' | rfl
      . rcases ih.next m' hm' hlt with ⟨m'', hm'', hnext⟩
        exact ⟨m'', List.mem_append_left _ hm'', hnext⟩
      . omega
    . rw [ih.row]
      congr 1
      apply List.filter_congr
      intro m' _
      rcases hattained with ⟨last, hmem, hnumber, -⟩
      have hold : number m ∈ ms.map number := by
        rw [hlast, ← hnumber]
        exact List.mem_map_of_mem hmem
      rw [List.map_append, decide_eq_decide, List.mem_append, List.map_singleton,
        List.mem_singleton]
      constructor
      . exact .inl
      . rintro (hmem' | hsame)
        . exact hmem'
        . exact hsame ▸ hold
  | @next ms m f h hgate heffect ih =>
    have ih := ih fun m' hm' => hms m' (List.mem_append_left _ hm')
    rw [fold_next hgate heffect]
    rw [gate_eq_accept_iff] at hgate
    have hlt : ∀ m' ∈ ms, number m' < number m := by
      intro m' hm'
      have := ih.le m' hm'
      omega
    constructor
    . intro m' hm'
      rw [List.mem_append, List.mem_singleton] at hm'
      rcases hm' with hm' | rfl
      . exact Nat.le_of_lt (hlt m' hm')
      . exact Nat.le_refl _
    . exact .inr ⟨m, by simp, rfl, by simp [heffect]⟩
    . intro m' hm' hless
      rw [List.mem_append, List.mem_singleton] at hm'
      rcases hm' with hm' | rfl
      . have hle := ih.le m' hm'
        have hpos := (hnumbered.mem_bounds (hms m' (List.mem_append_left _ hm'))).1
        by_cases hlast : number m' < (fold number effect ms).cursor
        . rcases ih.next m' hm' hlast with ⟨m'', hm'', hnext⟩
          exact ⟨m'', List.mem_append_left _ hm'', hnext⟩
        . exact ⟨m, by simp, by omega, by simp [heffect]⟩
      . exact absurd hless (Nat.lt_irrefl _)
    . have hns : ∀ n ∈ ms.map number, n < number m := by
        intro n hn
        rcases List.mem_map.mp hn with ⟨m', hm', rfl⟩
        exact hlt m' hm'
      dsimp only
      rw [List.map_append, List.map_singleton, filter_concat hnumbered (hms m (by simp)) hns,
        rowOf_concat_some heffect, ← ih.row]

theorem Part.cursor_eq {view view' : View R} (h : Part number effect log ms view')
    (hwhole : Whole number effect log view) (hnumbered : NumberedFrom 1 number log)
    (hms : ∀ m ∈ ms, m ∈ log)
    (hlast : ∀ m ∈ log, number m = view.cursor → m ∈ ms)
    : view'.cursor = view.cursor := by
  have hunread : ∀ m ∈ ms, (effect m).isSome → gate view.cursor (number m) ≠ .accept := by
    intro m hm hsome hgate
    rw [hwhole.unread m (hms m hm) hgate] at hsome
    cases hsome
  have hbound := hwhole.bound
  by_cases hzero : view.cursor = 0
  . rcases h.attained with hzero' | ⟨m, hm, hnumber, hsome⟩
    . rw [hzero, hzero']
    . have hpos := (hnumbered.mem_bounds (hms m hm)).1
      have hnot := hunread m hm hsome
      rw [ne_eq, gate_eq_accept_iff] at hnot
      omega
  . have hlt : view.cursor - 1 < log.length := by omega
    have hnumber := hnumbered.getElem? (List.getElem?_eq_getElem hlt)
    have hmem := hlast _ (List.getElem_mem hlt) (by omega)
    have hle := h.le _ hmem
    by_contra hne
    rcases h.next _ hmem (by omega) with ⟨m', hm', hnext, hsome⟩
    have hnot := hunread m' hm' hsome
    rw [ne_eq, gate_eq_accept_iff] at hnot
    omega

/--
Some entries of a log make up its whole view if and only if the last one that counts is among them,
and the others make no difference to the row.
-/
theorem fold_eq_iff (hnumbered : NumberedFrom 1 number log) (hms : ∀ m ∈ ms, m ∈ log)
    (htaken : Taken number effect ms)
    : fold number effect ms = fold number effect log
        ↔
      (∀ m ∈ log, number m = (fold number effect log).cursor → m ∈ ms)
        ∧ rowOf effect ((log.filter fun m => number m ≤ (fold number effect log).cursor).filter
            fun m => number m ∈ ms.map number)
          = rowOf effect (log.filter fun m => number m ≤ (fold number effect log).cursor) := by
  have hwhole : Whole number effect log (fold number effect log) := whole_fold hnumbered
  have hpart := htaken.part hnumbered hms
  have hcounted : (fold number effect ms).cursor = (fold number effect log).cursor →
      ((log.filter fun m => number m ≤ (fold number effect log).cursor).filter
          fun m => number m ∈ ms.map number)
        = log.filter fun m => number m ∈ ms.map number := by
    intro hcursor
    rw [List.filter_filter]
    apply List.filter_congr
    intro m _
    rw [Bool.and_eq_left_iff_imp, decide_eq_true_eq, decide_eq_true_eq]
    intro hmem
    rcases List.mem_map.mp hmem with ⟨m', hm', hnumber⟩
    rw [← hnumber, ← hcursor]
    exact hpart.le m' hm'
  constructor
  . intro heq
    have hcursor := congrArg View.cursor heq
    constructor
    . intro m hm hnumber
      have hpos := (hnumbered.mem_bounds hm).1
      rcases hpart.attained.resolve_left (by omega) with ⟨m', hm', hnumber', -⟩
      rw [hnumbered.eq_of_mem hm (hms m' hm') (by omega)]
      exact hm'
    . rw [hcounted hcursor, ← hpart.row, ← hwhole.row, heq]
  . rintro ⟨hlast, hrow⟩
    have hcursor := hpart.cursor_eq hwhole hnumbered hms hlast
    have hrows : (fold number effect ms).row = (fold number effect log).row := by
      rw [hpart.row, hwhole.row, ← hrow, hcounted hcursor]
    generalize fold number effect ms = view at hcursor hrows
    generalize fold number effect log = view' at hcursor hrows
    cases view
    cases view'
    simp_all

end Taken

end View
