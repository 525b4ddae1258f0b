import Mathlib.Data.List.Forall2
import Mathlib.Tactic.Common

/-!
This module contains non-interference of systems that answer calls. Of two runs that differ in the
calls of other parties, one party sees the same replies if the states can be related such that its
own calls are answered alike and those of the others keep the relation.
-/

section Unwinding

variable {σ α β : Type}

inductive Trace (step : σ → α → β → σ → Prop) : σ → List (α × β) → σ → Prop where
  | nil (s : σ) : Trace step s [] s
  | cons {s s' t : σ} {a : α} {b : β} {rest : List (α × β)} :
      step s a b s' → Trace step s' rest t → Trace step s ((a, b) :: rest) t

/--
`good` is a property of states that a run can only lose.
-/
structure Unwinding (step : σ → α → β → σ → Prop) (own : α → Prop) (good : σ → Prop)
    (equiv : σ → σ → Prop) (same : α → β → β → Prop) : Prop where
  back : ∀ {s s' a b}, step s a b s' → good s' → good s
  consistent : ∀ {s s' t t' a b c}, equiv s t → good s → own a → step s a b s' → step t a c t' →
    same a b c ∧ equiv s' t'
  left : ∀ {s s' t a b}, equiv s t → ¬ own a → step s a b s' → equiv s' t
  right : ∀ {s t t' a b}, equiv s t → ¬ own a → step t a b t' → equiv s t'

variable {step : σ → α → β → σ → Prop} {own : α → Prop} {good : σ → Prop}
  {equiv : σ → σ → Prop} {same : α → β → β → Prop}

theorem Unwinding.good_of_trace (h : Unwinding step own good equiv same) {s t : σ}
    {xs : List (α × β)}
    (htrace : Trace step s xs t) (hgood : good t) : good s := by
  induction htrace with
  | nil => exact hgood
  | cons hstep _ ih => exact h.back hstep (ih hgood)

variable [DecidablePred own]

def ownEntries (own : α → Prop) [DecidablePred own] (xs : List (α × β)) : List (α × β) :=
  xs.filter (fun x => own x.1)

theorem ownEntries_cons_pos {a : α} {b : β} {xs : List (α × β)} (h : own a)
    : ownEntries own ((a, b) :: xs) = (a, b) :: ownEntries own xs := by
  simp [ownEntries, h]

theorem ownEntries_cons_neg {a : α} {b : β} {xs : List (α × β)} (h : ¬ own a)
    : ownEntries own ((a, b) :: xs) = ownEntries own xs := by
  simp [ownEntries, h]

theorem ownEntries_map_fst (xs : List (α × β))
    : (ownEntries own xs).map Prod.fst = (xs.map Prod.fst).filter (fun a => own a) := by
  rw [ownEntries, List.filter_map]
  rfl

namespace Unwinding

theorem skip (h : Unwinding step own good equiv same) {s t t' : σ} {ys : List (α × β)} {a : α}
    {calls : List α} (hequiv : equiv s t) (htrace : Trace step t ys t')
    (hcalls : a :: calls = (ownEntries own ys).map Prod.fst)
    : ∃ u u' c rest, equiv s u ∧ step u a c u' ∧ Trace step u' rest t'
        ∧ ownEntries own ys = (a, c) :: ownEntries own rest := by
  induction htrace with
  | nil => cases hcalls
  | @cons u u' t' b c rest hstep hrest ih =>
    by_cases hown : own b
    . rw [ownEntries_cons_pos hown] at hcalls ⊢
      cases hcalls
      exact ⟨u, u', c, rest, hequiv, hstep, hrest, rfl⟩
    . rw [ownEntries_cons_neg hown] at hcalls ⊢
      exact ih (h.right hequiv hown hstep) hcalls

theorem replies (h : Unwinding step own good equiv same) {s s' t t' : σ} {xs ys : List (α × β)}
    (hequiv : equiv s t) (hgood : good s') (hxs : Trace step s xs s') (hys : Trace step t ys t')
    (hcalls : (xs.map Prod.fst).filter (fun a => own a) = (ys.map Prod.fst).filter (fun a => own a))
    : List.Forall₂ (fun x y => x.1 = y.1 ∧ same x.1 x.2 y.2) (ownEntries own xs)
        (ownEntries own ys) := by
  rw [← ownEntries_map_fst, ← ownEntries_map_fst] at hcalls
  induction hxs generalizing t ys with
  | nil =>
    have hnil : ownEntries own ys = [] := by
      simpa [ownEntries] using hcalls.symm
    rw [hnil]
    exact .nil
  | @cons s s₁ s' a b rest hstep hrest ih =>
    by_cases hown : own a
    . rw [ownEntries_cons_pos hown] at hcalls ⊢
      rw [List.map_cons] at hcalls
      rcases h.skip hequiv hys hcalls with ⟨u, u', c, rest', hequiv', hstep', hrest', heq⟩
      have hgood' := h.good_of_trace (.cons hstep hrest) hgood
      rcases h.consistent hequiv' hgood' hown hstep hstep' with ⟨hsame, hnext⟩
      rw [heq] at hcalls ⊢
      apply List.Forall₂.cons ⟨rfl, hsame⟩
      apply ih hnext hgood hrest'
      exact (List.cons.inj hcalls).2
    . rw [ownEntries_cons_neg hown] at hcalls ⊢
      apply ih (h.left hequiv hown hstep) hgood hys hcalls

end Unwinding

end Unwinding
