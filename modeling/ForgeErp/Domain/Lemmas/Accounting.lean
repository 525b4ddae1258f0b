import ForgeErp.Domain.Lemmas.Decisions
import Mathlib.Algebra.BigOperators.Group.List.Basic
import Mathlib.Tactic.Ring

/-!
This module contains the acceptance rule of the ledger in terms of exact sums. An entry of fewer
than `2 ^ 60` lines cannot overflow the totals of `handle_post`.
-/

namespace ForgeErp

def JournalCommand.tenantId (self : JournalCommand) : TenantId :=
  match self with
  | .postJournalEntry cmd => cmd.tenantId

namespace Ledger

def debits (lines : List JournalEntryLine) : Int :=
  (lines.map (fun line => if line.isDebit then line.amount.toInt else 0)).sum

def credits (lines : List JournalEntryLine) : Int :=
  (lines.map (fun line => if line.isDebit then 0 else line.amount.toInt)).sum

@[simp]
theorem debits_cons (line : JournalEntryLine) (lines : List JournalEntryLine)
    : debits (line :: lines) = (if line.isDebit then line.amount.toInt else 0) + debits lines := rfl

@[simp]
theorem credits_cons (line : JournalEntryLine) (lines : List JournalEntryLine)
    : credits (line :: lines) = (if line.isDebit then 0 else line.amount.toInt) + credits lines :=
  rfl

theorem addI128_eq {a b : Int} (hle : -(2 ^ 127) ≤ a + b) (hlt : a + b < 2 ^ 127)
    : addI128 a b = a + b := by
  unfold addI128
  apply Int.bmod_eq_of_le_mul_two <;> omega

theorem amount_lt (line : JournalEntryLine) : line.amount.toInt < 2 ^ 63 :=
  line.amount.toInt_lt

theorem sumLines_eq {debitTotal creditTotal : Int} {lines : List JournalEntryLine}
    (hpos : ∀ line ∈ lines, 0 < line.amount) (hdebit : 0 ≤ debitTotal) (hcredit : 0 ≤ creditTotal)
    (hdebit' : debitTotal + lines.length * 2 ^ 63 < 2 ^ 127)
    (hcredit' : creditTotal + lines.length * 2 ^ 63 < 2 ^ 127)
    : sumLines debitTotal creditTotal lines
        =
      .ok (debitTotal + debits lines, creditTotal + credits lines) := by
  induction lines generalizing debitTotal creditTotal with
  | nil => simp [sumLines, debits, credits]
  | cons line lines ih =>
    have hline : 0 < line.amount := hpos line (by simp)
    have hamount : 0 < line.amount.toInt := by
      rw [Int64.lt_iff_toInt_lt] at hline
      exact hline
    have hlt := amount_lt line
    rw [List.length_cons] at hdebit' hcredit'
    push_cast at hdebit' hcredit'
    have hrest : ∀ l ∈ lines, 0 < l.amount := fun l hl => hpos l (by simp [hl])
    unfold sumLines
    rw [if_neg (by rw [Int64.not_le]; exact hline)]
    split
    . next hside =>
      rw [addI128_eq (by omega) (by omega), ih hrest (by omega) hcredit (by omega) (by omega)]
      simp [hside, add_assoc]
    . next hside =>
      rw [addI128_eq (by omega) (by omega), ih hrest hdebit (by omega) (by omega) (by omega)]
      simp [hside, add_assoc]

theorem pos_of_sumLines {debitTotal creditTotal : Int} {lines : List JournalEntryLine}
    {totals : Int × Int} (h : sumLines debitTotal creditTotal lines = .ok totals)
    : ∀ line ∈ lines, 0 < line.amount := by
  induction lines generalizing debitTotal creditTotal with
  | nil => simp
  | cons line lines ih =>
    unfold sumLines at h
    split at h
    . cases h
    . next hpos =>
      intro l hl
      rw [List.mem_cons] at hl
      cases hl with
      | inl hl =>
        subst hl
        rw [Int64.not_le] at hpos
        exact hpos
      | inr hl =>
        split at h
        . exact ih h l hl
        . exact ih h l hl

theorem balanced_iff {lines : List JournalEntryLine} (hlines : lines.length < 2 ^ 60)
    : Balanced lines
        ↔
      lines ≠ [] ∧ (∀ line ∈ lines, 0 < line.amount) ∧ debits lines = credits lines := by
  have hexact : (∀ line ∈ lines, 0 < line.amount) →
      sumLines 0 0 lines = .ok (0 + debits lines, 0 + credits lines) := by
    intro hpos
    apply sumLines_eq hpos <;> omega
  unfold Balanced
  rw [List.isEmpty_eq_false_iff]
  constructor
  . intro h
    rcases h with ⟨hne, total, htotal⟩
    have hpos := pos_of_sumLines htotal
    rw [hexact hpos] at htotal
    simp only [Except.ok.injEq, Prod.mk.injEq, zero_add] at htotal
    exact ⟨hne, hpos, htotal.1.trans htotal.2.symm⟩
  . intro h
    rcases h with ⟨hne, hpos, hequal⟩
    refine ⟨hne, credits lines, ?_⟩
    rw [hexact hpos, hequal, zero_add]

theorem balanced_of_produced {ok : JournalCommand → Prop} {ledger : Ledger}
    {evs : List LedgerEvent} (h : aggregate.Produced ok ledger evs)
    : ∀ ev ∈ evs, ev.lines.length < 2 ^ 60 → debits ev.lines = credits ev.lines := by
  apply h.forall (fun ev : LedgerEvent => ev.lines.length < 2 ^ 60 →
    debits ev.lines = credits ev.lines)
  intro s command decided _ hhandle
  cases command with
  | postJournalEntry cmd =>
    have hdecided := handlePost_eq_ok_iff.mp hhandle
    rcases hdecided with ⟨_, hbalanced, rfl⟩
    intro ev hev hlines
    cases List.mem_singleton.mp hev
    exact ((balanced_iff hlines).mp hbalanced).2.2

theorem tenantId_of_produced {t : TenantId} {ledger : Ledger} {evs : List LedgerEvent}
    (h : aggregate.Produced (fun command : JournalCommand => command.tenantId = t) ledger evs)
    : ∀ ev ∈ evs, ev.tenantId = t := by
  apply h.forall (fun ev : LedgerEvent => ev.tenantId = t)
  intro s command decided hok hhandle
  cases command with
  | postJournalEntry cmd =>
    have hdecided := handlePost_eq_ok_iff.mp hhandle
    rcases hdecided with ⟨_, _, rfl⟩
    intro ev hev
    cases List.mem_singleton.mp hev
    exact hok

end Ledger

end ForgeErp
