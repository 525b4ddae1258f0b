import ForgeErp.Domain.Lemmas.Decisions
import Mathlib.Algebra.BigOperators.Group.List.Lemmas
import Mathlib.Algebra.Order.BigOperators.Group.List
import Mathlib.Algebra.Order.Group.Int

/-!
This module contains the verification of the total of an invoice. What a line adds to it is the
amount of the line modulo 2^64, so that the total is exact unless the amount of a single line is cut
down.
-/

namespace ForgeErp

namespace InvoiceLine

def amount (line : InvoiceLine) : Int :=
  line.quantity.toInt * line.unitPrice.toNat

def Positive (line : InvoiceLine) : Prop :=
  0 < line.quantity ∧ 0 < line.unitPrice

instance (line : InvoiceLine) : Decidable line.Positive :=
  inferInstanceAs (Decidable (_ ∧ _))

variable {line : InvoiceLine}

theorem Positive.amount_pos (h : line.Positive) : 0 < line.amount := by
  have hquantity : 0 < line.quantity.toInt := Int64.lt_iff_toInt_lt.mp h.1
  have hprice : 0 < line.unitPrice.toNat := h.2
  apply Int.mul_pos hquantity
  exact Int.natCast_pos.mpr hprice

theorem amount_lt (line : InvoiceLine) : line.amount < 2 ^ 127 := by
  have hquantity : line.quantity.toInt ≤ 2 ^ 63 := Int.le_of_lt line.quantity.toInt_lt
  have hprice : line.unitPrice.toNat < 2 ^ 64 := line.unitPrice.toNat_lt
  have hle := Int.mul_le_mul_of_nonneg_right hquantity (Int.natCast_nonneg line.unitPrice.toNat)
  unfold amount
  omega

theorem Positive.checkedMulI128 (h : line.Positive)
    : checkedMulI128 line.quantity.toInt line.unitPrice.toNat = some line.amount := by
  have hpos := h.amount_pos
  have hlt := line.amount_lt
  unfold amount at hpos hlt
  unfold ForgeErp.checkedMulI128 amount
  rw [if_pos ⟨by omega, hlt⟩]

end InvoiceLine

namespace Invoice

variable {lines : List InvoiceLine}

def exactTotal (lines : List InvoiceLine) : Int :=
  (lines.map InvoiceLine.amount).sum

-- The sum of what is left of the amounts in a `u64`.
def wrappedTotal (lines : List InvoiceLine) : Int :=
  (lines.map fun line => line.amount % 2 ^ 64).sum

theorem toNat_ofInt_amount (line : InvoiceLine)
    : ((UInt64.ofInt line.amount).toNat : Int) = line.amount % 2 ^ 64 := by
  unfold UInt64.ofInt
  rw [UInt64.toNat_ofNat']
  omega

theorem wrappedTotal_nonneg (lines : List InvoiceLine) : 0 ≤ wrappedTotal lines := by
  apply List.sum_nonneg
  intro x hx
  rcases List.mem_map.mp hx with ⟨line, -, rfl⟩
  omega

theorem sumLines_eq_ok_iff {total t : UInt64}
    : sumLines total lines = .ok t
        ↔
      (∀ line ∈ lines, line.Positive) ∧ (t.toNat : Int) = total.toNat + wrappedTotal lines := by
  induction lines generalizing total with
  | nil =>
    unfold sumLines wrappedTotal
    simp [← UInt64.toNat_inj, eq_comm]
  | cons line lines ih =>
    unfold sumLines
    rw [List.forall_mem_cons]
    by_cases hpos : line.Positive
    . have hwrapped : wrappedTotal (line :: lines) = line.amount % 2 ^ 64 + wrappedTotal lines :=
        rfl
      rw [if_neg (Int64.not_le.mpr hpos.1), if_neg (UInt64.pos_iff_ne_zero.mp hpos.2),
        hpos.checkedMulI128]
      dsimp only
      rw [if_neg (Int.not_le.mpr hpos.amount_pos), hwrapped]
      split
      . next hnone =>
        have hnot : ¬ total.toNat + (UInt64.ofInt line.amount).toNat < 2 ^ 64 := by
          intro hlt
          unfold checkedAdd at hnone
          rw [if_pos hlt] at hnone
          cases hnone
        have hrest := wrappedTotal_nonneg lines
        have hmod := toNat_ofInt_amount line
        have hlt := t.toNat_lt
        simp only [reduceCtorEq, false_iff]
        omega
      . next total' hsome =>
        rw [checkedAdd_eq_some_iff] at hsome
        have hmod := toNat_ofInt_amount line
        rw [ih]
        simp only [hpos, true_and, and_congr_right_iff]
        omega
    . simp only [hpos, false_and, iff_false]
      split
      . simp
      . next hquantity =>
        split
        . simp
        . next hprice =>
          exact absurd ⟨Int64.not_le.mp hquantity, UInt64.pos_iff_ne_zero.mpr hprice⟩ hpos

theorem wrappedTotal_eq (h : ∀ line ∈ lines, 0 ≤ line.amount ∧ line.amount < 2 ^ 64)
    : wrappedTotal lines = exactTotal lines := by
  unfold wrappedTotal exactTotal
  apply congrArg
  apply List.map_congr_left
  intro line hline
  exact Int.emod_eq_of_lt (h line hline).1 (h line hline).2

theorem amount_le_exactTotal (hpos : ∀ line ∈ lines, line.Positive) {line : InvoiceLine}
    (hline : line ∈ lines) : line.amount ≤ exactTotal lines := by
  unfold exactTotal
  apply List.single_le_sum
  . intro x hx
    rcases List.mem_map.mp hx with ⟨line', hline', rfl⟩
    exact Int.le_of_lt (hpos line' hline').amount_pos
  . apply List.mem_map_of_mem hline

/--
The command is accepted if and only if its exact total is that of a `u64`, and then this is the
total.
-/
structure IssuesExactly (inv : Invoice) (cmd : IssueInvoice) : Prop where
  accepted : (∃ decided, inv.handleIssue cmd = .ok decided)
    ↔ cmd.lines ≠ [] ∧ (∀ line ∈ cmd.lines, line.Positive) ∧ exactTotal cmd.lines < 2 ^ 64
  total : ∀ decided, inv.handleIssue cmd = .ok decided →
    ∃ e, decided = [.invoiceIssued e] ∧ (e.totalAmount.toNat : Int) = exactTotal cmd.lines
      ∧ 0 < e.totalAmount

-- No amount is cut down, or the command is refused anyway.
def Untruncated (lines : List InvoiceLine) : Prop :=
  (∀ line ∈ lines, line.amount < 2 ^ 64)
  ∨ lines = []
  ∨ (∃ line ∈ lines, ¬ line.Positive)
  ∨ 2 ^ 64 ≤ wrappedTotal lines

theorem handleIssue_accepts_iff {inv : Invoice} {cmd : IssueInvoice} (hfresh : inv.created = false)
    : (∃ decided, inv.handleIssue cmd = .ok decided)
        ↔
      cmd.lines ≠ [] ∧ (∀ line ∈ cmd.lines, line.Positive) ∧ wrappedTotal cmd.lines < 2 ^ 64 := by
  simp only [handleIssue_eq_ok_iff, sumLines_eq_ok_iff, hfresh, true_and, List.isEmpty_eq_false_iff]
  constructor
  . rintro ⟨decided, hlines, t, ⟨hpos, ht⟩, -⟩
    have hlt := t.toNat_lt
    refine ⟨hlines, hpos, ?_⟩
    rw [UInt64.toNat_zero] at ht
    omega
  . rintro ⟨hlines, hpos, hlt⟩
    have hnonneg := wrappedTotal_nonneg cmd.lines
    refine ⟨_, hlines, .ofNat (wrappedTotal cmd.lines).toNat, ⟨hpos, ?_⟩, rfl⟩
    rw [UInt64.toNat_ofNat', UInt64.toNat_zero]
    omega

theorem handleIssue_total {inv : Invoice} {cmd : IssueInvoice} {decided : List InvoiceEvent}
    (h : inv.handleIssue cmd = .ok decided)
    : ∃ e, decided = [.invoiceIssued e] ∧ (e.totalAmount.toNat : Int) = wrappedTotal cmd.lines := by
  rcases handleIssue_eq_ok_iff.mp h with ⟨-, -, total, hsum, rfl⟩
  have htotal := (sumLines_eq_ok_iff.mp hsum).2
  rw [UInt64.toNat_zero, Int.natCast_zero, Int.zero_add] at htotal
  exact ⟨_, rfl, htotal⟩

theorem exactTotal_pos (hlines : lines ≠ []) (hpos : ∀ line ∈ lines, line.Positive)
    : 0 < exactTotal lines := by
  cases lines with
  | nil => exact absurd rfl hlines
  | cons line rest =>
    have hline := (hpos line List.mem_cons_self).amount_pos
    exact hline.trans_le (amount_le_exactTotal hpos List.mem_cons_self)

theorem wrappedTotal_eq_of_lt (hpos : ∀ line ∈ lines, line.Positive)
    (hlt : exactTotal lines < 2 ^ 64)
    : wrappedTotal lines = exactTotal lines := by
  apply wrappedTotal_eq
  intro line hline
  exact ⟨Int.le_of_lt (hpos line hline).amount_pos, (amount_le_exactTotal hpos hline).trans_lt hlt⟩

theorem handleIssue_exact_iff (inv : Invoice) (hfresh : inv.created = false) (cmd : IssueInvoice)
    : inv.IssuesExactly cmd ↔ Untruncated cmd.lines := by
  constructor
  . intro hexact
    by_cases hwraps : cmd.lines ≠ [] ∧ (∀ line ∈ cmd.lines, line.Positive)
      ∧ wrappedTotal cmd.lines < 2 ^ 64
    . rcases hwraps with ⟨hlines, hpos, hlt⟩
      have haccepts := (handleIssue_accepts_iff hfresh).mpr ⟨hlines, hpos, hlt⟩
      have htotal := (hexact.accepted.mp haccepts).2.2
      refine .inl fun line hline => ?_
      exact (amount_le_exactTotal hpos hline).trans_lt htotal
    . refine .inr ?_
      by_contra hnot
      push Not at hnot hwraps
      exact absurd hnot.2.2 (Int.not_lt.mpr (hwraps hnot.1 hnot.2.1))
  . intro huntruncated
    have hexactly : ∀ (hlines : cmd.lines ≠ []) (hpos : ∀ line ∈ cmd.lines, line.Positive),
        wrappedTotal cmd.lines < 2 ^ 64 → wrappedTotal cmd.lines = exactTotal cmd.lines := by
      intro hlines hpos hlt
      rcases huntruncated with hsmall | hempty | ⟨line, hline, hnot⟩ | hwrapped
      . apply wrappedTotal_eq
        intro line hline
        exact ⟨Int.le_of_lt (hpos line hline).amount_pos, hsmall line hline⟩
      . exact absurd hempty hlines
      . exact absurd (hpos line hline) hnot
      . omega
    constructor
    . rw [handleIssue_accepts_iff hfresh]
      constructor
      . rintro ⟨hlines, hpos, hlt⟩
        rw [← hexactly hlines hpos hlt]
        exact ⟨hlines, hpos, hlt⟩
      . rintro ⟨hlines, hpos, hlt⟩
        rw [wrappedTotal_eq_of_lt hpos hlt]
        exact ⟨hlines, hpos, hlt⟩
    . intro decided h
      rcases (handleIssue_accepts_iff hfresh).mp ⟨decided, h⟩ with ⟨hlines, hpos, hlt⟩
      rcases handleIssue_total h with ⟨e, rfl, htotal⟩
      rw [hexactly hlines hpos hlt] at htotal
      have hpositive := exactTotal_pos hlines hpos
      refine ⟨e, rfl, htotal, ?_⟩
      rw [UInt64.lt_iff_toNat_lt, UInt64.toNat_zero]
      omega

end Invoice

namespace Billing

open Invoice

def line (quantity : Int64) (unitPrice : UInt64) : InvoiceLine where
  lineNo := 1
  salesOrderId := ⟨⟨⟨1⟩⟩⟩
  productId := ⟨⟨⟨2⟩⟩⟩
  quantity
  unitPrice

def issue (lines : List InvoiceLine) : IssueInvoice where
  tenantId := ⟨⟨3⟩⟩
  invoiceId := ⟨⟨⟨4⟩⟩⟩
  salesOrderId := ⟨⟨⟨1⟩⟩⟩
  lines
  dueDate := ⟨0⟩
  occurredAt := ⟨0⟩

theorem handleIssue_exact_iff_largest
    : (empty ⟨⟨⟨4⟩⟩⟩).IssuesExactly (issue [line 1 18446744073709551614, line 1 1]) := by
  rw [handleIssue_exact_iff _ rfl]
  left
  decide

/--
Two units for 2^63 each are sold for nothing.
-/
theorem total_truncated
    : ¬ ∀ inv cmd, inv.created = false → IssuesExactly inv cmd := by
  intro h
  have hexact := h (empty ⟨⟨⟨4⟩⟩⟩) (issue [line 2 9223372036854775808]) rfl
  have haccepted : ∃ decided, (empty ⟨⟨⟨4⟩⟩⟩).handleIssue (issue [line 2 9223372036854775808])
    = .ok decided := by
    rw [handleIssue_accepts_iff rfl]
    decide
  exact absurd (hexact.accepted.mp haccepted).2.2 (by decide)

end Billing

end ForgeErp
