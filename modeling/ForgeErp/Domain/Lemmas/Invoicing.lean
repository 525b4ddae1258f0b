import ForgeErp.Domain.Lemmas.Decisions
import Mathlib.Algebra.Order.BigOperators.Group.List
import Mathlib.Algebra.Order.Group.Nat

/-!
This module contains the life of an invoice as its history tells it: issued once, paid in parts that
never exceed the total, and voided at most once, before or after it has been paid.
-/

namespace ForgeErp

namespace InvoiceCommand

def tenantId (self : InvoiceCommand) : TenantId :=
  match self with
  | .issueInvoice cmd => cmd.tenantId
  | .registerPayment cmd => cmd.tenantId
  | .voidInvoice cmd => cmd.tenantId

def invoiceId (self : InvoiceCommand) : InvoiceId :=
  match self with
  | .issueInvoice cmd => cmd.invoiceId
  | .registerPayment cmd => cmd.invoiceId
  | .voidInvoice cmd => cmd.invoiceId

end InvoiceCommand

namespace Invoice

structure Consistent (inv : Invoice) : Prop where
  unissued : inv.created = false →
    inv.totalAmount = 0 ∧ inv.totalPaid = 0 ∧ inv.status = .open
  paid_le : inv.totalPaid ≤ inv.totalAmount
  settled : inv.status = .paid → inv.totalPaid = inv.totalAmount

inductive Next (inv : Invoice) : InvoiceEvent → Prop where
  | issued {e : InvoiceIssued} :
      inv.created = false →
      Next inv (.invoiceIssued e)
  | payment {e : PaymentRegistered} :
      inv.created = true →
      inv.status = .open →
      inv.totalPaid < inv.totalAmount →
      e.newTotalPaid.toNat = inv.totalPaid.toNat + e.amount.toNat →
      e.newTotalPaid ≤ inv.totalAmount →
      Next inv (.paymentRegistered e)
  | voided {e : InvoiceVoided} :
      inv.created = true →
      inv.status ≠ .void →
      Next inv (.invoiceVoided e)

theorem handle_next {inv : Invoice} {command : InvoiceCommand} {decided : List InvoiceEvent}
    (hinv : inv.Consistent) (h : inv.handle command = .ok decided)
    : ∃ ev, decided = [ev] ∧ Next inv ev := by
  cases command with
  | issueInvoice cmd =>
    rcases handleIssue_eq_ok_iff.mp h with ⟨hcreated, _, total, _, rfl⟩
    exact ⟨_, rfl, .issued hcreated⟩
  | registerPayment cmd =>
    rcases handleRegisterPayment_eq_ok_iff.mp h
      with ⟨hcreated, _, _, haccept, _, newTotalPaid, hadd, hle, rfl⟩
    rw [canAcceptPayment_iff] at haccept
    rw [checkedAdd_eq_some_iff] at hadd
    refine ⟨_, rfl, .payment hcreated ?_ haccept.2 ?_ ?_⟩
    . cases hstatus : inv.status with
      | «open» => rfl
      | paid =>
        have hpaid := hinv.settled hstatus
        have := haccept.2
        rw [hpaid] at this
        exact absurd this (by simp)
      | void => exact absurd hstatus haccept.1
    . exact hadd
    . simpa using hle
  | voidInvoice cmd =>
    rcases handleVoid_eq_ok_iff.mp h with ⟨hcreated, _, _, hstatus, rfl⟩
    exact ⟨_, rfl, .voided hcreated hstatus⟩

theorem Next.consistent {inv : Invoice} {ev : InvoiceEvent} (hinv : inv.Consistent)
    (h : Next inv ev) : (inv.apply ev).Consistent := by
  cases h with
  | issued =>
    refine ⟨?_, ?_, ?_⟩
    . intro hcreated
      exact absurd hcreated (by simp [apply])
    . simp [apply]
    . intro hstatus
      exact absurd hstatus (by simp [apply])
  | @payment e hcreated hstatus _ _ hle =>
    rw [apply_paymentRegistered]
    refine ⟨?_, hle, ?_⟩
    . intro hunissued
      exact absurd (hcreated.symm.trans hunissued) (by simp)
    . intro hpaid
      dsimp only at hpaid ⊢
      split at hpaid
      . next hge => exact UInt64.le_antisymm hle hge
      . exact absurd (hstatus.symm.trans hpaid) (by simp)
  | voided hcreated =>
    refine ⟨?_, hinv.paid_le, ?_⟩
    . intro hunissued
      exact absurd (hcreated.symm.trans hunissued) (by simp)
    . intro hstatus
      exact absurd hstatus (by simp [apply])

def after (id : InvoiceId) (evs : List InvoiceEvent) (n : Nat) : Invoice :=
  (evs.take n).foldl apply (empty id)

theorem after_succ {id : InvoiceId} {evs : List InvoiceEvent} {n : Nat} {ev : InvoiceEvent}
    (h : evs[n]? = some ev) : after id evs (n + 1) = (after id evs n).apply ev := by
  unfold after
  rw [List.take_add_one, h, List.foldl_append]
  rfl

def Lifecycle (id : InvoiceId) (evs : List InvoiceEvent) : Prop :=
  ∀ n ev, evs[n]? = some ev → Next (after id evs n) ev

variable {id : InvoiceId} {evs : List InvoiceEvent}

theorem Lifecycle.nil : Lifecycle id [] := by
  intro n ev hev
  simp at hev

theorem Lifecycle.concat {ev : InvoiceEvent} (h : Lifecycle id evs)
    (hnext : Next (evs.foldl apply (empty id)) ev) : Lifecycle id (evs ++ [ev]) := by
  intro n ev' hev'
  unfold after
  rw [List.getElem?_append] at hev'
  split at hev'
  . next hlt =>
    rw [List.take_append_of_le_length (Nat.le_of_lt hlt)]
    exact h n ev' hev'
  . next hge =>
    have hn : n = evs.length := by
      rw [List.getElem?_eq_some_iff] at hev'
      have := hev'.1
      rw [List.length_singleton] at this
      omega
    subst hn
    simp only [Nat.sub_self, List.getElem?_cons_zero, Option.some.injEq] at hev'
    subst hev'
    rw [List.take_left]
    exact hnext

theorem Lifecycle.after_invariant (h : Lifecycle id evs) {P : Nat → Invoice → Prop}
    (hinit : P 0 (empty id))
    (hstep : ∀ n ev s, evs[n]? = some ev → P n s → Next s ev → P (n + 1) (s.apply ev))
    {n : Nat} (hn : n ≤ evs.length) : P n (after id evs n) := by
  induction n with
  | zero => exact hinit
  | succ n ih =>
    have hev : evs[n]? = some (evs.get ⟨n, hn⟩) := by simp
    rw [after_succ hev]
    apply hstep n _ _ hev (ih (by omega)) (h n _ hev)

theorem Lifecycle.consistent (h : Lifecycle id evs) {n : Nat} (hn : n ≤ evs.length)
    : (after id evs n).Consistent := by
  apply h.after_invariant (P := fun _ s => s.Consistent) _ _ hn
  . exact ⟨fun _ => ⟨rfl, rfl, rfl⟩, by simp [empty], by simp [empty]⟩
  . intro _ ev s _ hs hnext
    exact hnext.consistent hs

theorem Lifecycle.consistent_all (h : Lifecycle id evs)
    : (evs.foldl apply (empty id)).Consistent := by
  have := h.consistent (Nat.le_refl evs.length)
  unfold after at this
  rw [List.take_length] at this
  exact this

theorem Lifecycle.created_iff (h : Lifecycle id evs) {n : Nat} (hn : n ≤ evs.length)
    : (after id evs n).created = true ↔ n ≠ 0 := by
  apply h.after_invariant (P := fun n s => s.created = true ↔ n ≠ 0) _ _ hn
  . simp [empty]
  . intro n ev s _ hs hnext
    cases hnext with
    | issued => simp [apply]
    | payment hcreated => simp [apply_paymentRegistered, hcreated]
    | voided hcreated => simp [apply, hcreated]

def payments (evs : List InvoiceEvent) : Nat :=
  (evs.map (fun ev =>
    match ev with
    | .paymentRegistered e => e.amount.toNat
    | _ => 0)).sum

theorem Lifecycle.totalPaid_eq (h : Lifecycle id evs) {n : Nat} (hn : n ≤ evs.length)
    : (after id evs n).totalPaid.toNat = payments (evs.take n) := by
  -- an issue sets the amount paid to zero, and it was zero before
  have hinv := h.after_invariant
    (P := fun n s => s.Consistent ∧ s.totalPaid.toNat = payments (evs.take n)) ⟨?_, rfl⟩ ?_ hn
  . exact hinv.2
  . exact (h.consistent (Nat.zero_le _) : (after id evs 0).Consistent)
  . intro n ev s hev hs hnext
    refine ⟨hnext.consistent hs.1, ?_⟩
    have hsum : payments (evs.take (n + 1)) = payments (evs.take n) + payments [ev] := by
      rw [List.take_add_one, hev]
      simp [payments]
    rw [hsum, ← hs.2]
    cases hnext with
    | issued hcreated =>
      rw [(hs.1.unissued hcreated).2.1]
      simp [apply, payments]
    | payment _ _ _ hadd =>
      rw [apply_paymentRegistered]
      simpa [payments] using hadd
    | voided => simp [apply, payments]

def issuedTotal (evs : List InvoiceEvent) : Nat :=
  (evs.map (fun ev =>
    match ev with
    | .invoiceIssued e => e.totalAmount.toNat
    | _ => 0)).sum

theorem Lifecycle.totalAmount_eq (h : Lifecycle id evs) {n : Nat} (hn : n ≤ evs.length)
    : (after id evs n).totalAmount.toNat = issuedTotal (evs.take n) := by
  have hinv := h.after_invariant
    (P := fun n s => s.Consistent ∧ s.totalAmount.toNat = issuedTotal (evs.take n)) ⟨?_, rfl⟩ ?_ hn
  . exact hinv.2
  . exact (h.consistent (Nat.zero_le _) : (after id evs 0).Consistent)
  . intro n ev s hev hs hnext
    refine ⟨hnext.consistent hs.1, ?_⟩
    have hsum : issuedTotal (evs.take (n + 1)) = issuedTotal (evs.take n) + issuedTotal [ev] := by
      rw [List.take_add_one, hev]
      simp [issuedTotal]
    rw [hsum, ← hs.2]
    cases hnext with
    | issued hcreated =>
      rw [(hs.1.unissued hcreated).1]
      simp [apply, issuedTotal]
    | payment => simp [apply_paymentRegistered, issuedTotal]
    | voided => simp [apply, issuedTotal]

theorem issuedTotal_take_le (evs : List InvoiceEvent) (n : Nat)
    : issuedTotal (evs.take n) ≤ issuedTotal evs := by
  apply List.Sublist.sum_le_sum
  . exact (List.take_sublist n evs).map _
  . simp

theorem lifecycle_of_produced {ok : InvoiceCommand → Prop} {evs : List aggregate.Event}
    (h : aggregate.Produced ok (empty id) evs) : Lifecycle id evs := by
  induction h with
  | nil => exact Lifecycle.nil
  | step command _ _ hhandle ih =>
    rcases handle_next ih.consistent_all hhandle with ⟨ev, rfl, hnext⟩
    exact ih.concat hnext

theorem handle_ids {inv : Invoice} {command : InvoiceCommand} {decided : List InvoiceEvent}
    (h : inv.handle command = .ok decided)
    : ∀ ev ∈ decided, ev.tenantId = command.tenantId ∧ ev.invoiceId = command.invoiceId := by
  intro ev hev
  cases command with
  | issueInvoice cmd =>
    rcases handleIssue_eq_ok_iff.mp h with ⟨_, _, total, _, rfl⟩
    cases List.mem_singleton.mp hev
    exact ⟨rfl, rfl⟩
  | registerPayment cmd =>
    rcases handleRegisterPayment_eq_ok_iff.mp h with ⟨_, _, _, _, _, newTotalPaid, _, _, rfl⟩
    cases List.mem_singleton.mp hev
    exact ⟨rfl, rfl⟩
  | voidInvoice cmd =>
    rcases handleVoid_eq_ok_iff.mp h with ⟨_, _, _, _, rfl⟩
    cases List.mem_singleton.mp hev
    exact ⟨rfl, rfl⟩

theorem tenantId_of_produced {t : TenantId} {inv : Invoice}
    (h : aggregate.Produced (fun command : InvoiceCommand => command.tenantId = t) inv evs)
    : ∀ ev ∈ evs, ev.tenantId = t := by
  apply h.forall (fun ev : InvoiceEvent => ev.tenantId = t)
  intro s command decided hok hhandle ev hev
  exact (handle_ids hhandle ev hev).1.trans hok

theorem ids_of_produced {t : TenantId} {invoiceId : InvoiceId} {inv : Invoice}
    (h : aggregate.Produced (fun command : InvoiceCommand =>
      command.tenantId = t ∧ command.invoiceId = invoiceId) inv evs)
    : ∀ ev ∈ evs, ev.tenantId = t ∧ ev.invoiceId = invoiceId := by
  apply h.forall (fun ev : InvoiceEvent => ev.tenantId = t ∧ ev.invoiceId = invoiceId)
  intro s command decided hok hhandle ev hev
  rcases handle_ids hhandle ev hev with ⟨htenant, hid⟩
  exact ⟨htenant.trans hok.1, hid.trans hok.2⟩

end Invoice

end ForgeErp
