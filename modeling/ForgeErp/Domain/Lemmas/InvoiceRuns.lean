import ForgeErp.Domain.Lemmas.Invoicing
import ForgeErp.Domain.Runs

/-!
This module contains an invoice over any sequence of commands. An invoice that has been paid may
still be voided; nothing can be done to a void one.
-/

namespace ForgeErp

-- What a command adds to the amount paid once it is accepted.
def InvoiceCommand.payment (self : InvoiceCommand) : Nat :=
  match self with
  | .registerPayment cmd => cmd.amount.toNat
  | _ => 0

namespace Invoice

def stateOf (id : InvoiceId) (commands : List InvoiceCommand) : Invoice :=
  (aggregate.run (empty id) commands).state

def acceptedOf (id : InvoiceId) (commands : List InvoiceCommand) : List InvoiceCommand :=
  (aggregate.run (empty id) commands).accepted

def historyOf (id : InvoiceId) (commands : List InvoiceCommand) : List InvoiceEvent :=
  (aggregate.run (empty id) commands).history

structure RunsSoundly (id : InvoiceId) (commands : List InvoiceCommand) : Prop where
  paid_eq : (stateOf id commands).created = true →
    (stateOf id commands).totalPaid.toNat
      = ((acceptedOf id commands).map InvoiceCommand.payment).sum
  paid_le : (stateOf id commands).created = true →
    (stateOf id commands).totalPaid ≤ (stateOf id commands).totalAmount
  settled : (stateOf id commands).created = true → 0 < (stateOf id commands).totalAmount →
    (stateOf id commands).status = .paid →
      (stateOf id commands).totalPaid = (stateOf id commands).totalAmount
  unsettled : (stateOf id commands).created = true → 0 < (stateOf id commands).totalAmount →
    (stateOf id commands).status = .open →
      (stateOf id commands).totalPaid < (stateOf id commands).totalAmount
  void_stays : (stateOf id commands).status = .void →
    ∀ more, (stateOf id (commands ++ more)).status = .void
  void_final : (stateOf id commands).status = .void →
    ∀ command, ∃ err, handle (stateOf id commands) command = .error err
  fixed : (stateOf id commands).created = true → ∀ more,
    (stateOf id (commands ++ more)).lines = (stateOf id commands).lines
      ∧ (stateOf id (commands ++ more)).dueDate = (stateOf id commands).dueDate
      ∧ (stateOf id (commands ++ more)).totalAmount = (stateOf id commands).totalAmount
  version : (stateOf id commands).version = (historyOf id commands).length

theorem Lifecycle.unsettled {id : InvoiceId} {evs : List InvoiceEvent}
    (h : Lifecycle id evs) {n : Nat}
    (hn : n ≤ evs.length) (hcreated : (after id evs n).created = true)
    (hamount : 0 < (after id evs n).totalAmount) (hopen : (after id evs n).status = .open)
    : (after id evs n).totalPaid < (after id evs n).totalAmount := by
  apply h.after_invariant (P := fun _ s => s.created = true → 0 < s.totalAmount →
    s.status = .open → s.totalPaid < s.totalAmount) _ _ hn hcreated hamount hopen
  . intro hcreated
    cases hcreated
  . intro _ ev s _ hs hnext
    cases hnext with
    | issued =>
      intro _ hamount _
      exact hamount
    | payment =>
      rw [apply_paymentRegistered]
      intro _ _ hopen
      dsimp only at hopen ⊢
      split at hopen
      . cases hopen
      . next hlt => apply UInt64.not_le.mp hlt
    | voided =>
      intro _ _ hopen
      cases hopen

theorem payments_handle {inv : Invoice} {command : InvoiceCommand} {decided : List InvoiceEvent}
    (h : inv.handle command = .ok decided) : payments decided = command.payment := by
  cases command with
  | issueInvoice cmd =>
    rcases handleIssue_eq_ok_iff.mp h with ⟨_, _, total, _, rfl⟩
    rfl
  | registerPayment cmd =>
    rcases handleRegisterPayment_eq_ok_iff.mp h with ⟨_, _, _, _, _, newTotalPaid, _, _, rfl⟩
    simp [payments, InvoiceCommand.payment]
  | voidInvoice cmd =>
    rcases handleVoid_eq_ok_iff.mp h with ⟨_, _, _, _, rfl⟩
    rfl

theorem payments_append (evs evs' : List InvoiceEvent)
    : payments (evs ++ evs') = payments evs + payments evs' := by
  simp [payments]

theorem payments_historyOf (id : InvoiceId) (commands : List InvoiceCommand)
    : payments (historyOf id commands)
        = ((acceptedOf id commands).map InvoiceCommand.payment).sum := by
  apply @Aggregate.run_invariant aggregate
    (fun r => payments r.history = (r.accepted.map InvoiceCommand.payment).sum) (fun _ => True)
    (empty id) commands (fun _ _ => trivial)
  . rfl
  . intro r command decided hr _ hhandle
    have hsum := Aggregate.Run.sum_accept InvoiceCommand.payment r command decided
    have hpayments : payments (r.accept command decided).history
        = payments r.history + payments decided := payments_append _ _
    have hdecided := payments_handle hhandle
    exact (hpayments.trans (congr (congrArg _ hr) hdecided)).trans hsum.symm

theorem handle_issued {inv : Invoice} {command : InvoiceCommand} {decided : List InvoiceEvent}
    (hcreated : inv.created = true) (h : inv.handle command = .ok decided)
    : (aggregate.rehydrate inv decided).created = true
      ∧ (aggregate.rehydrate inv decided).lines = inv.lines
      ∧ (aggregate.rehydrate inv decided).dueDate = inv.dueDate
      ∧ (aggregate.rehydrate inv decided).totalAmount = inv.totalAmount := by
  cases command with
  | issueInvoice cmd =>
    rcases handleIssue_eq_ok_iff.mp h with ⟨hfresh, _, total, _, rfl⟩
    rw [hcreated] at hfresh
    cases hfresh
  | registerPayment cmd =>
    rcases handleRegisterPayment_eq_ok_iff.mp h with ⟨_, _, _, _, _, newTotalPaid, _, _, rfl⟩
    dsimp only [Aggregate.rehydrate, aggregate, List.foldl_cons, List.foldl_nil]
    rw [apply_paymentRegistered]
    exact ⟨hcreated, rfl, rfl, rfl⟩
  | voidInvoice cmd =>
    rcases handleVoid_eq_ok_iff.mp h with ⟨_, _, _, _, rfl⟩
    exact ⟨hcreated, rfl, rfl, rfl⟩

theorem handle_void {inv : Invoice} (hcreated : inv.created = true) (hvoid : inv.status = .void)
    (command : InvoiceCommand) : ∃ err, inv.handle command = .error err := by
  cases h : inv.handle command with
  | error err => exact ⟨err, rfl⟩
  | ok decided =>
    exfalso
    cases command with
    | issueInvoice cmd =>
      have hfresh := (handleIssue_eq_ok_iff.mp h).1
      rw [hcreated] at hfresh
      cases hfresh
    | registerPayment cmd =>
      have haccept := (handleRegisterPayment_eq_ok_iff.mp h).2.2.2.1
      rw [canAcceptPayment_iff] at haccept
      apply haccept.1 hvoid
    | voidInvoice cmd => exact (handleVoid_eq_ok_iff.mp h).2.2.2.1 hvoid

theorem stateOf_eq_after (id : InvoiceId) (commands : List InvoiceCommand)
    : Lifecycle id (historyOf id commands)
      ∧ stateOf id commands = after id (historyOf id commands) (historyOf id commands).length := by
  rcases @Aggregate.run_produced aggregate (fun _ => True) (empty id) commands (fun _ _ => trivial)
    with ⟨hstate, hproduced⟩
  refine ⟨lifecycle_of_produced hproduced, ?_⟩
  unfold after
  rw [List.take_length]
  exact hstate

theorem stateOf_preserves {P : Invoice → Prop} {id : InvoiceId} {commands : List InvoiceCommand}
    (h : P (stateOf id commands))
    (hstep : ∀ (inv : Invoice) command decided, P inv → inv.handle command = .ok decided →
      P (aggregate.rehydrate inv decided))
    (more : List InvoiceCommand) : P (stateOf id (commands ++ more)) :=
  @Aggregate.run_preserves aggregate P (empty id) commands h hstep more

theorem stateOf_consistent (id : InvoiceId) (commands : List InvoiceCommand)
    : (stateOf id commands).Consistent := by
  rcases stateOf_eq_after id commands with ⟨hlife, hafter⟩
  rw [hafter]
  apply hlife.consistent (Nat.le_refl _)

theorem stateOf_created_of_void {id : InvoiceId} {commands : List InvoiceCommand}
    (hvoid : (stateOf id commands).status = .void) : (stateOf id commands).created = true := by
  by_contra hcreated
  rw [Bool.not_eq_true] at hcreated
  have hopen := ((stateOf_consistent id commands).unissued hcreated).2.2
  rw [hvoid] at hopen
  cases hopen

theorem stateOf_void_append {id : InvoiceId} {commands : List InvoiceCommand}
    (hvoid : (stateOf id commands).status = .void) (more : List InvoiceCommand)
    : (stateOf id (commands ++ more)).status = .void := by
  have hstays := stateOf_preserves (P := fun inv => inv.created = true ∧ inv.status = .void)
    ⟨stateOf_created_of_void hvoid, hvoid⟩ ?_ more
  . exact hstays.2
  . intro inv command decided hinv hhandle
    rcases handle_void hinv.1 hinv.2 command with ⟨err, herr⟩
    rw [herr] at hhandle
    cases hhandle

theorem stateOf_fixed_append {id : InvoiceId} {commands : List InvoiceCommand}
    (hcreated : (stateOf id commands).created = true) (more : List InvoiceCommand)
    : (stateOf id (commands ++ more)).lines = (stateOf id commands).lines
      ∧ (stateOf id (commands ++ more)).dueDate = (stateOf id commands).dueDate
      ∧ (stateOf id (commands ++ more)).totalAmount = (stateOf id commands).totalAmount := by
  have hfixed := stateOf_preserves (P := fun inv => inv.created = true
    ∧ inv.lines = (stateOf id commands).lines
    ∧ inv.dueDate = (stateOf id commands).dueDate
    ∧ inv.totalAmount = (stateOf id commands).totalAmount) ⟨hcreated, rfl, rfl, rfl⟩ ?_ more
  . exact hfixed.2
  . intro inv command decided hinv hhandle
    rcases handle_issued hinv.1 hhandle with ⟨hkept, hlines, hdue, htotal⟩
    exact ⟨hkept, hlines.trans hinv.2.1, hdue.trans hinv.2.2.1, htotal.trans hinv.2.2.2⟩

theorem stateOf_version (id : InvoiceId) (commands : List InvoiceCommand)
    : (stateOf id commands).version = (historyOf id commands).length := by
  have hversion := @Aggregate.run_count aggregate Invoice.version ?_ (empty id) commands
  . apply hversion.trans (Nat.zero_add _)
  . intro inv ev
    cases ev with
    | invoiceIssued e => rfl
    | paymentRegistered e => apply congrArg Invoice.version (apply_paymentRegistered inv e)
    | invoiceVoided e => rfl

theorem lifecycle_over_any_run (id : InvoiceId) (commands : List InvoiceCommand)
    : RunsSoundly id commands := by
  rcases stateOf_eq_after id commands with ⟨hlife, hafter⟩
  have hconsistent := stateOf_consistent id commands
  refine ⟨?_, ?_, ?_, ?_, ?_, ?_, ?_, stateOf_version id commands⟩
  . intro _
    have hpaid := hlife.totalPaid_eq (Nat.le_refl _)
    rw [← hafter, List.take_length] at hpaid
    rw [hpaid]
    apply payments_historyOf
  . intro _
    apply hconsistent.paid_le
  . intro _ _
    exact hconsistent.settled
  . rw [hafter]
    apply hlife.unsettled (Nat.le_refl _)
  . intro hvoid more
    apply stateOf_void_append hvoid
  . intro hvoid
    apply handle_void (stateOf_created_of_void hvoid) hvoid
  . intro hcreated more
    apply stateOf_fixed_append hcreated

end Invoice

end ForgeErp
