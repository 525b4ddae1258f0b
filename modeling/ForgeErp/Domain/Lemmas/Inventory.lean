import ForgeErp.Domain.Lemmas.Decisions
import ForgeErp.Domain.Runs

/-!
This module contains the stock of an item over any sequence of commands. The sum that decides on an
adjustment may wrap around; on a stock that is not negative it then is negative.
-/

namespace ForgeErp

theorem not_add_neg_iff {a b : Int64} (ha : 0 ≤ a.toInt)
    : ¬ a + b < 0 ↔ 0 ≤ a.toInt + b.toInt ∧ a.toInt + b.toInt ≤ Int64.maxValue.toInt := by
  rw [Int64.not_lt, Int64.le_iff_toInt_le, Int64.toInt_add, Int64.toInt_zero, Int64.toInt_maxValue]
  have hlt := a.toInt_lt
  have hlt' := b.toInt_lt
  have hle' := b.le_toInt
  unfold Int.bmod
  dsimp only
  split
  . omega
  . omega

theorem toInt_add_of_fits {a b : Int64} (hnonneg : 0 ≤ a.toInt + b.toInt)
    (hle : a.toInt + b.toInt ≤ Int64.maxValue.toInt) : (a + b).toInt = a.toInt + b.toInt := by
  rw [Int64.toInt_maxValue] at hle
  rw [Int64.toInt_add]
  apply Int.bmod_eq_of_le
  . omega
  . omega

-- What a command adds to the stock once it is accepted.
def InventoryCommand.delta (self : InventoryCommand) : Int :=
  match self with
  | .createItem _ => 0
  | .adjustStock cmd => cmd.delta.toInt

namespace InventoryItem

structure Counted (r : aggregate.Run) : Prop where
  stock : r.state.stock.toInt = (r.accepted.map InventoryCommand.delta).sum
  nonneg : 0 ≤ r.state.stock.toInt
  le : r.state.stock.toInt ≤ Int64.maxValue.toInt
  version : r.state.version = r.history.length
  accepts : ∀ cmd : AdjustStock, r.state.created = true → r.state.tenantId = some cmd.tenantId →
    r.state.id = cmd.itemId → cmd.delta ≠ 0 →
      ((∃ decided, r.state.handle (.adjustStock cmd) = .ok decided)
        ↔
      0 ≤ r.state.stock.toInt + cmd.delta.toInt
        ∧ r.state.stock.toInt + cmd.delta.toInt ≤ Int64.maxValue.toInt)

-- An item that does not exist yet has no stock, so that creating it loses none.
def Balanced (r : aggregate.Run) : Prop :=
  r.state.stock.toInt = (r.accepted.map InventoryCommand.delta).sum
  ∧ 0 ≤ r.state.stock.toInt
  ∧ (r.state.created = false → r.state.stock = 0)

theorem Balanced.step {r : aggregate.Run} {command : InventoryCommand}
    {decided : List InventoryEvent}
    (hr : Balanced r) (h : handle r.state command = .ok decided)
    : Balanced (r.accept command decided) := by
  rcases hr with ⟨hstock, hnonneg, hfresh⟩
  have hsum : ((r.accept command decided).accepted.map InventoryCommand.delta).sum
      = r.state.stock.toInt + command.delta := by
    rw [hstock]
    apply Aggregate.Run.sum_accept InventoryCommand.delta r command decided
  cases command with
  | createItem cmd =>
    rcases handleCreate_eq_ok_iff.mp h with ⟨hcreated, _, rfl⟩
    rw [hfresh hcreated] at hsum
    exact ⟨hsum.symm, Int.le_refl 0, fun _ => rfl⟩
  | adjustStock cmd =>
    rcases handleAdjust_eq_ok_iff.mp h with ⟨hcreated, _, _, _, hfits, rfl⟩
    rw [not_add_neg_iff hnonneg] at hfits
    have hadd := toInt_add_of_fits hfits.1 hfits.2
    refine ⟨hadd.trans hsum.symm, ?_, ?_⟩
    . apply Int.le_trans hfits.1 (Int.le_of_eq hadd.symm)
    . intro hunborn
      have : r.state.created = false := hunborn
      rw [hcreated] at this
      cases this

theorem stock_over_any_run (id : InventoryItemId) (commands : List InventoryCommand)
    : Counted (aggregate.run (empty id) commands) := by
  have hbalanced : Balanced (aggregate.run (empty id) commands) := by
    apply Aggregate.run_invariant (fun _ _ => trivial)
    . exact ⟨rfl, Int.le_refl 0, fun _ => rfl⟩
    . intro r command decided hr _ hhandle
      apply hr.step hhandle
  have hversion := @Aggregate.run_count aggregate InventoryItem.version
    (fun item ev => by cases ev <;> rfl) (empty id) commands
  refine ⟨hbalanced.1, hbalanced.2.1, ?_, ?_, ?_⟩
  . rw [Int64.toInt_maxValue]
    have := (aggregate.run (empty id) commands).state.stock.toInt_lt
    omega
  . rw [hversion]
    simp [empty]
  . intro cmd hcreated htenant hid hdelta
    rw [← not_add_neg_iff hbalanced.2.1]
    constructor
    . rintro ⟨decided, hok⟩
      exact (handleAdjust_eq_ok_iff.mp hok).2.2.2.2.1
    . intro hfits
      exact ⟨_, handleAdjust_eq_ok_iff.mpr ⟨hcreated, htenant, hid, hdelta, hfits, rfl⟩⟩

end InventoryItem

end ForgeErp
