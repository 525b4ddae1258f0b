import ForgeErp.Desktop.Client
import ForgeErp.Desktop.Lemmas.SyncTenant

/-!
This module contains the verification that the queue loses no command. A command whose attempts end
in a network error is marked as being synchronised, and what is so marked is not listed any more.
-/

namespace ForgeErp

namespace CommandQueue

variable {queue : CommandQueue} {id : Uuid}

theorem map_asEnqueued_update {set : QueuedCommand → QueuedCommand}
    (hset : ∀ cmd, (set cmd).id = cmd.id)
    (h : ∀ cmd, (set cmd).asEnqueued = cmd.asEnqueued)
    : (queue.update id set hset).rows.map QueuedCommand.asEnqueued
        = queue.rows.map QueuedCommand.asEnqueued := by
  unfold update
  rw [List.map_map]
  apply List.map_congr_left
  intro cmd _
  simp only [Function.comp_def]
  split
  . apply h
  . rfl

-- Every row is either waiting or of a command in `synced`.
def AllWaiting (queue : CommandQueue) (synced : List Uuid) : Prop :=
  ∀ cmd ∈ queue.rows, cmd.id ∉ synced → cmd.Waiting

theorem AllWaiting.update {synced : List Uuid} (h : queue.AllWaiting synced)
    {set : QueuedCommand → QueuedCommand} (hset : ∀ cmd, (set cmd).id = cmd.id)
    (hwaiting : ∀ cmd, cmd.Waiting → (set cmd).Waiting)
    : (queue.update id set hset).AllWaiting synced := by
  intro cmd hcmd hsynced
  obtain ⟨old, hold, rfl⟩ := List.mem_map.1 hcmd
  have hsame : (if old.id = id then set old else old).id = old.id := by
    split
    . apply hset
    . rfl
  rw [hsame] at hsynced
  have := h old hold hsynced
  split
  . apply hwaiting old this
  . exact this

theorem AllWaiting.markFailed {synced : List Uuid} (h : queue.AllWaiting synced)
    (id : Uuid) (error : String)
    : (queue.markFailed id error).AllWaiting synced := by
  unfold CommandQueue.markFailed
  apply h.update
  intro cmd _
  exact .inr rfl

theorem AllWaiting.retryFailed {synced : List Uuid} (h : queue.AllWaiting synced) (id : Uuid)
    : (queue.retryFailed id).AllWaiting synced := by
  unfold CommandQueue.retryFailed
  apply h.update
  intro cmd hwaiting
  split
  . exact .inl rfl
  . exact hwaiting

end CommandQueue

namespace SyncManager

variable {σ : Type} {api : Api σ} {cmd : QueuedCommand}
  {deliveries : Nat → Delivery} {wire : Wire σ}
variable {tenantId : TenantId} {surroundings : Uuid → CommandSurroundings}

-- Out of a turn without success a command waits, unless it was not answered.
theorem settled_waiting_iff (now : DateTime) (row : QueuedCommand)
    (hfailed : (syncCommand api cmd deliveries wire).1 ≠ .ok ())
    : (settled (syncCommand api cmd deliveries wire).1 now row).Waiting
        ↔ ¬Unanswered api cmd deliveries wire := by
  have hoffline : (syncCommand api cmd deliveries wire).1 ≠ .error .offline := by
    apply attempts_ne_offline
  rw [← syncCommand_network_iff]
  unfold settled QueuedCommand.Waiting
  cases houtcome : (syncCommand api cmd deliveries wire).1 with
  | ok _ => exact absurd houtcome hfailed
  | error e =>
    cases e with
    | offline => exact absurd houtcome hoffline
    | _ => simp

theorem map_asEnqueued_syncSome (cmds : List QueuedCommand) (acc : SyncResult × State σ)
    : (syncSome api tenantId surroundings cmds acc).2.queue.rows.map QueuedCommand.asEnqueued
        = acc.2.queue.rows.map QueuedCommand.asEnqueued := by
  induction cmds generalizing acc with
  | nil => rfl
  | cons cmd cmds ih =>
    change (syncSome api tenantId surroundings cmds _).2.queue.rows.map _ = _
    rw [ih, syncOne_queue, CommandQueue.map_asEnqueued_update _ (settled_asEnqueued _ _)]

/--
Whenever it is the turn of a command that is not in `synced`, it is answered.
-/
def Answers (api : Api σ) (surroundings : Uuid → CommandSurroundings)
    (synced : List Uuid) (wire : Wire σ)
    (cmds : List QueuedCommand)
    : Prop :=
  ∀ before cmd after, cmds = before ++ cmd :: after → cmd.id ∉ synced →
    ¬Unanswered api cmd (surroundings cmd.id).deliveries (wireAfter api surroundings before wire)

theorem syncTenant_allWaiting_iff {s : State σ} {synced : List Uuid} (h : s.queue.AllWaiting synced)
    : (syncTenant api tenantId surroundings s).2.queue.AllWaiting
          (synced ++ (syncTenant api tenantId surroundings s).1.syncedCommands)
        ↔ Answers api surroundings synced s.wire (s.queue.listPending tenantId) := by
  have hnodup := s.queue.listPending_nodup tenantId
  rw [syncTenant_eq]
  constructor
  . intro hwaiting before cmd after hsplit hsynced hunanswered
    have hcmd : s.queue.row cmd.id = some cmd := by
      rw [← CommandQueue.mem_rows_iff]
      have hmem : cmd ∈ s.queue.listPending tenantId := by
        rw [hsplit]
        simp
      exact (CommandQueue.mem_listPending.1 hmem).1
    rw [hsplit] at hwaiting hnodup
    rcases syncSome_of_turn api tenantId surroundings (⟨[], [], []⟩, s) hnodup with ⟨hrow, hmarked⟩
    have hfailed : (syncCommand api cmd (surroundings cmd.id).deliveries
        (wireAfter api surroundings before s.wire)).1 ≠ .ok () := by
      intro hok
      rcases syncCommand_network_iff.2 hunanswered with ⟨error, hnetwork⟩
      rw [hok] at hnetwork
      cases hnetwork
    rw [hcmd, Option.map_some] at hrow
    have hid := settled_id (syncCommand api cmd (surroundings cmd.id).deliveries
      (wireAfter api surroundings before s.wire)).1 (surroundings cmd.id).now cmd
    have := hwaiting _ (CommandQueue.mem_rows_of_row hrow)
      (by simp [hid, hsynced, hmarked, hfailed])
    rw [settled_waiting_iff _ _ hfailed] at this
    exact this hunanswered
  . intro hanswers row hrow hsynced
    rw [CommandQueue.mem_rows_iff] at hrow
    rw [List.mem_append, not_or] at hsynced
    by_cases hturn : row.id ∈ (s.queue.listPending tenantId).map QueuedCommand.id
    . rw [List.mem_map] at hturn
      rcases hturn with ⟨cmd, hcmd, hid⟩
      obtain ⟨before, after, hsplit⟩ := List.append_of_mem hcmd
      rw [hsplit] at hrow hsynced hnodup
      rw [← hid] at hrow hsynced
      rcases syncSome_of_turn api tenantId surroundings (⟨[], [], []⟩, s) hnodup
          with ⟨hsettled, hmarked⟩
      rw [hmarked] at hsynced
      rw [hsettled, CommandQueue.mem_rows_iff.1 (CommandQueue.mem_listPending.1 hcmd).1,
        Option.map_some,
        Option.some.injEq] at hrow
      rw [← hrow, settled_waiting_iff _ _ (by simpa using hsynced.2)]
      exact hanswers before cmd after hsplit hsynced.1
    . rw [(syncSome_of_notMem _ _ _ _ hturn).1] at hrow
      exact h row (CommandQueue.mem_rows_iff.2 hrow) hsynced.1

end SyncManager

namespace DesktopClient

variable {σ : Type} {api : Api σ} {s s' : DesktopClient σ}

/--
Every command that has been enqueued and not been marked as synced is listed, as it was enqueued.
-/
def NothingLost (s : DesktopClient σ) : Prop :=
  ∀ cmd ∈ s.enqueued, cmd.id ∉ s.synced →
    ∃ row ∈ s.state.queue.listPending cmd.tenantId, row.asEnqueued = cmd

/--
In a round of synchronisation each command that has not been marked as synced so far is answered.
-/
def Answered (api : Api σ) (s : DesktopClient σ) : ClientCall → Prop
  | .syncTenant tenantId surroundings =>
    SyncManager.Answers api surroundings s.synced s.state.wire (s.state.queue.listPending tenantId)
  | _ => True

-- The rows are the commands that have been enqueued.
def Kept (s : DesktopClient σ) : Prop :=
  s.state.queue.rows.map QueuedCommand.asEnqueued = s.enqueued

theorem Kept.nothingLost_iff_allWaiting (h : s.Kept)
    : s.NothingLost ↔ s.state.queue.AllWaiting s.synced := by
  unfold NothingLost
  rw [← h]
  constructor
  . intro hlisted cmd hcmd hsynced
    rcases hlisted _ (List.mem_map_of_mem hcmd) hsynced with ⟨row, hrow, hsame⟩
    rw [CommandQueue.mem_listPending] at hrow
    have hid : row.asEnqueued.id = cmd.asEnqueued.id := congrArg QueuedCommand.id hsame
    have heq : row = cmd := List.inj_on_of_nodup_map s.state.queue.primaryKey hrow.1 hcmd hid
    exact heq ▸ hrow.2.2
  . intro hwaiting cmd hcmd hsynced
    obtain ⟨row, hrow, rfl⟩ := List.mem_map.1 hcmd
    refine ⟨row, ?_, rfl⟩
    rw [CommandQueue.mem_listPending]
    exact ⟨hrow, rfl, hwaiting row hrow hsynced⟩

theorem call_enqueue {tenantId : TenantId} {commandType : String} {aggregateId : AggregateId}
    {payload : JsonValue} {id : Uuid} {createdAt : DateTime}
    (h : call api s (.enqueue tenantId commandType aggregateId payload id createdAt) = some s')
    : id ∉ s.enqueued.map QueuedCommand.id
        ∧ s' = {
            state := {
              s.state with
              queue := (s.state.queue.enqueue tenantId commandType aggregateId
                payload id createdAt).2
            }
            enqueued := s.enqueued
              ++ [(s.state.queue.enqueue tenantId commandType aggregateId payload id createdAt).1]
            synced := s.synced
          } := by
  simp only [call] at h
  split at h
  . cases h
  . next hfresh =>
    cases h
    exact ⟨hfresh, rfl⟩

-- A new identifier is not in the table, so that the insertion succeeds.
theorem Kept.rows_enqueue (h : s.Kept) {id : Uuid} (hfresh : id ∉ s.enqueued.map QueuedCommand.id)
    (tenantId : TenantId) (commandType : String) (aggregateId : AggregateId) (payload : JsonValue)
    (createdAt : DateTime)
    : (s.state.queue.enqueue tenantId commandType aggregateId payload id createdAt).2.rows
        = s.state.queue.rows
            ++ [(s.state.queue.enqueue tenantId commandType aggregateId payload id
              createdAt).1] := by
  rw [← h, List.map_map] at hfresh
  unfold CommandQueue.enqueue CommandQueue.insert
  dsimp only
  rw [dif_neg]
  exact hfresh

theorem Kept.step {a : ClientCall} (h : s.Kept) (hstep : call api s a = some s') : s'.Kept := by
  cases a with
  | enqueue tenantId commandType aggregateId payload id createdAt =>
    rcases call_enqueue hstep with ⟨hfresh, rfl⟩
    unfold Kept
    dsimp only
    rw [h.rows_enqueue hfresh, List.map_append, h]
    rfl
  | syncTenant tenantId surroundings =>
    cases hstep
    unfold Kept
    dsimp only
    rw [← h]
    apply SyncManager.map_asEnqueued_syncSome
  | markFailed id error =>
    cases hstep
    unfold Kept
    dsimp only
    rw [← h]
    apply CommandQueue.map_asEnqueued_update
    intro cmd
    rfl
  | retryFailed id =>
    cases hstep
    unfold Kept
    dsimp only
    rw [← h]
    apply CommandQueue.map_asEnqueued_update
    intro cmd
    split <;> rfl

theorem Kept.nothingLost_step_iff {a : ClientCall} (h : s.Kept) (hnothing : s.NothingLost)
    (hstep : call api s a = some s')
    : s'.NothingLost ↔ Answered api s a := by
  rw [(h.step hstep).nothingLost_iff_allWaiting]
  rw [h.nothingLost_iff_allWaiting] at hnothing
  cases a with
  | enqueue tenantId commandType aggregateId payload id createdAt =>
    rcases call_enqueue hstep with ⟨hfresh, rfl⟩
    apply iff_of_true _ trivial
    intro cmd hcmd hsynced
    dsimp only at hcmd
    rw [h.rows_enqueue hfresh, List.mem_append, List.mem_singleton] at hcmd
    rcases hcmd with hold | rfl
    . exact hnothing cmd hold hsynced
    . exact .inl rfl
  | syncTenant tenantId surroundings =>
    cases hstep
    apply SyncManager.syncTenant_allWaiting_iff hnothing
  | markFailed id error =>
    cases hstep
    apply iff_of_true _ trivial
    exact hnothing.markFailed id error
  | retryFailed id =>
    cases hstep
    apply iff_of_true _ trivial
    exact hnothing.retryFailed id

/--
In every run nothing is ever lost if and only if every command that is sent is answered.
-/
theorem nothingLost_iff {s t : DesktopClient σ} {calls : List ClientCall}
    (hinit : (machine api).init s)
    (hrun : (machine api).run s calls = some t)
    : (machine api).HoldsAlong NothingLost s calls
        ↔ (machine api).OkAlong (Answered api) s calls := by
  have hkept : s.Kept := by
    rcases hinit with ⟨cache, server, rfl⟩
    rfl
  have hnothing : s.NothingLost := by
    rcases hinit with ⟨cache, server, rfl⟩
    simp [NothingLost, opened]
  apply Machine.holdsAlong_iff _ hkept hnothing hrun
  intro s a s' hkept hnothing hstep
  exact ⟨hkept.step hstep, hkept.nothingLost_step_iff hnothing hstep⟩

end DesktopClient

namespace Laptop

open DesktopClient

def tenant : TenantId :=
  ⟨⟨1⟩⟩

-- A server that is under maintenance.
def maintenance : Api Unit where
  post _ _ _ := (⟨503, "try again later"⟩, ())

def sale : QueuedCommand where
  id := ⟨7⟩
  tenantId := tenant
  commandType := "inventory.adjust"
  aggregateId := ⟨⟨2⟩⟩
  payload := .object [("delta", .number (-1))]
  status := .pending
  createdAt := ⟨0⟩
  syncedAt := none
  error := none

def enqueueSale : ClientCall :=
  .enqueue tenant sale.commandType sale.aggregateId sale.payload sale.id sale.createdAt

def surroundings (deliveries : Nat → Delivery) : Uuid → CommandSurroundings :=
  fun _ => ⟨deliveries, ⟨1⟩, .failed "connection refused", ⟨1⟩⟩

theorem nothingLost_iff_maintenance
    : (machine maintenance).HoldsAlong NothingLost (opened .new ())
        [enqueueSale, .syncTenant tenant (surroundings fun _ => .delivered)] := by
  apply (nothingLost_iff ⟨_, _, rfl⟩ rfl).2
  refine ⟨trivial, ?_⟩
  intro s _
  refine ⟨?_, fun _ _ => trivial⟩
  intro before cmd after _ _ hunanswered
  rcases hunanswered.last with ⟨error, hlast⟩
  cases hlast

def offline : ClientCall :=
  .syncTenant tenant (surroundings fun _ => .requestLost "connection refused")

def stuck : DesktopClient Unit where
  state := {
    queue := {
      rows := [{ sale with status := .syncing }]
      primaryKey := List.nodup_singleton _
    }
    cache := .new
    wire := { server := (), log := [] }
  }
  enqueued := [sale]
  synced := []

-- No attempt gets through, and the command is not listed again.
theorem lost_offline
    : (machine maintenance).run (opened .new ()) [enqueueSale, offline] = some stuck
        ∧ ¬stuck.NothingLost := by
  refine ⟨rfl, ?_⟩
  intro h
  rcases h sale (by simp [stuck]) (by simp [stuck]) with ⟨row, hrow, _⟩
  have hnone : stuck.state.queue.listPending sale.tenantId = [] := rfl
  rw [hnone] at hrow
  cases hrow

end Laptop

end ForgeErp
