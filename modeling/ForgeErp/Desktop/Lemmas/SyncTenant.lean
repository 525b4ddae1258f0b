import ForgeErp.Desktop.SyncManager
import Mathlib.Tactic.Common

/-!
This module contains what a round of synchronisation does: to the queue, which is looked at row by
row, and on the wire.
-/

namespace ForgeErp

-- A response after which there are no further attempts.
def HttpResponse.isFinal (self : HttpResponse) : Bool :=
  self.isSuccess || self.status = 409

/--
The command as it was when it was enqueued.
-/
def QueuedCommand.asEnqueued (cmd : QueuedCommand) : QueuedCommand :=
  { cmd with status := .pending, syncedAt := none, error := none }

theorem QueuedCommand.asEnqueued_inj {a b : QueuedCommand} (h : a.asEnqueued = b.asEnqueued)
    : a.tenantId = b.tenantId ∧ a.aggregateId = b.aggregateId ∧ a.createdAt = b.createdAt := by
  simp only [asEnqueued, mk.injEq, true_and, and_true] at h
  exact ⟨h.2.1, h.2.2.2.1, h.2.2.2.2.2⟩

theorem QueuedCommand.asEnqueued_request {a b : QueuedCommand} (h : a.asEnqueued = b.asEnqueued)
    : a.commandType = b.commandType ∧ a.aggregateId = b.aggregateId ∧ a.payload = b.payload := by
  simp only [asEnqueued, mk.injEq, true_and, and_true] at h
  exact ⟨h.2.2.1, h.2.2.2.1, h.2.2.2.2.1⟩

-- `status IN ('Pending', 'Failed')`
def QueuedCommand.Waiting (cmd : QueuedCommand) : Prop :=
  cmd.status = .pending ∨ cmd.status = .failed

namespace CommandQueue

variable {queue : CommandQueue} {id : Uuid} {cmd : QueuedCommand} {tenantId : TenantId}

def row (self : CommandQueue) (id : Uuid) : Option QueuedCommand :=
  self.rows.find? fun cmd => cmd.id = id

theorem row_id (h : queue.row id = some cmd) : cmd.id = id := by
  have := List.find?_some h
  simpa using this

theorem mem_rows_of_row (h : queue.row id = some cmd) : cmd ∈ queue.rows := by
  apply List.mem_of_find?_eq_some h

theorem mem_rows_iff : cmd ∈ queue.rows ↔ queue.row cmd.id = some cmd := by
  constructor
  . intro h
    obtain ⟨found, hfound⟩ : ∃ found, queue.row cmd.id = some found := by
      rw [← Option.isSome_iff_exists, row, List.find?_isSome]
      exact ⟨cmd, h, by simp⟩
    rw [hfound, List.inj_on_of_nodup_map queue.primaryKey (mem_rows_of_row hfound)
      h (row_id hfound)]
  . exact mem_rows_of_row

theorem row_update (set : QueuedCommand → QueuedCommand) (hset : ∀ cmd, (set cmd).id = cmd.id)
    (id id' : Uuid)
    : (queue.update id set hset).row id'
        = (queue.row id').map fun cmd => if id' = id then set cmd else cmd := by
  have hids : ((fun cmd : QueuedCommand => decide (cmd.id = id'))
        ∘ fun cmd => if cmd.id = id then set cmd else cmd)
      = fun cmd => decide (cmd.id = id') := by
    funext cmd
    simp only [Function.comp_def]
    split
    . rw [hset]
    . rfl
  unfold row update
  rw [List.find?_map, hids]
  cases h : queue.rows.find? fun cmd => cmd.id = id' with
  | none => rfl
  | some found =>
    have hid : found.id = id' := row_id h
    simp [hid]

theorem row_update_ne (set : QueuedCommand → QueuedCommand) (hset : ∀ cmd, (set cmd).id = cmd.id)
    {id id' : Uuid} (h : id' ≠ id)
    : (queue.update id set hset).row id' = queue.row id' := by
  rw [row_update]
  simp [h]

theorem mem_listPending
    : cmd ∈ queue.listPending tenantId ↔ cmd ∈ queue.rows ∧ cmd.tenantId = tenantId
        ∧ cmd.Waiting := by
  unfold listPending
  rw [List.mem_insertionSort, List.mem_filter]
  simp only [isListed, decide_eq_true_eq]
  rfl

theorem listPending_nodup (queue : CommandQueue) (tenantId : TenantId)
    : ((queue.listPending tenantId).map QueuedCommand.id).Nodup := by
  unfold listPending
  rw [((List.perm_insertionSort _ _).map QueuedCommand.id).nodup_iff]
  apply queue.primaryKey.sublist (List.filter_sublist.map _)

theorem listPending_sorted (queue : CommandQueue) (tenantId : TenantId)
    : (queue.listPending tenantId).Pairwise fun a b => a.createdAt.nanos ≤ b.createdAt.nanos := by
  have htotal : Std.Total fun a b : QueuedCommand => a.createdAt.nanos ≤ b.createdAt.nanos :=
    ⟨fun a b => by omega⟩
  have htrans : IsTrans QueuedCommand fun a b => a.createdAt.nanos ≤ b.createdAt.nanos :=
    ⟨fun a b c => by omega⟩
  apply List.pairwise_insertionSort

end CommandQueue

namespace SyncManager

variable {σ : Type} {api : Api σ} {cmd : QueuedCommand}
  {deliveries : Nat → Delivery} {wire : Wire σ}

/-!
# One command
-/

-- The wire before attempt `n`, if there is one.
def wireAt (api : Api σ) (cmd : QueuedCommand) (deliveries : Nat → Delivery) (wire : Wire σ)
    : Nat → Wire σ
  | 0 => wire
  | n + 1 => (send api cmd (deliveries n) (wireAt api cmd deliveries wire n)).2

-- What comes back for attempt `n`.
def answerAt (api : Api σ) (cmd : QueuedCommand) (deliveries : Nat → Delivery)
    (wire : Wire σ) (n : Nat)
    : Except String HttpResponse :=
  (send api cmd (deliveries n) (wireAt api cmd deliveries wire n)).1

/--
Nothing comes back for the last attempt, and nothing before that ends the attempts.
-/
structure Unanswered (api : Api σ) (cmd : QueuedCommand)
    (deliveries : Nat → Delivery) (wire : Wire σ)
    : Prop where
  last : ∃ error, answerAt api cmd deliveries wire 3 = .error error
  earlier : ∀ n < 3, ∀ response, answerAt api cmd deliveries wire n = .ok response →
    response.isFinal = false

theorem attempts_eq (attempt retries : Nat)
    : attempts api cmd deliveries attempt retries (wireAt api cmd deliveries wire attempt)
        = match answerAt api cmd deliveries wire attempt with
          | .ok response =>
            if response.isSuccess then
              (.ok (), wireAt api cmd deliveries wire (attempt + 1))
            else if response.status = 409 then
              (.error (.conflict response.text), wireAt api cmd deliveries wire (attempt + 1))
            else
              match retries with
              | 0 =>
                (.error (.api response.status response.text),
                  wireAt api cmd deliveries wire (attempt + 1))
              | retries + 1 =>
                attempts api cmd deliveries (attempt + 1) retries
                  (wireAt api cmd deliveries wire (attempt + 1))
          | .error error =>
            match retries with
            | 0 => (.error (.network error), wireAt api cmd deliveries wire (attempt + 1))
            | retries + 1 =>
              attempts api cmd deliveries (attempt + 1) retries
                (wireAt api cmd deliveries wire (attempt + 1)) := by
  have hsend : send api cmd (deliveries attempt) (wireAt api cmd deliveries wire attempt)
      = (answerAt api cmd deliveries wire attempt, wireAt api cmd deliveries wire (attempt + 1)) :=
    rfl
  conv_lhs => unfold attempts
  rw [hsend]
  cases answerAt api cmd deliveries wire attempt <;> rfl

theorem attempts_network_iff (api : Api σ) (cmd : QueuedCommand) (deliveries : Nat → Delivery)
    (wire : Wire σ) (attempt retries : Nat)
    : (∃ error, (attempts api cmd deliveries attempt retries
        (wireAt api cmd deliveries wire attempt)).1
        = .error (.network error))
        ↔
      (∃ error, answerAt api cmd deliveries wire (attempt + retries) = .error error)
        ∧ ∀ n, attempt ≤ n → n < attempt + retries → ∀ response,
            answerAt api cmd deliveries wire n = .ok response → response.isFinal = false := by
  induction retries generalizing attempt with
  | zero =>
    rw [attempts_eq]
    have hnone : ∀ n, attempt ≤ n → n < attempt + 0 → ∀ response,
        answerAt api cmd deliveries wire n = .ok response → response.isFinal = false := by
      intro n hle hlt
      omega
    rw [and_iff_left hnone, Nat.add_zero]
    cases answerAt api cmd deliveries wire attempt with
    | error error => simp
    | ok response =>
      dsimp only
      split
      . simp
      . split <;> simp
  | succ retries ih =>
    rw [attempts_eq]
    have hsplit : ∀ p : Nat → Prop, (∀ n, attempt ≤ n → n < attempt + (retries + 1) → p n)
        ↔ p attempt ∧ ∀ n, attempt + 1 ≤ n → n < attempt + 1 + retries → p n := by
      intro p
      constructor
      . intro h
        exact ⟨h attempt (by omega) (by omega), fun n hle hlt => h n (by omega) (by omega)⟩
      . rintro ⟨hfirst, hrest⟩ n hle hlt
        by_cases hn : n = attempt
        . exact hn ▸ hfirst
        . exact hrest n (by omega) (by omega)
    have ih := ih (attempt + 1)
    rw [Nat.add_right_comm, Nat.add_assoc] at ih
    rw [hsplit]
    cases hanswer : answerAt api cmd deliveries wire attempt with
    | error error =>
      dsimp only
      rw [ih, Nat.add_right_comm attempt 1 retries, Nat.add_assoc]
      simp
    | ok response =>
      dsimp only
      split
      . next hsuccess => simp [HttpResponse.isFinal, hsuccess]
      . next hsuccess =>
        split
        . next hconflict => simp [HttpResponse.isFinal, hconflict]
        . next hconflict =>
          rw [ih, Nat.add_right_comm attempt 1 retries, Nat.add_assoc]
          simp [HttpResponse.isFinal, hsuccess, hconflict]

theorem syncCommand_network_iff
    : (∃ error, (syncCommand api cmd deliveries wire).1 = .error (.network error))
        ↔ Unanswered api cmd deliveries wire := by
  have h := attempts_network_iff api cmd deliveries wire 0 3
  simp only [Nat.zero_add, Nat.zero_le, forall_const] at h
  constructor
  . intro hnetwork
    have h := h.1 hnetwork
    exact ⟨h.1, h.2⟩
  . rintro ⟨hlast, hearlier⟩
    exact h.2 ⟨hlast, hearlier⟩

-- None of the attempts before attempt `n` is the last one.
def Attempted (api : Api σ) (cmd : QueuedCommand) (deliveries : Nat → Delivery)
    (wire : Wire σ) (n : Nat)
    : Prop :=
  ∀ m < n, ∀ response, answerAt api cmd deliveries wire m = .ok response → response.isFinal = false

-- With that many retries left the attempts from `attempt` on are those before attempt `k`.
def Made (continues : Nat → Prop) (attempt retries k : Nat) : Prop :=
  ∀ n ≥ attempt, n < k ↔ n ≤ attempt + retries ∧ ∀ m ≥ attempt, m < n → continues m

theorem Made.none {continues : Nat → Prop} (attempt : Nat)
    : Made continues attempt 0 (attempt + 1) := by
  intro n hle
  constructor
  . intro hlt
    exact ⟨by omega, fun m _ _ => by omega⟩
  . rintro ⟨hbound, _⟩
    omega

theorem Made.last {continues : Nat → Prop} {attempt : Nat} (retries : Nat) (h : ¬continues attempt)
    : Made continues attempt retries (attempt + 1) := by
  intro n hle
  constructor
  . intro hlt
    exact ⟨by omega, fun m _ _ => by omega⟩
  . rintro ⟨_, hall⟩
    by_contra hlt
    exact h (hall attempt (Nat.le_refl _) (by omega))

theorem Made.more {continues : Nat → Prop} {attempt retries k : Nat} (hk : attempt < k)
    (hfirst : continues attempt) (h : Made continues (attempt + 1) retries k)
    : Made continues attempt (retries + 1) k := by
  intro n hle
  by_cases hn : n = attempt
  . rw [hn]
    exact iff_of_true hk ⟨by omega, fun m _ _ => by omega⟩
  . rw [h n (by omega)]
    constructor
    . rintro ⟨hbound, hall⟩
      refine ⟨by omega, ?_⟩
      intro m hm hlt
      by_cases hmfirst : m = attempt
      . rw [hmfirst]
        exact hfirst
      . exact hall m (by omega) hlt
    . rintro ⟨hbound, hall⟩
      exact ⟨by omega, fun m hm => hall m (by omega)⟩

-- There is another attempt after attempt `n`, if there are retries left.
def Continues (api : Api σ) (cmd : QueuedCommand) (deliveries : Nat → Delivery)
    (wire : Wire σ) (n : Nat)
    : Prop :=
  ∀ response, answerAt api cmd deliveries wire n = .ok response → response.isFinal = false

theorem attempts_wire (api : Api σ) (cmd : QueuedCommand)
    (deliveries : Nat → Delivery) (wire : Wire σ)
    (attempt retries : Nat)
    : ∃ k > attempt,
        (attempts api cmd deliveries attempt retries (wireAt api cmd deliveries wire attempt)).2
            = wireAt api cmd deliveries wire k
          ∧ Made (Continues api cmd deliveries wire) attempt retries k := by
  induction retries generalizing attempt with
  | zero =>
    refine ⟨attempt + 1, by omega, ?_, .none attempt⟩
    rw [attempts_eq]
    split
    . split
      . rfl
      . split <;> rfl
    . rfl
  | succ retries ih =>
    rcases ih (attempt + 1) with ⟨k, hk, hwire, hmade⟩
    have hlast : ∀ response, answerAt api cmd deliveries wire attempt = .ok response →
        response.isFinal = true →
        Made (Continues api cmd deliveries wire) attempt (retries + 1) (attempt + 1) := by
      intro response hanswer hfinal
      apply Made.last
      intro hcontinues
      rw [hcontinues response hanswer] at hfinal
      cases hfinal
    rw [attempts_eq]
    cases hanswer : answerAt api cmd deliveries wire attempt with
    | error error =>
      refine ⟨k, by omega, hwire, hmade.more (by omega) ?_⟩
      intro response h
      rw [hanswer] at h
      cases h
    | ok response =>
      dsimp only
      split
      . next hsuccess =>
        refine ⟨attempt + 1, by omega, rfl, hlast response hanswer ?_⟩
        simp [HttpResponse.isFinal, hsuccess]
      . next hsuccess =>
        split
        . next hconflict =>
          refine ⟨attempt + 1, by omega, rfl, hlast response hanswer ?_⟩
          simp [HttpResponse.isFinal, hconflict]
        . next hconflict =>
          refine ⟨k, by omega, hwire, hmade.more (by omega) ?_⟩
          intro response' h
          rw [hanswer] at h
          cases h
          simp [HttpResponse.isFinal, hsuccess, hconflict]

theorem syncCommand_wire (api : Api σ) (cmd : QueuedCommand)
    (deliveries : Nat → Delivery) (wire : Wire σ)
    : ∃ k, (syncCommand api cmd deliveries wire).2 = wireAt api cmd deliveries wire k
        ∧ ∀ n, n < k ↔ n ≤ 3 ∧ Attempted api cmd deliveries wire n := by
  rcases attempts_wire api cmd deliveries wire 0 3 with ⟨k, _, hwire, hk⟩
  simp only [Made, Nat.zero_le, forall_const, Nat.zero_add, ge_iff_le] at hk
  exact ⟨k, hwire, hk⟩

theorem attempts_ne_offline (attempt retries : Nat) (wire : Wire σ)
    : (attempts api cmd deliveries attempt retries wire).1 ≠ .error .offline := by
  induction retries generalizing attempt wire with
  | zero =>
    unfold attempts
    split
    . split
      . simp
      . split <;> simp
    . simp
  | succ retries ih =>
    unfold attempts
    split
    . split
      . simp
      . split
        . simp
        . apply ih
    . apply ih

-- What has reached the server on the way from one wire to another is all for one command.
def Only (cmd : QueuedCommand) (wire wire' : Wire σ) : Prop :=
  ∃ exchanges : List (Exchange σ),
    wire'.log = wire.log ++ exchanges ∧ ∀ exchange ∈ exchanges, exchange.cmd = cmd

theorem Only.refl (cmd : QueuedCommand) (wire : Wire σ) : Only cmd wire wire :=
  ⟨[], by simp, by simp⟩

theorem Only.trans {wire wire' wire'' : Wire σ} (h : Only cmd wire wire')
    (h' : Only cmd wire' wire'')
    : Only cmd wire wire'' := by
  rcases h with ⟨exchanges, hlog, hcmd⟩
  rcases h' with ⟨exchanges', hlog', hcmd'⟩
  refine ⟨exchanges ++ exchanges', ?_, ?_⟩
  . rw [hlog', hlog, List.append_assoc]
  . intro exchange hmem
    rw [List.mem_append] at hmem
    exact hmem.elim (hcmd exchange) (hcmd' exchange)

def exchangeOf (api : Api σ) (cmd : QueuedCommand) (wire : Wire σ) : Exchange σ :=
  let (response, server) := api.post wire.server (commandEndpoint cmd.commandType cmd.aggregateId)
    cmd.payload
  { cmd, before := wire.server, after := server, response }

theorem post_log (api : Api σ) (cmd : QueuedCommand) (wire : Wire σ)
    : (post api cmd wire).2.log = wire.log ++ [exchangeOf api cmd wire] := rfl

theorem only_send (api : Api σ) (cmd : QueuedCommand) (delivery : Delivery) (wire : Wire σ)
    : Only cmd wire (send api cmd delivery wire).2 := by
  have hpost : Only cmd wire (post api cmd wire).2 :=
    ⟨[exchangeOf api cmd wire], rfl, by simp [exchangeOf]⟩
  cases delivery with
  | requestLost error => apply Only.refl
  | intercepted response => apply Only.refl
  | responseLost error => exact hpost
  | replaced response => exact hpost
  | delivered => exact hpost

theorem only_attempts (api : Api σ) (cmd : QueuedCommand) (deliveries : Nat → Delivery)
    (attempt retries : Nat) (wire : Wire σ)
    : Only cmd wire (attempts api cmd deliveries attempt retries wire).2 := by
  induction retries generalizing attempt wire with
  | zero =>
    unfold attempts
    have hsend := only_send api cmd (deliveries attempt) wire
    split
    . next hanswer =>
      rw [hanswer] at hsend
      split
      . exact hsend
      . split <;> exact hsend
    . next hanswer =>
      rw [hanswer] at hsend
      exact hsend
  | succ retries ih =>
    unfold attempts
    have hsend := only_send api cmd (deliveries attempt) wire
    split
    . next hanswer =>
      rw [hanswer] at hsend
      split
      . exact hsend
      . split
        . exact hsend
        . exact hsend.trans (ih _ _)
    . next hanswer =>
      rw [hanswer] at hsend
      exact hsend.trans (ih _ _)

/-!
# One command of a round
-/

-- How a row of the queue leaves its turn.
def settled (outcome : Except SyncError Unit) (now : DateTime) (cmd : QueuedCommand)
    : QueuedCommand :=
  match outcome with
  | .ok () => { cmd with status := .synced, syncedAt := some now }
  | .error (.network _) => { cmd with status := .syncing, syncedAt := none }
  | .error .offline => { cmd with status := .syncing, syncedAt := none }
  | .error e => { cmd with status := .failed, error := some e.toString }

theorem settled_id (outcome : Except SyncError Unit) (now : DateTime) (cmd : QueuedCommand)
    : (settled outcome now cmd).id = cmd.id := by
  unfold settled
  split <;> rfl

theorem settled_asEnqueued (outcome : Except SyncError Unit) (now : DateTime) (cmd : QueuedCommand)
    : (settled outcome now cmd).asEnqueued = cmd.asEnqueued := by
  unfold settled
  split <;> rfl

variable {tenantId : TenantId} {acc : SyncResult × State σ}

theorem syncOne_queue {surroundings : CommandSurroundings}
    : (syncOne api tenantId surroundings acc cmd).2.queue
        = acc.2.queue.update cmd.id
            (settled (syncCommand api cmd surroundings.deliveries acc.2.wire).1 surroundings.now)
            (settled_id _ _) := by
  unfold syncOne
  dsimp only
  rcases syncCommand api cmd surroundings.deliveries acc.2.wire with ⟨outcome, wire⟩
  cases outcome with
  | ok _ => rfl
  | error e => cases e <;> rfl

theorem syncOne_wire {surroundings : CommandSurroundings}
    : (syncOne api tenantId surroundings acc cmd).2.wire
        = (syncCommand api cmd surroundings.deliveries acc.2.wire).2 := by
  unfold syncOne
  dsimp only
  rcases syncCommand api cmd surroundings.deliveries acc.2.wire with ⟨outcome, wire⟩
  cases outcome with
  | ok _ => rfl
  | error e => cases e <;> rfl

theorem mem_syncOne_syncedCommands {surroundings : CommandSurroundings} {id : Uuid}
    : id ∈ (syncOne api tenantId surroundings acc cmd).1.syncedCommands
        ↔
      id ∈ acc.1.syncedCommands
        ∨ id = cmd.id ∧ (syncCommand api cmd surroundings.deliveries acc.2.wire).1 = .ok () := by
  unfold syncOne
  dsimp only
  rcases syncCommand api cmd surroundings.deliveries acc.2.wire with ⟨outcome, wire⟩
  cases outcome with
  | ok _ =>
    dsimp only
    unfold addReadModel
    split <;> simp
  | error e => cases e <;> simp

/-!
# A round
-/

variable {surroundings : Uuid → CommandSurroundings} {cmds before after : List QueuedCommand}

def syncSome (api : Api σ) (tenantId : TenantId) (surroundings : Uuid → CommandSurroundings)
    (cmds : List QueuedCommand) (acc : SyncResult × State σ)
    : SyncResult × State σ :=
  cmds.foldl (fun acc cmd => syncOne api tenantId (surroundings cmd.id) acc cmd) acc

theorem syncTenant_eq (s : State σ)
    : syncTenant api tenantId surroundings s
        = syncSome api tenantId surroundings (s.queue.listPending tenantId) (⟨[], [], []⟩, s) := rfl

-- The wire after the turns of `cmds`
def wireAfter (api : Api σ) (surroundings : Uuid → CommandSurroundings) (cmds : List QueuedCommand)
    (wire : Wire σ)
    : Wire σ :=
  cmds.foldl (fun wire cmd => (syncCommand api cmd (surroundings cmd.id).deliveries wire).2) wire

theorem wireAfter_append (xs ys : List QueuedCommand) (wire : Wire σ)
    : wireAfter api surroundings (xs ++ ys) wire
        = wireAfter api surroundings ys (wireAfter api surroundings xs wire) := by
  unfold wireAfter
  rw [List.foldl_append]

theorem wireAfter_log (api : Api σ) (surroundings : Uuid → CommandSurroundings)
    (cmds : List QueuedCommand)
    (wire : Wire σ)
    : ∃ exchanges : List (Exchange σ),
        (wireAfter api surroundings cmds wire).log = wire.log ++ exchanges := by
  induction cmds generalizing wire with
  | nil => exact ⟨[], by simp [wireAfter]⟩
  | cons cmd cmds ih =>
    rcases ih (syncCommand api cmd (surroundings cmd.id).deliveries wire).2 with ⟨exchanges, hrest⟩
    rcases only_attempts api cmd (surroundings cmd.id).deliveries 0 3 wire
        with ⟨exchanges', hfirst, _⟩
    refine ⟨exchanges' ++ exchanges, ?_⟩
    change (wireAfter api surroundings cmds _).log = _
    rw [hrest, syncCommand, hfirst, List.append_assoc]

theorem syncSome_wire
    : (syncSome api tenantId surroundings cmds acc).2.wire
        = wireAfter api surroundings cmds acc.2.wire := by
  induction cmds generalizing acc with
  | nil => rfl
  | cons cmd cmds ih =>
    change (syncSome api tenantId surroundings cmds _).2.wire = _
    rw [ih, syncOne_wire]
    rfl

-- Whose turn it is not is left alone.
theorem syncSome_of_notMem (api : Api σ) (tenantId : TenantId)
    (surroundings : Uuid → CommandSurroundings)
    (acc : SyncResult × State σ) {id : Uuid} (h : id ∉ cmds.map QueuedCommand.id)
    : (syncSome api tenantId surroundings cmds acc).2.queue.row id = acc.2.queue.row id
        ∧ (id ∈ (syncSome api tenantId surroundings cmds acc).1.syncedCommands
            ↔ id ∈ acc.1.syncedCommands) := by
  induction cmds generalizing acc with
  | nil => exact ⟨rfl, .rfl⟩
  | cons cmd cmds ih =>
    rw [List.map_cons, List.mem_cons, not_or] at h
    change (syncSome api tenantId surroundings cmds _).2.queue.row id = _
      ∧ (id ∈ (syncSome api tenantId surroundings cmds _).1.syncedCommands ↔ _)
    rcases ih _ h.2 with ⟨hrow, hsynced⟩
    rw [hrow, hsynced, syncOne_queue, CommandQueue.row_update_ne _ _ h.1,
      mem_syncOne_syncedCommands]
    simp [h.1]

theorem syncSome_of_turn (api : Api σ) (tenantId : TenantId)
    (surroundings : Uuid → CommandSurroundings)
    (acc : SyncResult × State σ) (hnodup : ((before ++ cmd :: after).map QueuedCommand.id).Nodup)
    : (syncSome api tenantId surroundings (before ++ cmd :: after) acc).2.queue.row cmd.id
          = (acc.2.queue.row cmd.id).map (settled
              (syncCommand api cmd (surroundings cmd.id).deliveries
                (wireAfter api surroundings before acc.2.wire)).1
              (surroundings cmd.id).now)
        ∧ (cmd.id ∈ (syncSome api tenantId surroundings (before ++ cmd :: after)
            acc).1.syncedCommands
            ↔ cmd.id ∈ acc.1.syncedCommands
                ∨ (syncCommand api cmd (surroundings cmd.id).deliveries
                    (wireAfter api surroundings before acc.2.wire)).1 = .ok ()) := by
  rw [List.map_append, List.map_cons, List.nodup_middle, List.nodup_cons, List.mem_append, not_or]
    at hnodup
  rcases hnodup with ⟨⟨hbefore, hafter⟩, _⟩
  have hsplit : syncSome api tenantId surroundings (before ++ cmd :: after) acc
      = syncSome api tenantId surroundings after
          (syncOne api tenantId (surroundings cmd.id)
            (syncSome api tenantId surroundings before acc) cmd) := by
    unfold syncSome
    rw [List.foldl_append, List.foldl_cons]
  have hbefore := syncSome_of_notMem api tenantId surroundings acc hbefore
  rw [hsplit]
  rcases syncSome_of_notMem api tenantId surroundings
    (syncOne api tenantId (surroundings cmd.id) (syncSome api tenantId surroundings before acc) cmd)
    hafter
    with ⟨hrow, hsynced⟩
  rw [hrow, hsynced, syncOne_queue, CommandQueue.row_update, hbefore.1,
    mem_syncOne_syncedCommands, hbefore.2,
    syncSome_wire]
  simp

end SyncManager

end ForgeErp
