import ForgeErp.Desktop.Client
import ForgeErp.Desktop.Lemmas.ItemServer
import ForgeErp.Desktop.Lemmas.SyncTenant

/-!
This module contains the verification of how often a queued command takes effect. Nothing in a
request tells the server that it has seen the command before: a repetition is only refused if the
stock does not allow for it.
-/

namespace ForgeErp

-- The request of an attempt gets to the server.
def Delivery.reaches (self : Delivery) : Bool :=
  match self with
  | .requestLost _ => false
  | .intercepted _ => false
  | _ => true

namespace SyncManager

-- Only the path for adjustments names an item to adjust, and it is the one of the command.
theorem commandEndpoint_adjust {commandType : String} {id id' : AggregateId}
    (h : commandEndpoint commandType id = .adjustItem id') : id' = id := by
  unfold commandEndpoint at h
  split at h
  . split at h
    . cases h
      rfl
    . split at h <;> cases h
  . split at h
    . split at h <;> cases h
    . split at h
      . split at h <;> cases h
      . cases h

end SyncManager

namespace ItemService

open SyncManager

variable {B : Type}
variable {service : ItemService B} {log : List (Exchange (ItemServer B))}
  {wire : Wire (ItemServer B)}
variable {cmd : QueuedCommand} {deliveries : Nat → Delivery}
  {surroundings : Uuid → CommandSurroundings}

-- The stream of the item has grown.
def Commits (service : ItemService B) (exchange : Exchange (ItemServer B)) : Prop :=
  (service.streamOf exchange.before exchange.cmd.aggregateId).length
    < (service.streamOf exchange.after exchange.cmd.aggregateId).length

def Committed (service : ItemService B) (log : List (Exchange (ItemServer B))) (cmd : QueuedCommand)
    : Prop :=
  ∃ exchange ∈ log, exchange.cmd.asEnqueued = cmd.asEnqueued ∧ service.Commits exchange

/--
No two requests for one command are committed.
-/
def AtMostOnce (service : ItemService B) (log : List (Exchange (ItemServer B))) : Prop :=
  log.Pairwise fun a b => a.cmd.asEnqueued = b.cmd.asEnqueued → service.Commits a →
    ¬service.Commits b

theorem atMostOnce_snoc {exchange : Exchange (ItemServer B)}
    : service.AtMostOnce (log ++ [exchange])
        ↔ service.AtMostOnce log
            ∧ (service.Committed log exchange.cmd → ¬service.Commits exchange) := by
  unfold AtMostOnce Committed
  rw [List.pairwise_append]
  simp only [List.pairwise_cons, List.not_mem_nil, false_implies, implies_true,
    List.Pairwise.nil, and_self,
    List.mem_singleton, forall_eq, true_and]
  constructor
  . rintro ⟨hlog, hnew⟩
    refine ⟨hlog, ?_⟩
    rintro ⟨a, ha, hsame, hcommits⟩
    exact hnew a ha hsame hcommits
  . rintro ⟨hlog, hnew⟩
    refine ⟨hlog, ?_⟩
    intro a ha hsame hcommits
    exact hnew ⟨a, ha, hsame, hcommits⟩

theorem AtMostOnce.of_append {exchanges : List (Exchange (ItemServer B))}
    (h : service.AtMostOnce (log ++ exchanges)) : service.AtMostOnce log :=
  (List.pairwise_append.1 h).1

theorem AtMostOnce.of_only {wire' : Wire (ItemServer B)} (h : service.AtMostOnce wire'.log)
    (honly : Only cmd wire wire') : service.AtMostOnce wire.log := by
  rcases honly with ⟨exchanges, hlog, _⟩
  rw [hlog] at h
  exact h.of_append

section Stock

variable [TextFormat Uuid] [TextFormat DateTime]

-- The stock would become negative.
def TooSmall (service : ItemService B) (server : ItemServer B) (cmd : QueuedCommand) : Prop :=
  ∃ item delta, service.Stocked server cmd.aggregateId item
    ∧ AdjustStockRequest.ofJson cmd.payload = .ok ⟨delta⟩ ∧ item.stock + delta < 0

-- A command that has been committed addresses an item that still exists.
structure Lawful (service : ItemService B) (wire : Wire (ItemServer B)) : Prop where
  store : wire.server.store.Reachable
  committed : ∀ exchange ∈ wire.log, service.Commits exchange →
    commandEndpoint exchange.cmd.commandType exchange.cmd.aggregateId
      = .adjustItem exchange.cmd.aggregateId
    ∧ ∃ item delta, service.Stocked wire.server exchange.cmd.aggregateId item
      ∧ AdjustStockRequest.ofJson exchange.cmd.payload = .ok ⟨delta⟩ ∧ delta ≠ 0

end Stock

section Api

variable [TextFormat Uuid] [TextFormat DateTime] [ResponseText]

theorem api_reachable (service : ItemService B) (server : ItemServer B)
    (hstore : server.store.Reachable)
    (endpoint : CommandEndpoint) (body : JsonValue)
    : (service.api.post server endpoint body).2.store.Reachable := by
  unfold api
  dsimp only
  split
  . apply adjustStock_reachable service server hstore
  . exact hstore

theorem commits_exchangeOf_iff (hstore : wire.server.store.WellFormed) (cmd : QueuedCommand)
    : service.Commits (exchangeOf service.api cmd wire)
        ↔
      commandEndpoint cmd.commandType cmd.aggregateId = .adjustItem cmd.aggregateId
        ∧ ∃ item delta, service.Takes wire.server cmd.aggregateId cmd.payload item delta := by
  unfold Commits exchangeOf
  dsimp only
  cases hendpoint : commandEndpoint cmd.commandType cmd.aggregateId with
  | adjustItem id =>
    cases commandEndpoint_adjust hendpoint
    have houtcome := adjustStock_outcome service wire.server hstore cmd.aggregateId cmd.payload
    unfold api streamOf
    dsimp only
    generalize (service.adjustStock wire.server cmd.aggregateId cmd.payload).2.store
      = store at houtcome ⊢
    cases houtcome with
    | refused hnot =>
      simp only [Nat.lt_irrefl, true_and, false_iff]
      rintro ⟨item, delta, htakes⟩
      exact hnot item delta htakes
    | committed htakes hstream _ =>
      rw [InMemoryEventStore.loadStream_insert, if_pos rfl, List.length_append, hstream.length_eq]
      apply iff_of_true
      . unfold streamOf
        simp
      . exact ⟨rfl, _, _, htakes⟩
  | _ =>
    unfold api streamOf
    simp

theorem Stocked.api {server : ItemServer B} {id : AggregateId} {item : InventoryItem}
    (h : service.Stocked server id item) (hstore : server.store.Reachable)
    (endpoint : CommandEndpoint)
    (body : JsonValue)
    : ∃ item', service.Stocked (service.api.post server endpoint body).2 id item' := by
  have hstore' := (api_reachable service server hstore endpoint body).wellFormed
  have hsame : ∀ server' : ItemServer B, service.streamOf server' id = service.streamOf server id →
      ∃ item', service.Stocked server' id item' := by
    intro server' hstream
    exact ⟨item, hstream ▸ h.applied, h.created, h.tenantId, h.itemId, hstream ▸ h.sameType⟩
  cases endpoint with
  | adjustItem id' =>
    change InMemoryEventStore.WellFormed (service.adjustStock server id' body).2.store at hstore'
    change ∃ item', service.Stocked (service.adjustStock server id' body).2 id item'
    have houtcome := adjustStock_outcome service server hstore.wellFormed id' body
    generalize (service.adjustStock server id' body).2 = server' at houtcome hstore' ⊢
    generalize hstoreEq : server'.store = store at houtcome
    cases houtcome with
    | refused _ =>
      apply hsame
      unfold streamOf
      rw [hstoreEq]
    | @committed item' delta now committed htakes hcommitted htype =>
      have hstream : service.streamOf server' id
          = if service.key id = service.key id' then service.streamOf server id' ++ committed
            else service.streamOf server id := by
        unfold streamOf
        rw [hstoreEq, InMemoryEventStore.loadStream_insert]
        rfl
      split at hstream
      . next hkey =>
        have hid : id = id' := congrArg StreamKey.aggregateId hkey
        cases hid
        exact ⟨_, h.adjusted hstore.wellFormed hstore' hstream hcommitted htype⟩
      . apply hsame server' hstream
  | _ => exact hsame _ rfl

theorem Lawful.post (h : service.Lawful wire) (cmd : QueuedCommand)
    : service.Lawful (SyncManager.post service.api cmd wire).2 where
  store := api_reachable service wire.server h.store _ _
  committed exchange hmem hcommits := by
    rw [post_log, List.mem_append, List.mem_singleton] at hmem
    rcases hmem with hold | rfl
    . rcases h.committed exchange hold hcommits
          with ⟨hendpoint, item, delta, hstocked, hbody, hdelta⟩
      rcases hstocked.api h.store (commandEndpoint cmd.commandType cmd.aggregateId) cmd.payload with
        ⟨item', hstocked'⟩
      exact ⟨hendpoint, item', delta, hstocked', hbody, hdelta⟩
    . rw [commits_exchangeOf_iff h.store.wellFormed] at hcommits
      rcases hcommits with ⟨hendpoint, item, delta, htakes⟩
      rcases htakes.stocked.api h.store (commandEndpoint cmd.commandType cmd.aggregateId)
          cmd.payload with
        ⟨item', hstocked'⟩
      exact ⟨hendpoint, item', delta, hstocked', htakes.body, htakes.nonzero⟩

-- A repetition is refused if and only if the stock is too small.
theorem atMostOnce_post_iff (h : service.Lawful wire) (hlog : service.AtMostOnce wire.log)
    (cmd : QueuedCommand)
    : service.AtMostOnce (SyncManager.post service.api cmd wire).2.log
        ↔ (service.Committed wire.log cmd → service.TooSmall wire.server cmd) := by
  have hcmd : (exchangeOf service.api cmd wire).cmd = cmd := rfl
  rw [post_log, atMostOnce_snoc, and_iff_right hlog, commits_exchangeOf_iff h.store.wellFormed,
    hcmd]
  apply forall_congr'
  rintro ⟨exchange, hmem, hsame, hcommits⟩
  rcases h.committed exchange hmem hcommits with ⟨hendpoint, item, delta, hstocked, hbody, hdelta⟩
  rcases QueuedCommand.asEnqueued_request hsame with ⟨htype, haggregate, hpayload⟩
  rw [htype, haggregate] at hendpoint
  rw [haggregate] at hstocked
  rw [hpayload] at hbody
  rw [and_iff_right hendpoint]
  constructor
  . intro hnot
    refine ⟨item, delta, hstocked, hbody, ?_⟩
    by_contra hfits
    exact hnot ⟨item, delta, hstocked, hbody, hdelta, hfits⟩
  . rintro ⟨item', delta', hstocked', hbody', hsmall⟩ ⟨item'', delta'', htakes⟩
    cases hstocked'.unique htakes.stocked
    cases hbody'.symm.trans htakes.body
    exact htakes.fits hsmall

theorem Lawful.send (h : service.Lawful wire) (cmd : QueuedCommand) (delivery : Delivery)
    : service.Lawful (SyncManager.send service.api cmd delivery wire).2 := by
  cases delivery with
  | requestLost error => exact h
  | intercepted response => exact h
  | _ => exact h.post cmd

theorem atMostOnce_send_iff (h : service.Lawful wire) (hlog : service.AtMostOnce wire.log)
    (cmd : QueuedCommand) (delivery : Delivery)
    : service.AtMostOnce (SyncManager.send service.api cmd delivery wire).2.log
        ↔
      (delivery.reaches = true → service.Committed wire.log cmd →
        service.TooSmall wire.server cmd) := by
  have hpost := atMostOnce_post_iff h hlog cmd
  cases delivery with
  | requestLost error => simpa [SyncManager.send, Delivery.reaches] using hlog
  | intercepted response => simpa [SyncManager.send, Delivery.reaches] using hlog
  | _ => simpa [SyncManager.send, Delivery.reaches] using hpost

/--
Whenever an attempt gets to the server with a command that has been committed, the stock is too
small for it.
-/
def RepeatsTooSmall (service : ItemService B) (cmd : QueuedCommand) (deliveries : Nat → Delivery)
    (wire : Wire (ItemServer B))
    : Prop :=
  ∀ n ≤ 3, Attempted service.api cmd deliveries wire n → (deliveries n).reaches = true →
    service.Committed (wireAt service.api cmd deliveries wire n).log cmd →
      service.TooSmall (wireAt service.api cmd deliveries wire n).server cmd

theorem Lawful.wireAt (h : service.Lawful wire) (cmd : QueuedCommand)
    (deliveries : Nat → Delivery) (n : Nat)
    : service.Lawful (wireAt service.api cmd deliveries wire n) := by
  induction n with
  | zero => exact h
  | succ n ih => exact ih.send cmd (deliveries n)

theorem Lawful.syncCommand (h : service.Lawful wire) (cmd : QueuedCommand)
    (deliveries : Nat → Delivery)
    : service.Lawful (syncCommand service.api cmd deliveries wire).2 := by
  rcases syncCommand_wire service.api cmd deliveries wire with ⟨k, hwire, _⟩
  rw [hwire]
  exact h.wireAt cmd deliveries k

theorem atMostOnce_wireAt_iff (h : service.Lawful wire) (hlog : service.AtMostOnce wire.log)
    (k : Nat)
    : service.AtMostOnce (wireAt service.api cmd deliveries wire k).log
        ↔
      ∀ n < k, (deliveries n).reaches = true →
        service.Committed (wireAt service.api cmd deliveries wire n).log cmd →
          service.TooSmall (wireAt service.api cmd deliveries wire n).server cmd := by
  induction k with
  | zero =>
    apply iff_of_true hlog
    intro n hn
    omega
  | succ k ih =>
    have hiff := fun hlog => atMostOnce_send_iff (h.wireAt cmd deliveries k) hlog cmd (deliveries k)
    constructor
    . intro hall n hn
      have hk := hall.of_only (only_send service.api cmd (deliveries k) _)
      by_cases hlast : n = k
      . rw [hlast]
        exact (hiff hk).1 hall
      . exact ih.1 hk n (by omega)
    . intro hall
      apply (hiff (ih.2 fun n hn => hall n (by omega))).2
      exact hall k (by omega)

theorem atMostOnce_syncCommand_iff (h : service.Lawful wire) (hlog : service.AtMostOnce wire.log)
    (cmd : QueuedCommand) (deliveries : Nat → Delivery)
    : service.AtMostOnce (syncCommand service.api cmd deliveries wire).2.log
        ↔ service.RepeatsTooSmall cmd deliveries wire := by
  rcases syncCommand_wire service.api cmd deliveries wire with ⟨k, hwire, hk⟩
  rw [hwire, atMostOnce_wireAt_iff h hlog]
  unfold RepeatsTooSmall
  apply forall_congr'
  intro n
  rw [hk, and_imp]

theorem Lawful.wireAfter (h : service.Lawful wire) (cmds : List QueuedCommand)
    : service.Lawful (wireAfter service.api surroundings cmds wire) := by
  induction cmds generalizing wire with
  | nil => exact h
  | cons cmd cmds ih => exact ih (h.syncCommand cmd _)

theorem atMostOnce_wireAfter_iff (h : service.Lawful wire) (hlog : service.AtMostOnce wire.log)
    (cmds : List QueuedCommand)
    : service.AtMostOnce (wireAfter service.api surroundings cmds wire).log
        ↔
      ∀ before cmd after, cmds = before ++ cmd :: after →
        service.RepeatsTooSmall cmd (surroundings cmd.id).deliveries
          (wireAfter service.api surroundings before wire) := by
  induction cmds generalizing wire with
  | nil =>
    apply iff_of_true hlog
    intro before cmd after hnil
    simp at hnil
  | cons first cmds ih =>
    have hfirst := atMostOnce_syncCommand_iff h hlog first (surroundings first.id).deliveries
    have ih := ih (h.syncCommand first (surroundings first.id).deliveries)
    constructor
    . intro hall before cmd after hsplit
      have hone : service.AtMostOnce
        (SyncManager.syncCommand service.api first (surroundings first.id).deliveries
          wire).2.log := by
        rcases wireAfter_log service.api surroundings cmds
          (SyncManager.syncCommand service.api first (surroundings first.id).deliveries wire).2 with
          ⟨exchanges, hafter⟩
        change service.AtMostOnce (SyncManager.wireAfter service.api surroundings cmds _).log
          at hall
        rw [hafter] at hall
        exact hall.of_append
      cases before with
      | nil =>
        cases hsplit
        exact hfirst.1 hone
      | cons _ before =>
        cases hsplit
        exact (ih hone).1 hall before cmd after rfl
    . intro hall
      have hone := hfirst.2 (hall [] first cmds rfl)
      apply (ih hone).2
      intro before cmd after hsplit
      exact hall (first :: before) cmd after (by rw [hsplit]; rfl)

/--
Each repetition in a round meets a stock that is too small for it.
-/
def RepeatsRefused (service : ItemService B) (s : State (ItemServer B)) (round : Round) : Prop :=
  ∀ before cmd after, s.queue.listPending round.tenantId = before ++ cmd :: after →
    service.RepeatsTooSmall cmd (round.surroundings cmd.id).deliveries
      (wireAfter service.api round.surroundings before s.wire)

/--
In every run of rounds a command never takes effect twice if and only if each repetition meets a
stock that is too small for it.
-/
theorem atMostOnce_iff (service : ItemService B) {s t : State (ItemServer B)} {run : List Round}
    (hinit : (rounds service.api).init s) (hstore : s.wire.server.store.Reachable)
    (hrun : (rounds service.api).run s run = some t)
    : (rounds service.api).HoldsAlong (fun s => service.AtMostOnce s.wire.log) s run
        ↔ (rounds service.api).OkAlong service.RepeatsRefused s run := by
  have hlog : s.wire.log = [] := hinit
  have hlawful : service.Lawful s.wire := by
    refine ⟨hstore, ?_⟩
    rw [hlog]
    intro exchange hmem
    cases hmem
  have honce : service.AtMostOnce s.wire.log := by
    rw [hlog]
    exact .nil
  have hstep : ∀ s round s', service.Lawful s.wire → service.AtMostOnce s.wire.log →
      (rounds service.api).step s round = some s' →
      service.Lawful s'.wire
        ∧ (service.AtMostOnce s'.wire.log ↔ service.RepeatsRefused s round) := by
    intro s round s' hlawful honce hstep
    cases hstep
    rw [syncTenant_eq, syncSome_wire]
    exact ⟨hlawful.wireAfter _, atMostOnce_wireAfter_iff hlawful honce _⟩
  exact Machine.holdsAlong_iff (s := s) hstep hlawful honce hrun

end Api

end ItemService

namespace Bolt

open Concrete SyncManager ItemService

scoped instance : ResponseText where
  json _ := ""
  debug _ := ""

def shop : ItemService Unit where
  eventBus := ⟨fun _ _ => (.ok (), ())⟩
  tenantId := tenantId
  clock n := ⟨n⟩
  freshId n k := ⟨10 * n + k⟩
  elsewhere _ _ := ⟨404, ""⟩

def delivery : QueuedCommand where
  id := ⟨7⟩
  tenantId := tenantId
  commandType := "inventory.adjust"
  aggregateId := itemId.aggregateId
  payload := .object [("delta", .number 5)]
  status := .pending
  createdAt := ⟨0⟩
  syncedAt := none
  error := none

def opening : State (ItemServer Unit) where
  queue := {
    rows := [delivery]
    primaryKey := by decide
  }
  cache := .new
  wire := { server := ⟨afterCreate, (), 0⟩, log := [] }

def round (deliveries : Nat → Delivery) : Round where
  tenantId := tenantId
  surroundings _ := ⟨deliveries, ⟨1⟩, .failed "", ⟨1⟩⟩

-- The first response does not come back.
def bumpy (n : Nat) : Delivery :=
  if n = 0 then .responseLost "timed out" else .delivered

theorem afterAdjust_reachable : afterAdjust.Reachable := by
  apply CommandDispatcher.dispatch_reachable
  exact afterCreate_reachable

def pick : QueuedCommand :=
  { delivery with payload := .object [("delta", .number (-5))] }

def picking : State (ItemServer Unit) where
  queue := {
    rows := [pick]
    primaryKey := by decide
  }
  cache := .new
  wire := { server := ⟨afterAdjust, (), 0⟩, log := [] }

def emptied : InventoryItem where
  id := itemId
  tenantId := some tenantId
  name := "Bolt"
  stock := 0
  version := 3
  created := true

theorem eq_ok_of_toOption {ε α : Type} {x : Except ε α} {a : α} (h : x.toOption = some a)
    : x = .ok a := by
  cases x with
  | ok b =>
    cases h
    rfl
  | error err => cases h

theorem stocked_emptied {n : Nat} (hn : n = 1 ∨ n = 2 ∨ n = 3)
    : shop.Stocked (wireAt shop.api pick bumpy picking.wire n).server pick.aggregateId emptied := by
  rcases hn with rfl | rfl | rfl
  . exact ⟨@eq_ok_of_toOption _ InventoryItem _ _ (by decide +kernel), rfl, rfl, rfl,
      by decide +kernel⟩
  . exact ⟨@eq_ok_of_toOption _ InventoryItem _ _ (by decide +kernel), rfl, rfl, rfl,
      by decide +kernel⟩
  . exact ⟨@eq_ok_of_toOption _ InventoryItem _ _ (by decide +kernel), rfl, rfl, rfl,
      by decide +kernel⟩

-- All that there is has been picked when the command is sent again.
theorem atMostOnce_iff_picking
    : (rounds shop.api).HoldsAlong (fun s => shop.AtMostOnce s.wire.log) picking [round bumpy] := by
  have hinit : (rounds shop.api).init picking := rfl
  apply (atMostOnce_iff shop hinit afterAdjust_reachable rfl).2
  refine ⟨?_, fun _ _ => trivial⟩
  intro before cmd after hlist n hn _ _ hcommitted
  have hrows : picking.queue.listPending (round bumpy).tenantId = [pick] := rfl
  have hlength := congrArg List.length (hrows.symm.trans hlist)
  simp only [List.length_cons, List.length_nil, List.length_append] at hlength
  have hbefore : before = [] := List.length_eq_zero_iff.1 (by omega)
  rw [hrows, hbefore] at hlist
  cases hlist
  rw [hbefore] at hcommitted ⊢
  rcases Nat.eq_zero_or_pos n with rfl | hpos
  . rcases hcommitted with ⟨exchange, hmem, _⟩
    cases hmem
  . exact ⟨emptied, -5, stocked_emptied (by omega), rfl, by decide⟩

def first : Exchange (ItemServer Unit) :=
  exchangeOf shop.api delivery opening.wire

def second : Exchange (ItemServer Unit) :=
  exchangeOf shop.api delivery (post shop.api delivery opening.wire).2

-- Ten pieces are put on the shelf instead of five.
theorem committed_twice
    : (rounds shop.api).init opening ∧ opening.wire.server.store.Reachable
        ∧ ∃ s, (rounds shop.api).run opening [round bumpy] = some s
            ∧ ¬shop.AtMostOnce s.wire.log := by
  refine ⟨rfl, afterCreate_reachable, _, rfl, ?_⟩
  intro h
  have h : shop.AtMostOnce [first, second] := h
  have hfirst : shop.Commits first := by
    unfold Commits
    decide
  have hsecond : shop.Commits second := by
    unfold Commits
    decide
  have := (List.pairwise_cons.1 h).1 second (by simp) rfl hfirst
  exact this hsecond

end Bolt

end ForgeErp
