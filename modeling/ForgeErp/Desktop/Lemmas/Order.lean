import ForgeErp.Desktop.Client
import ForgeErp.Desktop.Lemmas.SyncTenant

/-!
This module contains the verification of the order in which the server accepts the commands of an
aggregate. A round goes on with later commands after one that failed, and the failed one is sent
again in the next round.
-/

namespace ForgeErp

def SameAggregate (a b : QueuedCommand) : Prop :=
  a.tenantId = b.tenantId ∧ a.aggregateId = b.aggregateId

variable {σ : Type} {log exchanges : List (Exchange σ)} {cmd : QueuedCommand}

def Accepted (log : List (Exchange σ)) (cmd : QueuedCommand) : Prop :=
  ∃ exchange ∈ log, exchange.cmd.asEnqueued = cmd.asEnqueued ∧ exchange.response.isSuccess = true

-- No later command of the aggregate has been accepted.
def NothingLater (log : List (Exchange σ)) (cmd : QueuedCommand) : Prop :=
  ∀ exchange ∈ log, exchange.response.isSuccess = true → SameAggregate exchange.cmd cmd →
    exchange.cmd.createdAt.nanos ≤ cmd.createdAt.nanos

/--
When a command is accepted for the first time, no later command of the same aggregate has been
accepted before.
-/
def AcceptedInOrder (log : List (Exchange σ)) : Prop :=
  ∀ past exchange future, log = past ++ exchange :: future → exchange.response.isSuccess = true →
    ¬Accepted past exchange.cmd → NothingLater past exchange.cmd

theorem Accepted.append (h : Accepted log cmd) (exchanges : List (Exchange σ))
    : Accepted (log ++ exchanges) cmd := by
  rcases h with ⟨exchange, hmem, h⟩
  exact ⟨exchange, List.mem_append_left _ hmem, h⟩

theorem Accepted.congr {cmd' : QueuedCommand} (h : Accepted log cmd)
    (hsame : cmd.asEnqueued = cmd'.asEnqueued)
    : Accepted log cmd' := by
  rcases h with ⟨exchange, hmem, hcmd, hsuccess⟩
  exact ⟨exchange, hmem, hcmd.trans hsame, hsuccess⟩

theorem NothingLater.congr {cmd' : QueuedCommand} (h : NothingLater log cmd)
    (hsame : cmd.asEnqueued = cmd'.asEnqueued)
    : NothingLater log cmd' := by
  rcases QueuedCommand.asEnqueued_inj hsame with ⟨htenant, haggregate, hcreated⟩
  intro exchange hmem hsuccess hagg
  rw [← hcreated]
  apply h exchange hmem hsuccess
  exact ⟨hagg.1.trans htenant.symm, hagg.2.trans haggregate.symm⟩

theorem AcceptedInOrder.nil : AcceptedInOrder ([] : List (Exchange σ)) := by
  intro past exchange future h
  simp at h

theorem AcceptedInOrder.snoc {exchange : Exchange σ} (h : AcceptedInOrder log)
    (hnew : ¬Accepted log exchange.cmd → NothingLater log exchange.cmd)
    : AcceptedInOrder (log ++ [exchange]) := by
  intro past exchange' future hsplit
  rcases List.eq_nil_or_concat future with rfl | ⟨rest, last, rfl⟩
  . obtain ⟨rfl, hlast⟩ := List.append_inj' hsplit rfl
    cases hlast
    intro _
    exact hnew
  . have hsplit : log ++ [exchange] = (past ++ exchange' :: rest) ++ [last] := by
      simpa using hsplit
    obtain ⟨rfl, _⟩ := List.append_inj' hsplit rfl
    apply h past exchange' rest rfl

theorem AcceptedInOrder.append (h : AcceptedInOrder log)
    (honly : ∀ exchange ∈ exchanges, exchange.cmd = cmd)
    (hnew : ¬Accepted log cmd → NothingLater log cmd)
    : AcceptedInOrder (log ++ exchanges) := by
  induction exchanges generalizing log with
  | nil => rwa [List.append_nil]
  | cons exchange exchanges ih =>
    rw [List.forall_mem_cons] at honly
    rcases honly with ⟨hcmd, honly⟩
    rw [List.append_cons]
    apply ih _ honly
    . intro haccepted exchange' hmem hsuccess hagg
      rw [List.mem_append, List.mem_singleton] at hmem
      rcases hmem with hold | rfl
      . apply hnew _ exchange' hold hsuccess hagg
        intro h
        exact haccepted (h.append _)
      . rw [hcmd]
    . apply h.snoc
      rw [hcmd]
      exact hnew

namespace SyncManager

variable {api : Api σ} {tenantId : TenantId} {surroundings : Uuid → CommandSurroundings}

/--
Once a command has been refused, no later command of its aggregate is accepted in the round.
-/
def WaitsForRefused (api : Api σ) (s : State σ) (round : Round) : Prop :=
  ∀ before a mid b after, s.queue.listPending round.tenantId = before ++ a :: mid ++ b :: after →
    SameAggregate a b →
    (settled (syncCommand api a (round.surroundings a.id).deliveries
      (wireAfter api round.surroundings before s.wire)).1
      (round.surroundings a.id).now a).status = .failed →
    ¬Accepted (wireAfter api round.surroundings (before ++ [a]) s.wire).log a →
    Accepted (wireAfter api round.surroundings (before ++ a :: mid ++ [b]) s.wire).log b →
      Accepted (wireAfter api round.surroundings (before ++ a :: mid) s.wire).log b

-- What is accepted is accepted in order, and nothing has overtaken a command that is still to be
-- sent.
structure Orderly (s : State σ) : Prop where
  order : AcceptedInOrder s.wire.log
  waiting : ∀ row ∈ s.queue.rows, row.Waiting → ¬Accepted s.wire.log row →
    NothingLater s.wire.log row

theorem settled_failed_of_waiting {outcome : Except SyncError Unit} {now : DateTime}
    {cmd : QueuedCommand}
    (h : (settled outcome now cmd).Waiting) : (settled outcome now cmd).status = .failed := by
  unfold settled QueuedCommand.Waiting at *
  split at h <;> simp_all

variable {s : State σ} {round : Round} {before rest : List QueuedCommand} {b row : QueuedCommand}

-- What has been left waiting for `b` to overtake: either its turn is still to come, or it has been
-- refused.
theorem nothingLater_turn (hok : WaitsForRefused api s round)
    (hlist : s.queue.listPending round.tenantId = before ++ b :: rest)
    (hrow :
      (syncSome api round.tenantId round.surroundings before (⟨[], [], []⟩, s)).2.queue.row row.id
        = some row)
    (hne : row.id ≠ b.id) (hwaiting : row.Waiting) (hagg : SameAggregate b row)
    (hnot : ¬Accepted (wireAfter api round.surroundings (before ++ [b]) s.wire).log row)
    (haccepted : Accepted (wireAfter api round.surroundings (before ++ [b]) s.wire).log b)
    : Accepted (wireAfter api round.surroundings before s.wire).log b
        ∨ b.createdAt.nanos ≤ row.createdAt.nanos := by
  have hnodup := s.queue.listPending_nodup round.tenantId
  have hsorted := s.queue.listPending_sorted round.tenantId
  have hlisted : ∀ cmd ∈ before ++ b :: rest, s.queue.row cmd.id = some cmd
    ∧ cmd.tenantId = round.tenantId := by
    intro cmd hcmd
    rw [← hlist, CommandQueue.mem_listPending] at hcmd
    exact ⟨CommandQueue.mem_rows_iff.1 hcmd.1, hcmd.2.1⟩
  by_cases hturn : row.id ∈ before.map QueuedCommand.id
  . left
    rw [List.mem_map] at hturn
    rcases hturn with ⟨a, ha, hid⟩
    obtain ⟨pre, mid, rfl⟩ := List.append_of_mem ha
    rw [hlist, List.map_append] at hnodup
    have hsettled := (syncSome_of_turn api round.tenantId round.surroundings (⟨[], [], []⟩, s)
      hnodup.of_append_left).1
    rw [hid, hrow, ← hid, (hlisted a (by simp)).1, Option.map_some, Option.some.injEq] at hsettled
    have hsame : row.asEnqueued = a.asEnqueued := by
      rw [hsettled, settled_asEnqueued]
    have hrefused : ¬Accepted (wireAfter api round.surroundings (pre ++ [a]) s.wire).log a := by
      intro h
      rcases wireAfter_log api round.surroundings (mid ++ [b])
        (wireAfter api round.surroundings (pre ++ [a]) s.wire) with ⟨exchanges, hlog⟩
      apply hnot
      have hwire : (pre ++ a :: mid) ++ [b] = (pre ++ [a]) ++ (mid ++ [b]) := by
        simp
      rw [hwire, wireAfter_append, hlog]
      apply (h.append exchanges).congr hsame.symm
    apply hok pre a mid b rest _ _ _ hrefused haccepted
    . simpa using hlist
    . rcases QueuedCommand.asEnqueued_inj hsame with ⟨htenant, haggregate, _⟩
      exact ⟨htenant.symm.trans hagg.1.symm, haggregate.symm.trans hagg.2.symm⟩
    . apply settled_failed_of_waiting
      exact hsettled ▸ hwaiting
  . right
    rw [(syncSome_of_notMem _ _ _ _ hturn).1] at hrow
    have hmem : row ∈ before ++ b :: rest := by
      rw [← hlist, CommandQueue.mem_listPending]
      have htenant : row.tenantId = round.tenantId := hagg.1.symm.trans (hlisted b (by simp)).2
      exact ⟨CommandQueue.mem_rows_of_row hrow, htenant, hwaiting⟩
    rw [List.mem_append, List.mem_cons] at hmem
    rcases hmem with hbefore | rfl | hrest
    . exact absurd (List.mem_map_of_mem hbefore) hturn
    . exact absurd rfl hne
    . rw [hlist, List.pairwise_append, List.pairwise_cons] at hsorted
      exact hsorted.2.1.1 row hrest

theorem wireAfter_turn (api : Api σ) (surroundings : Uuid → CommandSurroundings)
    (before : List QueuedCommand)
    (b : QueuedCommand) (wire : Wire σ)
    : ∃ exchanges : List (Exchange σ),
        (wireAfter api surroundings (before ++ [b]) wire).log
            = (wireAfter api surroundings before wire).log ++ exchanges
          ∧ ∀ exchange ∈ exchanges, exchange.cmd = b := by
  rw [wireAfter_append]
  apply only_attempts

-- Whatever is accepted in the turn of `b` is `b` itself.
theorem nothingLater_own (honly : ∀ exchange ∈ exchanges, exchange.cmd = b)
    (hbclear : ¬Accepted log b → NothingLater log b) (hsame : b.asEnqueued = row.asEnqueued)
    (hnot : ¬Accepted (log ++ exchanges) row)
    : NothingLater (log ++ exchanges) row := by
  have hbnot : ¬Accepted log b := by
    intro h
    exact hnot ((h.congr hsame).append exchanges)
  intro exchange hexchange hsuccess hagg
  rcases List.mem_append.1 hexchange with hpast | hnew
  . apply ((hbclear hbnot).congr hsame) exchange hpast hsuccess hagg
  . apply absurd _ hnot
    exact ⟨exchange, hexchange, (honly exchange hnew) ▸ hsame, hsuccess⟩

-- If `b` is accepted in its turn, then not ahead of a row that is still to be accepted.
theorem nothingLater_other (honly : ∀ exchange ∈ exchanges, exchange.cmd = b)
    (hclear : ¬Accepted log row → NothingLater log row)
    (hturn : SameAggregate b row → Accepted (log ++ exchanges) b →
      Accepted log b ∨ b.createdAt.nanos ≤ row.createdAt.nanos)
    (hnot : ¬Accepted (log ++ exchanges) row)
    : NothingLater (log ++ exchanges) row := by
  have hclear := hclear fun h => hnot (h.append exchanges)
  intro exchange hexchange hsuccess hagg
  rcases List.mem_append.1 hexchange with hpast | hnew
  . exact hclear exchange hpast hsuccess hagg
  . have hcmd := honly exchange hnew
    rw [hcmd] at hagg ⊢
    rcases hturn hagg ⟨exchange, hexchange, by rw [hcmd], hsuccess⟩ with hearlier | hle
    . rcases hearlier with ⟨exchange', hmem, hsame, hsuccess'⟩
      rcases QueuedCommand.asEnqueued_inj hsame with ⟨htenant, haggregate, hcreated⟩
      rw [← hcreated]
      apply hclear exchange' hmem hsuccess'
      exact ⟨htenant.trans hagg.1, haggregate.trans hagg.2⟩
    . exact hle

theorem Orderly.syncSome (h : Orderly s) (hok : WaitsForRefused api s round)
    (hlist : s.queue.listPending round.tenantId = before ++ rest)
    : Orderly (syncSome api round.tenantId round.surroundings before (⟨[], [], []⟩, s)).2 := by
  induction before using List.reverseRecOn generalizing rest with
  | nil => exact h
  | append_singleton before b ih =>
    have hlist : s.queue.listPending round.tenantId = before ++ b :: rest := by
      simpa using hlist
    have ih := ih hlist
    have hnodup := s.queue.listPending_nodup round.tenantId
    rw [hlist, List.map_append, List.map_cons, List.nodup_middle, List.nodup_cons, List.mem_append,
      not_or] at hnodup
    have hb : b ∈ s.queue.listPending round.tenantId := by
      rw [hlist]
      simp
    rw [CommandQueue.mem_listPending] at hb
    have hbrow := (syncSome_of_notMem api round.tenantId round.surroundings
      (⟨[], [], []⟩, s) hnodup.1.1).1
    rw [CommandQueue.mem_rows_iff.1 hb.1] at hbrow
    have hbclear := ih.waiting b (CommandQueue.mem_rows_of_row hbrow) hb.2.2
    rcases wireAfter_turn api round.surroundings before b s.wire with ⟨exchanges, hlog, honly⟩
    rw [syncSome_wire] at hbclear
    constructor
    . rw [syncSome_wire, hlog]
      apply AcceptedInOrder.append _ honly hbclear
      have horder := ih.order
      rwa [syncSome_wire] at horder
    . intro row hrow hwaiting hnot
      have hsplit : SyncManager.syncSome api round.tenantId round.surroundings (before ++ [b])
            (⟨[], [], []⟩, s)
          = syncOne api round.tenantId (round.surroundings b.id)
              (SyncManager.syncSome api round.tenantId round.surroundings before
                (⟨[], [], []⟩, s)) b := by
        unfold SyncManager.syncSome
        rw [List.foldl_append, List.foldl_cons, List.foldl_nil]
      rw [CommandQueue.mem_rows_iff, hsplit, syncOne_queue, CommandQueue.row_update] at hrow
      rw [syncSome_wire] at hnot ⊢
      by_cases hid : row.id = b.id
      . rw [hid, hbrow, Option.map_some, if_pos rfl, Option.some.injEq] at hrow
        rw [hlog] at hnot ⊢
        apply nothingLater_own honly hbclear _ hnot
        rw [← hrow, settled_asEnqueued]
      . simp only [if_neg hid, Option.map_id'] at hrow
        have hclear := ih.waiting row (CommandQueue.mem_rows_of_row hrow) hwaiting
        rw [syncSome_wire] at hclear
        have hturn : SameAggregate b row →
            Accepted (wireAfter api round.surroundings (before ++ [b]) s.wire).log b →
            Accepted (wireAfter api round.surroundings before s.wire).log b
              ∨ b.createdAt.nanos ≤ row.createdAt.nanos := by
          intro hagg haccepted
          apply nothingLater_turn hok hlist hrow hid hwaiting hagg hnot haccepted
        rw [hlog] at hnot hturn ⊢
        apply nothingLater_other honly hclear hturn hnot

theorem Orderly.syncTenant (h : Orderly s) (hok : WaitsForRefused api s round)
    : Orderly (syncTenant api round.tenantId round.surroundings s).2 := by
  rw [syncTenant_eq]
  apply h.syncSome hok (List.append_nil _).symm

/--
The commands of each aggregate are accepted in order as long as no round goes on with an aggregate
of which a command has been refused.
-/
theorem accepted_in_order (s : State σ) (h : (rounds api).ReachableUnder (WaitsForRefused api) s)
    : AcceptedInOrder s.wire.log := by
  have horderly : Orderly s := by
    apply Machine.ReachableUnder.invariant _ _ s h
    . intro s hinit
      have hlog : s.wire.log = [] := hinit
      constructor
      . rw [hlog]
        exact .nil
      . intro row _ _ _ exchange hmem
        rw [hlog] at hmem
        cases hmem
    . intro s round s' horderly hok hstep
      cases hstep
      exact horderly.syncTenant hok
  exact horderly.order

end SyncManager

namespace Warehouse

open SyncManager

def receipt (id : Nat) (delta : Int) : QueuedCommand where
  id := ⟨id⟩
  tenantId := ⟨⟨1⟩⟩
  commandType := "inventory.adjust"
  aggregateId := ⟨⟨2⟩⟩
  payload := .object [("delta", .number delta)]
  status := .pending
  createdAt := ⟨id⟩
  syncedAt := none
  error := none

def morning (server : Nat) : State Nat where
  queue := {
    rows := [receipt 1 10, receipt 2 (-4)]
    primaryKey := by decide
  }
  cache := .new
  wire := { server, log := [] }

-- A server that refuses the first four requests.
def overloaded : Api Nat where
  post served _ _ := (if served < 4 then ⟨503, "overloaded"⟩ else ⟨200, ""⟩, served + 1)

def round : Round where
  tenantId := ⟨⟨1⟩⟩
  surroundings _ := ⟨fun _ => .delivered, ⟨3⟩, .failed "", ⟨3⟩⟩

-- A server that refuses both commands in the first round and takes them in the second.
def contended : Api Nat where
  post served _ _ := (if served < 2 then ⟨409, "stale"⟩ else ⟨200, ""⟩, served + 1)

def again (cmd : QueuedCommand) : QueuedCommand :=
  { cmd with status := .failed, error := some "conflict: stale" }

def noon : State Nat :=
  (syncTenant contended round.tenantId round.surroundings (morning 0)).2

def evening : State Nat :=
  (syncTenant contended round.tenantId round.surroundings noon).2

def stale (cmd : QueuedCommand) (served : Nat) : Exchange Nat :=
  ⟨cmd, served, served + 1, ⟨409, "stale"⟩⟩

theorem cut_of_two {cmd cmd' a b : QueuedCommand} {before mid after : List QueuedCommand}
    (h : [cmd, cmd'] = before ++ a :: mid ++ b :: after)
    : before = [] ∧ a = cmd ∧ mid = [] ∧ b = cmd' := by
  have hlength := congrArg List.length h
  simp only [List.length_cons, List.length_nil, List.length_append] at hlength
  have hbefore : before = [] := List.length_eq_zero_iff.1 (by omega)
  have hmid : mid = [] := List.length_eq_zero_iff.1 (by omega)
  subst hbefore hmid
  cases h
  exact ⟨rfl, rfl, rfl, rfl⟩

theorem accepted_in_order_contended
    : ∃ s, (rounds contended).run (morning 0) [round, round] = some s
        ∧ s.wire.log.length = 4
        ∧ AcceptedInOrder s.wire.log := by
  have hmorning : (rounds contended).ReachableUnder (WaitsForRefused contended) (morning 0) :=
    .init rfl
  have hnoon : (rounds contended).ReachableUnder (WaitsForRefused contended) noon := by
    apply hmorning.step _ rfl
    -- neither of the two is accepted
    intro before a mid b after hlist _ _ _ haccepted
    have hrows : (morning 0).queue.listPending round.tenantId = [receipt 1 10, receipt 2 (-4)] :=
      rfl
    rcases cut_of_two (hrows.symm.trans hlist) with ⟨rfl, rfl, rfl, rfl⟩
    rcases haccepted with ⟨exchange, hmem, -, hsuccess⟩
    have hlog : exchange ∈ [stale (receipt 1 10) 0, stale (receipt 2 (-4)) 1] := hmem
    simp only [List.mem_cons, List.not_mem_nil, or_false] at hlog
    rcases hlog with rfl | rfl
    . cases hsuccess
    . cases hsuccess
  have hevening : (rounds contended).ReachableUnder (WaitsForRefused contended) evening := by
    apply hnoon.step _ rfl
    -- both of them are accepted
    intro before a mid b after hlist _ hfailed
    have hrows : noon.queue.listPending round.tenantId
        = [again (receipt 1 10), again (receipt 2 (-4))] := rfl
    rcases cut_of_two (hrows.symm.trans hlist) with ⟨rfl, rfl, rfl, rfl⟩
    cases hfailed
  exact ⟨evening, rfl, by decide, accepted_in_order evening hevening⟩

def refused (served : Nat) : Exchange Nat :=
  ⟨receipt 1 10, served, served + 1, ⟨503, "overloaded"⟩⟩

def past : List (Exchange Nat) :=
  [refused 0, refused 1, refused 2, refused 3, ⟨receipt 2 (-4), 4, 5, ⟨200, ""⟩⟩]

-- The first receipt is refused four times, the second is accepted, and in the next round the first
-- is too.
theorem overtaken
    : (rounds overloaded).init (morning 0)
        ∧ ∃ s, (rounds overloaded).run (morning 0) [round, round] = some s
            ∧ ¬AcceptedInOrder s.wire.log := by
  refine ⟨rfl, _, rfl, ?_⟩
  intro h
  have hfirst : ¬Accepted past (receipt 1 10) := by
    simp [Accepted, past, refused, HttpResponse.isSuccess, receipt, QueuedCommand.asEnqueued]
  let again : QueuedCommand := {
    receipt 1 10 with
    status := .failed
    error := some "API error (503): overloaded"
  }
  have hlater := h past ⟨again, 5, 6, ⟨200, ""⟩⟩ [] rfl rfl hfirst
  have := hlater ⟨receipt 2 (-4), 4, 5, ⟨200, ""⟩⟩ (by simp [past]) rfl ⟨rfl, rfl⟩
  simp [again, receipt] at this

end Warehouse

end ForgeErp
