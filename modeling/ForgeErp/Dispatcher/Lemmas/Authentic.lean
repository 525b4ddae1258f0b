import ForgeErp.Dispatcher.Lemmas.Identity
import ForgeErp.Domain.Runs
import ForgeErp.Saga.Lemmas.Routing

/-!
This module contains the streams that arise when every command names the stream it is dispatched to:
all events of a stream are of one kind of aggregate, and are what its handler decided on, one per
command.
-/

namespace ForgeErp

open CommandDispatcher

namespace AggregateKind

theorem aggregateType_inj {kind kind' : AggregateKind}
    (h : kind.aggregateType = kind'.aggregateType) : kind = kind' := by
  cases kind <;> cases kind' <;> first | rfl | exact absurd h (by decide)

variable [Lowercase] {kind : AggregateKind} {key : StreamKey}

def Names (kind : AggregateKind) (key : StreamKey) (command : kind.aggregate.Command) : Prop :=
  kind.idsOf command = (key.tenantId, key.aggregateId)

def fresh (kind : AggregateKind) (key : StreamKey) : kind.aggregate.State :=
  kind.makeAggregate key.tenantId key.aggregateId

theorem Names.honest {command : kind.aggregate.Command} (h : kind.Names key command) (first : Prop)
    : kind.Honest key.tenantId key.aggregateId first command := by
  constructor
  . intro _ _
    exact h
  . intro _
    rw [h]

theorem handle_one {state : kind.aggregate.State} {command : kind.aggregate.Command}
    {decided : List kind.aggregate.Event} (h : kind.aggregate.handle state command = .ok decided)
    : ∃ ev, decided = [ev] := by
  cases kind with
  | inventoryItem => exact (InventoryItem.accepted h).imp (fun _ => And.left)
  | invoice => exact (Invoice.accepted h).imp (fun _ => And.left)
  | ledger =>
    cases command with
    | postJournalEntry cmd =>
      rcases Ledger.handlePost_eq_ok_iff.mp h with ⟨-, -, hdecided⟩
      exact ⟨_, hdecided⟩
  | user => exact (User.accepted h).imp (fun _ => And.left)
  | salesOrder => exact (SalesOrder.accepted h).imp (fun _ => And.left)
  | purchaseOrder => exact (PurchaseOrder.accepted h).imp (fun _ => And.left)
  | party => exact (Party.accepted h).imp (fun _ => And.left)
  | product => exact (Product.accepted h).imp (fun _ => And.left)

theorem handle_names {history decided : List kind.aggregate.Event}
    {command : kind.aggregate.Command}
    (hhistory : history = []
      ∨ kind.Owned key.tenantId key.aggregateId (kind.aggregate.rehydrate (kind.fresh key) history))
    (hnames : kind.Names key command)
    (h : kind.aggregate.handle (kind.aggregate.rehydrate (kind.fresh key) history) command
      = .ok decided)
    : ∃ ev, decided = [ev] ∧ kind.tenantOf ev = key.tenantId ∧ kind.idOf ev = key.aggregateId
        ∧ kind.Owned key.tenantId key.aggregateId
            (kind.aggregate.rehydrate (kind.fresh key) (history ++ decided)) := by
  have hstate : (history = [] ∧ kind.aggregate.rehydrate (kind.fresh key) history
        = kind.makeAggregate key.tenantId key.aggregateId)
      ∨ kind.Owned key.tenantId key.aggregateId
          (kind.aggregate.rehydrate (kind.fresh key) history) := by
    apply hhistory.imp_left
    intro hnil
    rw [hnil]
    exact ⟨rfl, rfl⟩
  rcases handle_keeps_ids hstate (hnames.honest _) h with ⟨ev, rfl, htenant, hid, howned⟩
  refine ⟨ev, rfl, htenant, hid, ?_⟩
  rw [Aggregate.rehydrate_append]
  exact howned

theorem produced_owned {evs : List kind.aggregate.Event}
    (h : kind.aggregate.Produced (kind.Names key) (kind.fresh key) evs)
    : (∀ ev ∈ evs, kind.tenantOf ev = key.tenantId ∧ kind.idOf ev = key.aggregateId)
      ∧ (evs = []
        ∨ kind.Owned key.tenantId key.aggregateId
            (kind.aggregate.rehydrate (kind.fresh key) evs)) := by
  induction h with
  | nil => exact ⟨by simp, Or.inl rfl⟩
  | @step history decided command _ hnames hhandle ih =>
    rcases handle_names ih.2 hnames hhandle with ⟨ev, rfl, htenant, hid, howned⟩
    refine ⟨?_, Or.inr howned⟩
    intro ev' hev'
    rw [List.mem_append, List.mem_singleton] at hev'
    cases hev' with
    | inl hold => exact ih.1 ev' hold
    | inr hnew =>
      rw [hnew]
      exact ⟨htenant, hid⟩

variable [TextFormat Uuid] [TextFormat DateTime]

-- The events of a run of `commands` on an aggregate that is there for the first of them
def history (kind : AggregateKind) (key : StreamKey) (commands : List kind.aggregate.Command)
    : List kind.aggregate.Event :=
  (kind.aggregate.run (kind.fresh key) commands).history

omit [TextFormat Uuid] [TextFormat DateTime] in
theorem history_prefix (kind : AggregateKind) (key : StreamKey)
    (commands : List kind.aggregate.Command)
    (command : kind.aggregate.Command)
    : kind.history key commands <+: kind.history key (commands ++ [command]) := by
  unfold history
  rw [Aggregate.run_append, List.foldl_cons, List.foldl_nil]
  unfold Aggregate.submit
  split
  . exact List.prefix_append _ _
  . exact List.prefix_rfl

/--
The stream of an aggregate of this kind, as a run of `commands` leaves it behind that accepts all of
them.
-/
structure Sourced (kind : AggregateKind) (key : StreamKey) (stream : List StoredEvent)
    (commands : List kind.aggregate.Command) : Prop where
  streamOf : StreamOf stream (kind.history key commands)
  type_eq : ∀ e ∈ stream, e.aggregateType = kind.aggregateType
  names : ∀ command ∈ commands, kind.Names key command
  accepted : (kind.aggregate.run (kind.fresh key) commands).accepted = commands

theorem Sourced.nil (kind : AggregateKind) (key : StreamKey) : kind.Sourced key [] [] :=
  ⟨.nil, by simp, by simp, rfl⟩

theorem Sourced.produced {stream : List StoredEvent} {commands : List kind.aggregate.Command}
    (h : kind.Sourced key stream commands)
    : kind.aggregate.Produced (kind.Names key) (kind.fresh key) (kind.history key commands) :=
  (Aggregate.run_produced h.names).2

theorem Sourced.history_eq {stream : List StoredEvent} {commands : List kind.aggregate.Command}
    {evs : List kind.aggregate.Event} (h : kind.Sourced key stream commands)
    (htyped : StreamOf stream evs)
    : evs = kind.history key commands := by
  have heq := h.streamOf.decodeStream_eq
  rw [htyped.decodeStream_eq] at heq
  exact Option.some.inj heq

-- The state that a stream is decided on is where the run has got to.
theorem Sourced.state_eq {stream : List StoredEvent} {commands : List kind.aggregate.Command}
    {state : kind.aggregate.State} (h : kind.Sourced key stream commands)
    (hwf : InMemoryEventStore.WellFormedStream key stream)
    (happlied : applyHistory kind.aggregate (kind.fresh key) stream = .ok state)
    : (kind.aggregate.run (kind.fresh key) commands).state = state := by
  rw [applyHistory_eq_go hwf, applyHistory_go_eq h.streamOf] at happlied
  rw [(Aggregate.run_produced h.names).1]
  exact Except.ok.inj happlied

theorem Sourced.extend {stream committed : List StoredEvent}
    {commands : List kind.aggregate.Command}
    {decided : List kind.aggregate.Event} {command : kind.aggregate.Command} {freshId : Nat → Uuid}
    {state : kind.aggregate.State}
    (h : kind.Sourced key stream commands) (hwf : InMemoryEventStore.WellFormedStream key stream)
    (hnames : kind.Names key command)
    (hdecides : Decides (kind.request key kind.aggregateType command) stream freshId state decided
      committed)
    : kind.Sourced key (stream ++ committed) (commands ++ [command]) := by
  have hstate := h.state_eq hwf hdecides.applied
  have hrun : kind.aggregate.run (kind.fresh key) (commands ++ [command])
      = (kind.aggregate.run (kind.fresh key) commands).accept command decided := by
    rw [Aggregate.run_append, List.foldl_cons, List.foldl_nil, Aggregate.submit, hstate]
    have hhandle : kind.aggregate.handle state command = .ok decided := hdecides.handle
    rw [hhandle]
  constructor
  . unfold history
    rw [hrun]
    exact h.streamOf.append hdecides.streamOf
  . exact hdecides.sameType_append
  . intro command' hcommand'
    rw [List.mem_append, List.mem_singleton] at hcommand'
    cases hcommand' with
    | inl hold => exact h.names command' hold
    | inr hnew =>
      rw [hnew]
      exact hnames
  . rw [hrun]
    dsimp only [Aggregate.Run.accept]
    rw [h.accepted]

end AggregateKind

variable [Lowercase] [TextFormat Uuid] [TextFormat DateTime]

/--
`accepted` are the commands that led to the stream, each with the kind of aggregate it was for.
-/
inductive Authentic (key : StreamKey)
    : List StoredEvent → List ((kind : AggregateKind) × kind.aggregate.Command) → Prop where
  | nil : Authentic key [] []
  | of {kind : AggregateKind} {stream : List StoredEvent} {commands : List kind.aggregate.Command} :
      stream ≠ [] →
      kind.Sourced key stream commands →
      Authentic key stream (commands.map (Sigma.mk kind))

namespace Authentic

variable {key : StreamKey} {stream committed : List StoredEvent}
  {accepted : List ((kind : AggregateKind) × kind.aggregate.Command)}

-- Whoever finds a stream of this name finds events of the kind that goes by it.
theorem sourced (h : Authentic key stream accepted) {kind : AggregateKind}
    (htype : ∀ e ∈ stream, e.aggregateType = kind.aggregateType)
    : ∃ commands, accepted = commands.map (Sigma.mk kind) ∧ kind.Sourced key stream commands := by
  cases h with
  | nil => exact ⟨[], rfl, AggregateKind.Sourced.nil kind key⟩
  | @of kind' _ commands hne hsourced =>
    cases stream with
    | nil => exact absurd rfl hne
    | cons e es =>
      have hkind : kind' = kind := by
        apply AggregateKind.aggregateType_inj
        rw [← hsourced.type_eq e (by simp), htype e (by simp)]
      subst hkind
      exact ⟨commands, rfl, hsourced⟩

theorem sourced_of_map {kind : AggregateKind} {commands : List kind.aggregate.Command}
    (h : Authentic key stream accepted) (haccepted : accepted = commands.map (Sigma.mk kind))
    : kind.Sourced key stream commands := by
  cases h with
  | nil =>
    rw [List.map_eq_nil_iff.mp haccepted.symm]
    exact AggregateKind.Sourced.nil kind key
  | @of kind' _ commands' hne hsourced =>
    cases commands' with
    | nil =>
      cases hsourced.streamOf
      exact absurd rfl hne
    | cons command' commands' =>
      cases commands with
      | nil => cases haccepted
      | cons command commands =>
        have hkind : kind' = kind := congrArg Sigma.fst (List.cons.inj haccepted).1
        subst hkind
        rw [List.map_inj_right (fun _ _ => by simp)] at haccepted
        rw [← haccepted]
        exact hsourced

theorem kind_of_mem (h : Authentic key stream accepted) {e : StoredEvent} (he : e ∈ stream)
    : ∃ kind : AggregateKind, e.aggregateType = kind.aggregateType := by
  cases h with
  | nil => cases he
  | of _ hsourced => exact ⟨_, hsourced.type_eq e he⟩

-- An accepted command adds one event.
theorem one {kind : AggregateKind} {command : kind.aggregate.Command} {freshId : Nat → Uuid}
    {state : kind.aggregate.State} {decided : List kind.aggregate.Event}
    (hdecides : Decides (kind.request key kind.aggregateType command) stream freshId state decided
      committed)
    : committed.length = 1 := by
  rcases AggregateKind.handle_one hdecides.handle with ⟨ev, rfl⟩
  rw [hdecides.streamOf.length_eq]
  rfl

theorem extend {kind : AggregateKind} {command : kind.aggregate.Command} {freshId : Nat → Uuid}
    {state : kind.aggregate.State} {decided : List kind.aggregate.Event}
    (h : Authentic key stream accepted) (hwf : InMemoryEventStore.WellFormedStream key stream)
    (hnames : kind.Names key command)
    (hdecides : Decides (kind.request key kind.aggregateType command) stream freshId state decided
      committed)
    : Authentic key (stream ++ committed) (accepted ++ [⟨kind, command⟩]) := by
  rcases h.sourced hdecides.sameType with ⟨commands, rfl, hsourced⟩
  have hone := one hdecides
  have hne : stream ++ committed ≠ [] := by
    intro hnil
    rw [(List.append_eq_nil_iff.mp hnil).2] at hone
    cases hone
  have hnext := Authentic.of hne (hsourced.extend hwf hnames hdecides)
  rw [List.map_append] at hnext
  exact hnext

theorem tagged (h : Authentic key stream accepted) : ∀ e ∈ stream, TaggedPayload e.payload := by
  cases h with
  | nil => simp
  | of _ hsourced => exact SalesArSaga.taggedPayload_of_streamOf hsourced.streamOf

end Authentic

end ForgeErp
