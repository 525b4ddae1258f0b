import ForgeErp.Domain.Lemmas.Decisions
import ForgeErp.Domain.Runs
import Mathlib.Data.List.Induction

/-!
This module contains a product and a party over any sequence of commands. Nothing can be done to an
archived product; the details of a suspended party may still be updated.
-/

namespace ForgeErp

open Aggregate (Chain)

namespace Product

def stateOf (id : ProductId) (commands : List ProductCommand) : Product :=
  (aggregate.run (empty id) commands).state

def historyOf (id : ProductId) (commands : List ProductCommand) : List ProductEvent :=
  (aggregate.run (empty id) commands).history

inductive StatusMoves : ProductStatus → ProductStatus → Prop where
  | stays (status : ProductStatus) : StatusMoves status status
  | activates : StatusMoves .draft .active
  | archives {status : ProductStatus} : StatusMoves status .archived

inductive Step (product : Product) : ProductEvent → Prop where
  | created {e : ProductCreated} :
      product.created = false →
      trimIsEmpty e.name = false →
      trimIsEmpty e.sku = false →
      Step product (.productCreated e)
  | activated {e : ProductActivated} :
      product.created = true →
      product.status = .draft →
      Step product (.productActivated e)
  | archived {e : ProductArchived} :
      product.created = true →
      product.status ≠ .archived →
      Step product (.productArchived e)

theorem handle_step {product : Product} {command : ProductCommand} {decided : List ProductEvent}
    (h : product.handle command = .ok decided) : ∃ ev, decided = [ev] ∧ Step product ev := by
  cases command with
  | createProduct cmd =>
    rcases handleCreate_eq_ok_iff.mp h with ⟨hcreated, hname, hsku, rfl⟩
    exact ⟨_, rfl, .created hcreated hname hsku⟩
  | activateProduct cmd =>
    rcases handleActivate_eq_ok_iff.mp h with ⟨hcreated, _, _, hactive, harchived, rfl⟩
    refine ⟨_, rfl, .activated hcreated ?_⟩
    cases hstatus : product.status with
    | draft => rfl
    | active => exact absurd hstatus hactive
    | archived => exact absurd hstatus harchived
  | archiveProduct cmd =>
    rcases handleArchive_eq_ok_iff.mp h with ⟨hcreated, _, _, harchived, rfl⟩
    exact ⟨_, rfl, .archived hcreated harchived⟩

theorem handle_empty {id : ProductId} {command : ProductCommand} {ev : ProductEvent}
    {rest : List ProductEvent} (h : handle (empty id) command = .ok (ev :: rest))
    : ∃ e, ev = .productCreated e := by
  rcases handle_step h with ⟨ev', heq, hstep⟩
  cases heq
  cases hstep with
  | created => exact ⟨_, rfl⟩
  | activated hcreated => cases hcreated
  | archived hcreated => cases hcreated

structure Sound (product : Product) : Prop where
  fresh : product.created = false → product.status = .draft
  named : product.created = true → trimIsEmpty product.name = false
    ∧ trimIsEmpty product.sku = false

theorem Step.sound {product : Product} {ev : ProductEvent} (hproduct : product.Sound)
    (h : Step product ev) : (product.apply ev).Sound := by
  cases h with
  | created _ hname hsku => exact ⟨fun _ => rfl, fun _ => ⟨hname, hsku⟩⟩
  | activated hcreated =>
    refine ⟨?_, hproduct.named⟩
    intro hfresh
    exact absurd (hcreated.symm.trans hfresh) (by simp)
  | archived hcreated =>
    refine ⟨?_, hproduct.named⟩
    intro hfresh
    exact absurd (hcreated.symm.trans hfresh) (by simp)

theorem Step.moves {product : Product} {ev : ProductEvent} (hproduct : product.Sound)
    (h : Step product ev) : StatusMoves product.status (product.apply ev).status := by
  cases h with
  | created hcreated =>
    rw [hproduct.fresh hcreated]
    exact .stays .draft
  | activated _ hdraft =>
    rw [hdraft]
    exact .activates
  | archived => exact .archives

theorem sound_stateOf (id : ProductId) (commands : List ProductCommand)
    : (stateOf id commands).Sound := by
  apply @Aggregate.run_invariant aggregate (fun r => Sound r.state) (fun _ => True)
    (empty id) commands
    (fun _ _ => trivial)
  . refine ⟨fun _ => rfl, ?_⟩
    intro hcreated
    cases hcreated
  . intro r command decided hr _ hhandle
    rcases handle_step hhandle with ⟨ev, rfl, hstep⟩
    exact hstep.sound hr

-- What a product was created with
structure SameData (product product' : Product) : Prop where
  created : product'.created = product.created
  id : product'.id = product.id
  tenantId : product'.tenantId = product.tenantId
  sku : product'.sku = product.sku
  name : product'.name = product.name
  pricing : product'.pricing = product.pricing

theorem SameData.step {product product' : Product} {ev : ProductEvent}
    (h : SameData product product')
    (hcreated : product.created = true) (hstep : Step product' ev)
    : SameData product (product'.apply ev) := by
  cases hstep with
  | created hfresh =>
    rw [h.created, hcreated] at hfresh
    cases hfresh
  | activated => exact ⟨h.created, h.id, h.tenantId, h.sku, h.name, h.pricing⟩
  | archived => exact ⟨h.created, h.id, h.tenantId, h.sku, h.name, h.pricing⟩

def eventsOf (c : ProductCreated) (activated : Option ProductActivated)
    (archived : Option ProductArchived)
    : List ProductEvent :=
  .productCreated c ::
    ((activated.map .productActivated).toList ++ (archived.map .productArchived).toList)

/--
A creation, then at most one activation, then at most one archiving.
-/
inductive Story : List ProductEvent → Prop where
  | none : Story []
  | created {c : ProductCreated} {activated : Option ProductActivated}
      {archived : Option ProductArchived} :
      Story (eventsOf c activated archived)

theorem nothing_of_chain {product : Product} {evs : List ProductEvent}
    (h : @Chain aggregate Step product evs) (hcreated : product.created = true)
    (harchived : product.status = .archived) : evs = [] := by
  rcases h with _ | ⟨hstep, hrest⟩
  . rfl
  . cases hstep with
    | created hfresh => exact absurd (hcreated.symm.trans hfresh) (by simp)
    | activated _ hdraft => exact absurd (harchived.symm.trans hdraft) (by simp)
    | archived _ hnot => exact absurd harchived hnot

theorem archived_of_chain {product : Product} {evs : List ProductEvent}
    (h : @Chain aggregate Step product evs) (hcreated : product.created = true)
    (hactive : product.status = .active)
    : ∃ archived : Option ProductArchived, evs = (archived.map .productArchived).toList := by
  rcases h with _ | ⟨hstep, hrest⟩
  . exact ⟨none, rfl⟩
  . cases hstep with
    | created hfresh => exact absurd (hcreated.symm.trans hfresh) (by simp)
    | activated _ hdraft => exact absurd (hactive.symm.trans hdraft) (by simp)
    | @archived e =>
      have hnil := nothing_of_chain hrest hcreated rfl
      subst hnil
      exact ⟨some e, rfl⟩

theorem story_of_produced {ok : ProductCommand → Prop} {id : ProductId} {evs : List ProductEvent}
    (h : aggregate.Produced ok (empty id) evs) : Story evs := by
  have hchain : @Chain aggregate Step (empty id) evs := by
    refine (@Aggregate.Produced.chain aggregate Step (fun _ => True) ok (empty id)
      evs h trivial ?_).1
    intro product command decided _ hhandle
    rcases handle_step hhandle with ⟨ev, rfl, hstep⟩
    exact ⟨ev, rfl, hstep, trivial⟩
  rcases hchain with _ | ⟨hstep, hrest⟩
  . exact .none
  . cases hstep with
    | @created c =>
      rcases hrest with _ | ⟨hstep, hrest⟩
      . exact @Story.created c none none
      . cases hstep with
        | created hfresh => cases hfresh
        | @activated e =>
          rcases archived_of_chain hrest rfl rfl with ⟨archived, rfl⟩
          exact @Story.created c (some e) archived
        | @archived e =>
          have hnil := nothing_of_chain hrest rfl rfl
          subst hnil
          exact @Story.created c none (some e)
    | activated hcreated => cases hcreated
    | archived hcreated => cases hcreated

-- The product that its events describe.
def described (c : ProductCreated) (activated : Option ProductActivated)
    (archived : Option ProductArchived)
    : Product where
  id := c.productId
  tenantId := some c.tenantId
  sku := c.sku
  name := c.name
  status :=
    if archived.isSome then
      .archived
    else if activated.isSome then
      .active
    else
      .draft
  pricing := c.pricing
  version := 1 + activated.toList.length + archived.toList.length
  created := true

structure RunsForward (id : ProductId) (commands : List ProductCommand) : Prop where
  story : Story (historyOf id commands)
  folded : stateOf id commands = (historyOf id commands).foldl apply (empty id)
  described : ∀ c activated archived, historyOf id commands = eventsOf c activated archived →
    stateOf id commands = described c activated archived
  each : (aggregate.run (empty id) commands).accepted.length = (historyOf id commands).length
  named : (stateOf id commands).created = true →
    trimIsEmpty (stateOf id commands).name = false ∧ trimIsEmpty (stateOf id commands).sku = false
  moves : ∀ command,
    StatusMoves (stateOf id commands).status (stateOf id (commands ++ [command])).status
  fixed : (stateOf id commands).created = true → ∀ more,
    SameData (stateOf id commands) (stateOf id (commands ++ more))
  archived_final : (stateOf id commands).status = .archived → ∀ more,
    historyOf id (commands ++ more) = historyOf id commands
  version : (stateOf id commands).version = (historyOf id commands).length

theorem Step.not_archived {product : Product} {ev : ProductEvent} (hproduct : product.Sound)
    (h : Step product ev) : product.status ≠ .archived := by
  intro harchived
  cases h with
  | created hcreated =>
    rw [hproduct.fresh hcreated] at harchived
    cases harchived
  | activated _ hdraft =>
    rw [hdraft] at harchived
    cases harchived
  | archived _ hnot => exact hnot harchived

theorem foldl_eventsOf (id : ProductId) (c : ProductCreated) (activated : Option ProductActivated)
    (archived : Option ProductArchived)
    : (eventsOf c activated archived).foldl apply (empty id) = described c activated archived := by
  cases activated <;> cases archived <;> rfl

theorem runs_forward (id : ProductId) (commands : List ProductCommand)
    : RunsForward id commands := by
  have hsound := sound_stateOf id commands
  have hone : ∀ (product : Product) command decided, product.handle command = .ok decided →
      ∃ ev, decided = [ev] := by
    intro product command decided hhandle
    rcases handle_step hhandle with ⟨ev, heq, -⟩
    exact ⟨ev, heq⟩
  rcases @Aggregate.run_produced aggregate (fun _ => True) (empty id) commands (fun _ _ => trivial)
    with ⟨hfolded, hproduced⟩
  refine ⟨story_of_produced hproduced, hfolded, ?_, ?_, hsound.named, ?_, ?_, ?_, ?_⟩
  . intro c activated archived hhistory
    have hstate : stateOf id commands = (historyOf id commands).foldl apply (empty id) := hfolded
    rw [hstate, hhistory, foldl_eventsOf]
  . exact (@Aggregate.run_length aggregate hone (empty id) commands).symm
  . intro command
    apply @Aggregate.run_concat aggregate
      (fun product : Product => StatusMoves (stateOf id commands).status product.status)
    . exact .stays _
    . intro decided hhandle
      rcases handle_step hhandle with ⟨ev, rfl, hstep⟩
      exact hstep.moves hsound
  . intro hcreated more
    apply @Aggregate.run_preserves aggregate
      (fun product : Product => SameData (stateOf id commands) product)
    . exact ⟨rfl, rfl, rfl, rfl, rfl, rfl⟩
    . intro product command decided hsame hhandle
      rcases handle_step hhandle with ⟨ev, rfl, hstep⟩
      exact hsame.step hcreated hstep
  . intro harchived more
    apply congrArg Aggregate.Run.history (@Aggregate.run_stops aggregate (empty id) commands _ more)
    intro command decided hhandle
    rcases handle_step hhandle with ⟨ev, -, hstep⟩
    exact hstep.not_archived hsound harchived
  . have hversion := @Aggregate.run_count aggregate Product.version
      (fun product ev => by cases ev <;> rfl) (empty id) commands
    refine hversion.trans ?_
    exact Nat.zero_add _

end Product

namespace Party

def stateOf (id : PartyId) (commands : List PartyCommand) : Party :=
  (aggregate.run (empty id) commands).state

def historyOf (id : PartyId) (commands : List PartyCommand) : List PartyEvent :=
  (aggregate.run (empty id) commands).history

inductive Step (party : Party) : PartyEvent → Prop where
  | registered {e : PartyRegistered} :
      party.created = false →
      trimIsEmpty e.name = false →
      Step party (.partyRegistered e)
  | updated {e : PartyUpdated} :
      party.created = true →
      trimIsEmpty e.name = false →
      Step party (.partyUpdated e)
  | suspended {e : PartySuspended} :
      party.created = true →
      party.status = .active →
      Step party (.partySuspended e)

theorem handle_step {party : Party} {command : PartyCommand} {decided : List PartyEvent}
    (h : party.handle command = .ok decided) : ∃ ev, decided = [ev] ∧ Step party ev := by
  cases command with
  | registerParty cmd =>
    rcases handleRegister_eq_ok_iff.mp h with ⟨hcreated, hname, rfl⟩
    exact ⟨_, rfl, .registered hcreated hname⟩
  | updateDetails cmd =>
    rcases handleUpdate_eq_ok_iff.mp h with ⟨hcreated, _, _, hname, rfl⟩
    exact ⟨_, rfl, .updated hcreated hname⟩
  | suspendParty cmd =>
    rcases handleSuspend_eq_ok_iff.mp h with ⟨hcreated, _, _, hnot, rfl⟩
    refine ⟨_, rfl, .suspended hcreated ?_⟩
    cases hstatus : party.status with
    | active => rfl
    | suspended => exact absurd hstatus hnot

def Named (party : Party) : Prop :=
  party.created = true → trimIsEmpty party.name = false

theorem Step.named {party : Party} {ev : PartyEvent} (hparty : party.Named) (h : Step party ev)
    : (party.apply ev).Named := by
  cases h with
  | registered _ hname => exact fun _ => hname
  | updated _ hname => exact fun _ => hname
  | suspended => exact hparty

-- What does not change once a party is registered; a suspension is part of it.
structure Keeps (party party' : Party) : Prop where
  created : party'.created = party.created
  id : party'.id = party.id
  tenantId : party'.tenantId = party.tenantId
  kind : party'.kind = party.kind
  status : party.status = .suspended → party'.status = .suspended

theorem Keeps.step {party party' : Party} {ev : PartyEvent} (h : Keeps party party')
    (hcreated : party.created = true) (hstep : Step party' ev) : Keeps party (party'.apply ev) := by
  cases hstep with
  | registered hfresh =>
    rw [h.created, hcreated] at hfresh
    cases hfresh
  | updated => exact ⟨h.created, h.id, h.tenantId, h.kind, h.status⟩
  | suspended => exact ⟨h.created, h.id, h.tenantId, h.kind, fun _ => rfl⟩

def isSuspension (ev : PartyEvent) : Bool :=
  match ev with
  | .partySuspended _ => true
  | _ => false

structure Recorded (party : Party) (history : List PartyEvent) : Prop where
  fresh : party.created = false → party.status = .active
  count : history.countP isSuspension = if party.status = .suspended then 1 else 0

theorem Step.recorded {party : Party} {history : List PartyEvent} {ev : PartyEvent}
    (hparty : party.Recorded history) (h : Step party ev) : (party.apply ev).Recorded
    (history ++ [ev]) := by
  have hcount := hparty.count
  cases h with
  | registered hfresh =>
    rw [hparty.fresh hfresh] at hcount
    refine ⟨fun _ => rfl, ?_⟩
    rw [List.countP_append, hcount]
    rfl
  | updated hcreated =>
    refine ⟨?_, ?_⟩
    . intro hfresh
      exact absurd (hcreated.symm.trans hfresh) (by simp)
    . rw [List.countP_append, hcount]
      rfl
  | suspended hcreated hactive =>
    rw [hactive] at hcount
    refine ⟨?_, ?_⟩
    . intro hfresh
      exact absurd (hcreated.symm.trans hfresh) (by simp)
    . rw [List.countP_append, hcount]
      rfl

/--
A registration, then updates, between which there may be one suspension.
-/
inductive Story : List PartyEvent → Prop where
  | none : Story []
  | active {r : PartyRegistered} {updates : List PartyUpdated} :
      Story (.partyRegistered r :: updates.map .partyUpdated)
  | suspended {r : PartyRegistered} {updates later : List PartyUpdated} {e : PartySuspended} :
      Story (.partyRegistered r ::
        (updates.map .partyUpdated ++ .partySuspended e :: later.map .partyUpdated))

theorem updates_of_chain {party : Party} {evs : List PartyEvent}
    (h : @Chain aggregate Step party evs)
    (hcreated : party.created = true)
    : ∃ updates : List PartyUpdated, evs = updates.map .partyUpdated
        ∨ party.status = .active ∧ ∃ (e : PartySuspended) (later : List PartyUpdated),
          evs = updates.map .partyUpdated ++ .partySuspended e :: later.map .partyUpdated := by
  induction evs generalizing party with
  | nil => exact ⟨[], .inl rfl⟩
  | cons ev evs ih =>
    rcases h with _ | ⟨hstep, hrest⟩
    cases hstep with
    | registered hfresh => exact absurd (hcreated.symm.trans hfresh) (by simp)
    | @updated u =>
      rcases ih hrest hcreated with ⟨updates, hevs | ⟨hactive, e, later, hevs⟩⟩
      . exact ⟨u :: updates, .inl (congrArg _ hevs)⟩
      . exact ⟨u :: updates, .inr ⟨hactive, e, later, congrArg _ hevs⟩⟩
    | @suspended e _ hactive =>
      rcases ih hrest hcreated with ⟨later, rfl | ⟨hactive', -⟩⟩
      . exact ⟨[], .inr ⟨hactive, e, later, rfl⟩⟩
      . cases hactive'

theorem story_of_produced {ok : PartyCommand → Prop} {id : PartyId} {evs : List PartyEvent}
    (h : aggregate.Produced ok (empty id) evs) : Story evs := by
  have hchain : @Chain aggregate Step (empty id) evs := by
    refine (@Aggregate.Produced.chain aggregate Step (fun _ => True) ok (empty id)
      evs h trivial ?_).1
    intro party command decided _ hhandle
    rcases handle_step hhandle with ⟨ev, rfl, hstep⟩
    exact ⟨ev, rfl, hstep, trivial⟩
  rcases hchain with _ | ⟨hstep, hrest⟩
  . exact .none
  . cases hstep with
    | registered =>
      rcases updates_of_chain hrest rfl with ⟨updates, rfl | ⟨-, e, later, rfl⟩⟩
      . exact .active
      . exact .suspended
    | updated hcreated => cases hcreated
    | suspended hcreated => cases hcreated

def detailsOf (ev : PartyEvent) : Option (String × ContactInfo) :=
  match ev with
  | .partyUpdated e => some (e.name, e.contact)
  | _ => none

def latestDetails (r : PartyRegistered) (rest : List PartyEvent) : String × ContactInfo :=
  (rest.filterMap detailsOf).getLast?.getD (r.name, r.contact)

-- The party that its events describe.
def described (r : PartyRegistered) (rest : List PartyEvent) : Party where
  id := r.partyId
  tenantId := some r.tenantId
  kind := r.kind
  name := (latestDetails r rest).1
  contact := (latestDetails r rest).2
  status := if rest.any isSuspension then .suspended else .active
  version := 1 + rest.length
  created := true

structure RunsSteadily (id : PartyId) (commands : List PartyCommand) : Prop where
  story : Story (historyOf id commands)
  folded : stateOf id commands = (historyOf id commands).foldl apply (empty id)
  described : ∀ r rest, historyOf id commands = .partyRegistered r :: rest →
    stateOf id commands = described r rest
  named : (stateOf id commands).Named
  keeps : (stateOf id commands).created = true → ∀ more,
    Keeps (stateOf id commands) (stateOf id (commands ++ more))
  suspended_once : (historyOf id commands).countP isSuspension
    = if (stateOf id commands).status = .suspended then 1 else 0
  version : (stateOf id commands).version = (historyOf id commands).length

-- After the registration nobody registers the party again.
theorem Story.rest {r : PartyRegistered} {rest : List PartyEvent}
    (h : Story (.partyRegistered r :: rest)) : ∀ ev ∈ rest, ∀ e, ev ≠ .partyRegistered e := by
  intro ev hev e
  cases h with
  | active =>
    rcases List.mem_map.mp hev with ⟨update, -, rfl⟩
    exact PartyEvent.noConfusion
  | suspended =>
    rcases List.mem_append.mp hev with hev | hev
    . rcases List.mem_map.mp hev with ⟨update, -, rfl⟩
      exact PartyEvent.noConfusion
    . rcases List.mem_cons.mp hev with rfl | hev
      . exact PartyEvent.noConfusion
      . rcases List.mem_map.mp hev with ⟨update, -, rfl⟩
        exact PartyEvent.noConfusion

theorem foldl_rest {r : PartyRegistered} {rest : List PartyEvent}
    (h : ∀ ev ∈ rest, ∀ e, ev ≠ PartyEvent.partyRegistered e) (id : PartyId)
    : rest.foldl apply ((empty id).apply (.partyRegistered r)) = described r rest := by
  induction rest using List.reverseRecOn with
  | nil => rfl
  | append_singleton rest ev ih =>
    rw [List.foldl_concat, ih (fun ev hev => h ev (List.mem_append_left _ hev))]
    cases ev with
    | partyRegistered e => exact absurd rfl (h (.partyRegistered e) (by simp) e)
    | partyUpdated e =>
      simp [described, latestDetails, detailsOf, isSuspension, apply, Nat.add_assoc]
    | partySuspended e =>
      simp [described, latestDetails, detailsOf, isSuspension, apply, Nat.add_assoc]

theorem runs_steadily (id : PartyId) (commands : List PartyCommand) : RunsSteadily id commands := by
  rcases @Aggregate.run_produced aggregate (fun _ => True) (empty id) commands (fun _ _ => trivial)
    with ⟨hfolded, hproduced⟩
  have hstory : Story (historyOf id commands) := story_of_produced hproduced
  refine ⟨hstory, hfolded, ?_, ?_, ?_, ?_, ?_⟩
  . intro r rest hhistory
    have hstate : stateOf id commands = (historyOf id commands).foldl apply (empty id) := hfolded
    rw [hhistory] at hstory hstate
    exact hstate.trans (foldl_rest hstory.rest id)
  . apply @Aggregate.run_invariant aggregate (fun r => Named r.state) (fun _ => True)
      (empty id) commands
      (fun _ _ => trivial)
    . intro hcreated
      cases hcreated
    . intro r command decided hr _ hhandle
      rcases handle_step hhandle with ⟨ev, rfl, hstep⟩
      exact hstep.named hr
  . intro hcreated more
    apply @Aggregate.run_preserves aggregate
      (fun party : Party => Keeps (stateOf id commands) party)
    . exact ⟨rfl, rfl, rfl, rfl, fun h => h⟩
    . intro party command decided hkeeps hhandle
      rcases handle_step hhandle with ⟨ev, rfl, hstep⟩
      exact hkeeps.step hcreated hstep
  . have hrecorded : Recorded (stateOf id commands) (historyOf id commands) := by
      apply @Aggregate.run_invariant aggregate (fun r => Recorded r.state r.history) (fun _ => True)
        (empty id) commands (fun _ _ => trivial)
      . exact ⟨fun _ => rfl, rfl⟩
      . intro r command decided hr _ hhandle
        rcases handle_step hhandle with ⟨ev, rfl, hstep⟩
        exact hstep.recorded hr
    exact hrecorded.count
  . have hversion := @Aggregate.run_count aggregate Party.version
      (fun party ev => by cases ev <;> rfl) (empty id) commands
    refine hversion.trans ?_
    exact Nat.zero_add _

end Party

end ForgeErp
