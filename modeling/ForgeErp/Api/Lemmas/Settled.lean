import ForgeErp.Api.Lemmas.Answers
import ForgeErp.Api.Lemmas.Requests
import ForgeErp.Api.Lemmas.Views
import ForgeErp.Library.Relay

/-!
This module contains the read models in runs in which no request overtakes another one of the same
stream between its append and its publication. A row then shows its aggregate as it was after the
first commands, and as it is once everything has been published and received.
-/

namespace ForgeErp
namespace Server

section Orderly

variable [Lowercase]

def IsPending (s : State) : StoredEvent → Prop :=
  Unsent (fun i => (s.sessions i).pending)

/--
What a request publishes next is the first event of its stream that is still to be published.
-/
def PublishesFirst (s : State) (i : Nat) : Prop :=
  ∀ e, (s.sessions i).pending.head? = some e →
    ∀ e', IsPending s e' → e'.key = e.key → e.sequenceNumber ≤ e'.sequenceNumber

def Orderly (s : State) (action : Action) : Prop :=
  match action with
  | .advance i => PublishesFirst s i
  | _ => True

def Action.session (action : Action) : Option Nat :=
  match action with
  | .arrive i _ _ _ _ => some i
  | .advance i => some i
  | _ => none

def Settled (s : State) : Prop :=
  s.queue = [] ∧ ∀ i, (s.sessions i).pending = []

variable [TextFormat Uuid] [TextFormat DateTime] {s s' : State} {i : Nat}

theorem sessions_of_advance (h : advance s i = some s') {j : Nat} (hj : j ≠ i)
    : s'.sessions j = s.sessions j := by
  unfold advance at h
  repeat' split at h
  all_goals
    cases h
    try exact if_neg hj

variable [ResponseText] [Rfc3339] [ParseRfc3339] {config : Config} {action : Action}

theorem sessions_of_step (h : step config s action = some s') (haction : action.session ≠ some i)
    : s'.sessions i = s.sessions i := by
  cases action with
  | advance j =>
    apply sessions_of_advance h
    rintro rfl
    exact haction rfl
  | arrive j authorization now request draws =>
    have hne : i ≠ j := by
      rintro rfl
      exact haction rfl
    dsimp only [step, arrive] at h
    split at h
    . split at h
      . cases h
        exact if_neg hne
      . cases h
        exact if_neg hne
    . cases h
  | project fresh now =>
    dsimp only [step, project] at h
    split at h
    . cases h
    . cases h
      rfl
  | saga uuid now =>
    dsimp only [step, saga] at h
    split at h
    . cases h
    . cases h
      rfl

-- Only the next step of a request can publish what it has to publish.
theorem advance_of_publish (h : step config s action = some s') {stored : StoredEvent}
    {rest : List StoredEvent} (hbefore : (s.sessions i).pending = stored :: rest)
    (hafter : (s'.sessions i).pending = rest) : action = .advance i := by
  by_cases haction : action.session = some i
  . cases action with
    | advance j => rw [Option.some.inj haction]
    | arrive j authorization now request draws =>
      cases haction
      dsimp only [step, arrive] at h
      split at h
      . next hidle =>
        rw [hidle] at hbefore
        cases hbefore
      . cases h
    | project fresh now => cases haction
    | saga uuid now => cases haction
  . rw [sessions_of_step h haction, hbefore] at hafter
    exact absurd hafter (by simp)

theorem pending_single (h : (system config).Reachable s)
    : Inv config s ∧ ∀ j, (s.sessions j).pending.length ≤ 1 := by
  apply Machine.Reachable.invariant _ _ s h
  . intro s hs
    rw [hs]
    exact ⟨inv_initial, fun _ => Nat.zero_le 1⟩
  . rintro s action s' ⟨hinv, hsingle⟩ hstep
    have hsteps := steps_of_step hstep
    have hinv' := inv_steps hinv hsteps
    refine ⟨hinv', ?_⟩
    intro j
    cases effect_of_steps hinv hsteps with
    | quiet _ _ _ hpending =>
      rw [hpending]
      exact hsingle j
    | project _ _ _ _ hpending =>
      rw [hpending]
      exact hsingle j
    | @append i call committed hcommits _ _ _ _ hafter =>
      rw [hafter]
      split
      . have hone := (hinv'.commits ⟨i, call, committed⟩ (by rw [hcommits]; simp)).2
        exact Nat.le_of_eq hone
      . exact hsingle j
    | @publish i stored rest _ _ _ hbefore hafter =>
      rw [hafter]
      split
      . have := hsingle i
        rw [hbefore, List.length_cons] at this
        omega
      . exact hsingle j

-- A request that is alone does not overtake anybody.
theorem orderly_alone (h : (system config).Reachable s)
    (halone : ∀ j, j ≠ i → (s.sessions j).pending = []) {actions : List Action}
    (hactions : ∀ action ∈ actions, ∀ j, action.session = some j → j = i)
    : (system config).OkAlong Orderly s actions := by
  induction actions generalizing s with
  | nil => trivial
  | cons action actions ih =>
    constructor
    . cases action with
      | advance j =>
        have hj : j = i := hactions _ List.mem_cons_self j rfl
        subst hj
        rintro e he e' ⟨j', hj'⟩ _
        by_cases hsame : j' = j
        . rcases List.head?_eq_some_iff.mp he with ⟨rest, hrest⟩
          have hlength := (pending_single h).2 j
          dsimp only at hj'
          rw [hsame, hrest] at hj'
          rw [hrest, List.length_cons] at hlength
          have hnil : rest = [] := List.eq_nil_of_length_eq_zero (by omega)
          rw [hnil, List.mem_singleton] at hj'
          rw [hj']
        . dsimp only at hj'
          rw [halone j' hsame] at hj'
          cases hj'
      | arrive j authorization now request draws => trivial
      | project fresh now => trivial
      | saga uuid now => trivial
    . intro s' hstep
      apply ih (.step h trivial hstep)
      . intro j hj
        rw [sessions_of_step hstep]
        . exact halone j hj
        . intro hsession
          exact hj (hactions _ List.mem_cons_self j hsession)
      . intro action' haction'
        exact hactions action' (List.mem_cons_of_mem _ haction')

theorem reachable_alone (h : (system config).ReachableUnder Orderly s) (i : Nat)
    (halone : ∀ j, j ≠ i → (s.sessions j).pending = []) (actions : List Action)
    (hactions : ∀ action ∈ actions, ∀ j, action.session = some j → j = i)
    (hrun : (system config).run s actions = some s')
    : (system config).ReachableUnder Orderly s' :=
  h.runAlong (orderly_alone (h.mono (fun _ _ _ => trivial)) halone hactions) hrun

end Orderly

section Following

variable [Lowercase] [TextFormat Uuid] [TextFormat DateTime]

/--
Every stream is on its way to the read models in its own order.
-/
structure Following (s : State) : Prop where
  inStep : s.readModels.InStep
  outbox : Outbox (fun i => (s.sessions i).pending) (fun e => e ∈ s.store.loadStream e.key)
  streams : ∀ key, ∃ c p,
    Relayed EventEnvelope.key StoredEvent.sequenceNumber StoredEvent.toEnvelope key
      (s.store.loadStream key)
      s.queue (IsPending s) c p
    ∧ ∀ (kind : AggregateKind) (commands : List kind.aggregate.Command),
        commandsTo s.commits key = commands.map (Sigma.mk kind) →
        kind.Follows key s.readModels (kind.history key commands) c

variable {config : Config} {s s' : State} {i : Nat}

omit [TextFormat Uuid] [TextFormat DateTime] in
theorem Following.quiet (h : Following s) (hlog : SameLog s s') (hrows : SameRows s s')
    (hqueue : s'.queue = s.queue) (hpending : ∀ j, (s'.sessions j).pending = (s.sessions j).pending)
    : Following s' := by
  have hsame : (fun j => (s'.sessions j).pending)
    = fun j => (s.sessions j).pending := funext hpending
  constructor
  . rw [hrows.readModels]
    exact h.inStep
  . rw [hsame]
    refine ⟨h.outbox.nodup, ?_, h.outbox.apart⟩
    intro j e he
    rw [hlog.streams]
    exact h.outbox.stored j e he
  . intro key
    rcases h.streams key with ⟨c, p, hrelayed, hfollows⟩
    refine ⟨c, p, ?_, ?_⟩
    . unfold IsPending at hrelayed ⊢
      rw [hlog.streams, hqueue, hsame]
      exact hrelayed
    . rw [hlog.commits, hrows.readModels]
      exact hfollows

theorem Following.publish (h : Following s) (hinv : Inv config s) (hlog : SameLog s s')
    (hrows : SameRows s s') {stored : StoredEvent} {rest : List StoredEvent}
    (hqueue : s'.queue = s.queue ++ [stored.toEnvelope])
    (hbefore : (s.sessions i).pending = stored :: rest)
    (hafter : ∀ j, (s'.sessions j).pending = if j = i then rest else (s.sessions j).pending)
    (hfirst : PublishesFirst s i) : Following s' := by
  rcases h.outbox.send (i := i) hbefore hafter with ⟨houtbox, hunsent⟩
  have hstored : stored ∈ s.store.loadStream stored.key := by
    apply h.outbox.stored i
    rw [hbefore]
    exact List.mem_cons_self
  have hpending : IsPending s stored := ⟨i, by dsimp only; rw [hbefore]; exact List.mem_cons_self⟩
  constructor
  . rw [hrows.readModels]
    exact h.inStep
  . refine ⟨houtbox.nodup, ?_, houtbox.apart⟩
    intro j e he
    rw [hlog.streams]
    exact houtbox.stored j e he
  . intro key
    rcases h.streams key with ⟨c, p, hrelayed, hfollows⟩
    rw [← hlog.commits, ← hrows.readModels] at hfollows
    rw [hlog.streams, hqueue]
    have hkeys := (hinv.wellFormed key).key_eq
    by_cases hkey : stored.key = key
    . subst hkey
      refine ⟨c, p + 1, hrelayed.send hstored hpending ?_ ?_, hfollows⟩
      . intro e he hunsent
        exact hfirst stored (by rw [hbefore]; rfl) e hunsent (hkeys e he)
      . intro e _
        exact hunsent e
    . refine ⟨c, p, (hrelayed.send_ne (m := stored.toEnvelope) hkey).congr ?_, hfollows⟩
      intro e he
      have hne : e ≠ stored := by
        intro heq
        rw [← heq] at hkey
        exact hkey (hkeys e he)
      constructor
      . intro hunsent'
        exact ((hunsent e).mp hunsent').1
      . intro hunsent'
        exact (hunsent e).mpr ⟨hunsent', hne⟩

theorem Following.append (h : Following s) (hinv : Inv config s) (hinv' : Inv config s')
    {call : DispatchCall} {committed : List StoredEvent}
    (hcommits : s'.commits = s.commits ++ [⟨i, call, committed⟩])
    (hstreams : ∀ key, s'.store.loadStream key
      = if key = call.key then s.store.loadStream call.key ++ committed else s.store.loadStream key)
    (hrows : SameRows s s') (hqueue : s'.queue = s.queue) (hbefore : (s.sessions i).pending = [])
    (hafter : ∀ j, (s'.sessions j).pending = if j = i then committed else (s.sessions j).pending)
    : Following s' := by
  have hwf := hinv'.wellFormed call.key
  rw [hstreams, if_pos rfl] at hwf
  have hkeys : ∀ e ∈ committed, e.key = call.key :=
    fun e he => hwf.key_eq e (List.mem_append_right _ he)
  have hnodup := List.nodup_append.mp hwf.numbered.nodup
  have hnew : ∀ e ∈ committed, ¬ e ∈ s.store.loadStream e.key := by
    intro e he hold
    rw [hkeys e he] at hold
    exact hnodup.2.2 e hold e he rfl
  have hold : ∀ e, e ∈ s.store.loadStream e.key → e ∈ s'.store.loadStream e.key := by
    intro e he
    rw [hstreams]
    split
    . next hkey =>
      rw [hkey] at he
      exact List.mem_append_left _ he
    . exact he
  have hmore : ∀ e ∈ committed, e ∈ s'.store.loadStream e.key := by
    intro e he
    rw [hkeys e he, hstreams, if_pos rfl]
    exact List.mem_append_right _ he
  rcases h.outbox.add hbefore hafter hnodup.2.1 hnew hold hmore with ⟨houtbox, hunsent⟩
  refine ⟨by rw [hrows.readModels]; exact h.inStep, houtbox, ?_⟩
  intro key
  rcases h.streams key with ⟨c, p, hrelayed, hfollows⟩
  have hsame : ∀ e ∈ s.store.loadStream key, IsPending s' e ↔ IsPending s e := by
    intro e he
    constructor
    . intro hunsent'
      refine ((hunsent e).mp hunsent').resolve_right ?_
      intro hmem
      apply hnew e hmem
      rw [(hinv.wellFormed key).key_eq e he]
      exact he
    . intro hunsent'
      exact (hunsent e).mpr (.inl hunsent')
  refine ⟨c, p, ?_, ?_⟩
  . rw [hqueue, hstreams]
    split
    . next hkey =>
      subst hkey
      exact hrelayed.grow hwf.numbered hkeys hsame (fun e he => (hunsent e).mpr (.inr he))
    . exact hrelayed.congr hsame
  . intro kind commands hcommands
    rw [hcommits] at hcommands
    rw [hrows.readModels]
    rcases commandsTo_of_concat hcommands with ⟨before, hprevious, rfl | ⟨command, rfl⟩⟩
    . exact hfollows kind _ hprevious
    . rcases kind.history_prefix key before command with ⟨more, hmore⟩
      rw [← hmore]
      apply (hfollows kind before hprevious).append
      rw [← ((hinv.authentic key).sourced_of_map hprevious).streamOf.length_eq]
      exact Nat.le_trans hrelayed.le hrelayed.bound

theorem Following.receive (h : Following s) (hinv : Inv config s) (hlog : SameLog s s')
    {fresh : AggregateId} {now : DateTime} {env : EventEnvelope JsonValue}
    (hqueue : s.queue = env :: s'.queue)
    (hreadModels : s'.readModels = (s.readModels.applyEnvelope fresh now env).2)
    (hpending : ∀ j, (s'.sessions j).pending = (s.sessions j).pending) : Following s' := by
  have hsame : (fun j => (s'.sessions j).pending)
    = fun j => (s.sessions j).pending := funext hpending
  have hfrom : ∃ e ∈ s.store.loadStream e.key, env = e.toEnvelope := by
    rcases hinv.channels with ⟨toReadModels, toSaga, hbus, hqueued⟩
    apply hqueued
    rw [← queue_of_bus hbus, hqueue]
    exact List.mem_append_left _ List.mem_cons_self
  rcases hfrom with ⟨e, he, rfl⟩
  refine ⟨by rw [hreadModels]; exact h.inStep.applyEnvelope fresh now, ?_, ?_⟩
  . rw [hsame]
    refine ⟨h.outbox.nodup, ?_, h.outbox.apart⟩
    intro j e he
    rw [hlog.streams]
    exact h.outbox.stored j e he
  . intro key
    rcases h.streams key with ⟨c, p, hrelayed, hfollows⟩
    unfold IsPending at hrelayed ⊢
    rw [hlog.streams, hsame]
    rw [hlog.commits, hreadModels]
    rw [hqueue] at hrelayed
    by_cases hkey : e.key = key
    . subst hkey
      rcases hrelayed.receive rfl with ⟨e', hget, henv, -, hrelayed'⟩
      refine ⟨c + 1, p, hrelayed', ?_⟩
      intro kind commands hcommands
      rw [henv]
      exact (hfollows kind commands hcommands).receive h.inStep
        ((hinv.authentic e.key).sourced_of_map hcommands) (hinv.wellFormed e.key) hget
    . refine ⟨c, p, hrelayed.receive_ne hkey, ?_⟩
      intro kind commands hcommands
      exact (hfollows kind commands hcommands).receive_ne h.inStep (hinv.authentic e.key)
        (hinv.wellFormed e.key) he (Ne.symm hkey)

theorem Effect.following [ResponseText] [Rfc3339] [ParseRfc3339] {action : Action} (h : Following s)
    (hinv : Inv config s) (hinv' : Inv config s') (hstep : step config s action = some s')
    (hok : Orderly s action) (heffect : Effect s s') : Following s' := by
  cases heffect with
  | quiet hlog hrows hqueue hpending => exact h.quiet hlog hrows hqueue hpending
  | append hcommits hstreams hrows hqueue hbefore hafter =>
    exact h.append hinv hinv' hcommits hstreams hrows hqueue hbefore hafter
  | @publish i stored rest hlog hrows hqueue hbefore hafter =>
    have haction := advance_of_publish hstep hbefore ((hafter i).trans (if_pos rfl))
    rw [haction] at hok
    exact h.publish hinv hlog hrows hqueue hbefore hafter hok
  | project hlog hqueue hreadModels _ hpending =>
    exact h.receive hinv hlog hqueue hreadModels hpending

omit [TextFormat Uuid] [TextFormat DateTime] in
theorem following_initial : Following initial := by
  refine ⟨fun _ => rfl, .empty _, ?_⟩
  intro key
  refine ⟨0, 0, ?_, ?_⟩
  . exact Relayed.empty key
  . intro kind commands hcommands
    rw [List.map_eq_nil_iff.mp hcommands.symm]
    exact AggregateKind.follows_new kind key

end Following

section Runs

variable [Lowercase] [TextFormat Uuid] [TextFormat DateTime] [ResponseText] [Rfc3339] [ParseRfc3339]

theorem following_of_reachable {config : Config} {s : State}
    (h : (system config).ReachableUnder Orderly s)
    : Inv config s ∧ Following s := by
  apply Machine.ReachableUnder.invariant _ _ s h
  . intro s hs
    rw [hs]
    exact ⟨inv_initial, following_initial⟩
  . intro s action s' hinv hok hstep
    have hsteps := steps_of_step hstep
    have hinv' := inv_steps hinv.1 hsteps
    exact ⟨hinv', (effect_of_steps hinv.1 hsteps).following hinv.2 hinv.1 hinv' hstep hok⟩

/--
What the routes answer for the aggregate of a stream: its state after some of the commands that were
stored for it, and after all of them as soon as nothing is on its way any more.
-/
theorem answers_follow (config : Config) (s : State) (h : (system config).ReachableUnder Orderly s)
    (key : StreamKey)
    : ∃ (kind : AggregateKind) (commands : List kind.aggregate.Command),
        Linearized s key kind commands
        ∧ (∃ c, c ≤ commands.length
          ∧ kind.Answers key s.readModels
              (kind.aggregate.run (kind.fresh key) (commands.take c)).state)
        ∧ (Settled s →
            kind.Answers key s.readModels
              (kind.aggregate.run (kind.fresh key) commands).state) := by
  rcases following_of_reachable h with ⟨hinv, hfollowing⟩
  rcases hinv.linearized key with ⟨kind, commands, hlinearized⟩
  rcases hfollowing.streams key with ⟨c, p, hrelayed, hfollows⟩
  have hrows := hfollows kind commands hlinearized.commands_eq
  have hsourced := (hinv.authentic key).sourced_of_map hlinearized.commands_eq
  have hanswers := hrows.answers hsourced.produced
  have hlength : (kind.history key commands).length = commands.length := by
    have := Aggregate.run_length (fun _ _ _ => AggregateKind.handle_one) (kind.fresh key) commands
    rw [hsourced.accepted] at this
    exact this
  have hstream := hsourced.streamOf.length_eq
  have hstate : (kind.aggregate.run (kind.fresh key) (commands.take c)).state
      = kind.aggregate.rehydrate (kind.fresh key) ((kind.history key commands).take c) := by
    have hrun := @Aggregate.run_produced _ (fun _ => True) (kind.fresh key) (commands.take c)
      (fun _ _ => trivial)
    rw [hrun.1, Aggregate.run_take (fun _ _ _ => AggregateKind.handle_one) hsourced.accepted]
    rfl
  rw [← hstate] at hanswers
  refine ⟨kind, commands, hlinearized, ⟨c, ?_, hanswers⟩, ?_⟩
  . have := Nat.le_trans hrelayed.le hrelayed.bound
    omega
  . rintro ⟨hqueue, hpending⟩
    rw [hqueue] at hrelayed
    have hall : c = (s.store.loadStream key).length := by
      apply hrelayed.settled
      rintro e ⟨i, he⟩
      dsimp only at he
      rw [hpending i] at he
      cases he
    rw [List.take_of_length_le (by omega)] at hanswers
    exact hanswers

end Runs

end Server

namespace Workshop

open Concrete Server

-- Two adjustments load the same stream. The first one is published, and then the second one is
-- refused.
def refusedAfter : List Action :=
  opening ++ [
    adjust 1 5, .advance 1, .advance 1,
    adjust 2 7, .advance 2, .advance 2,
    .advance 1, .advance 1, .advance 1, .advance 1,
    .advance 2, .advance 2, .project ⟨⟨0⟩⟩ ⟨0⟩]

theorem session_eq {actions : List Action} {i : Nat}
    (h : actions.all (fun action => action.session.all (· == i)) = true)
    : ∀ action ∈ actions, ∀ j, action.session = some j → j = i := by
  intro action haction j hj
  have hall := List.all_eq_true.mp h action haction
  rw [hj] at hall
  exact eq_of_beq hall

-- At any time only one of the requests has something to publish.
theorem refusedAfter_orderly
    : ∃ s, (system config).run initial refusedAfter = some s
        ∧ (system config).ReachableUnder Orderly s
        ∧ (s.store.loadStream key).length = 2
        ∧ Settled s := by
  have hopened : (system config).ReachableUnder Orderly _ :=
    reachable_alone (.init rfl) 0 (fun _ _ => rfl) opening (session_eq rfl) rfl
  have hfirst := reachable_alone hopened 1 (fun j _ => by rcases j with _ | j <;> rfl)
    [adjust 1 5, .advance 1, .advance 1] (session_eq rfl) rfl
  have hsecond := reachable_alone hfirst 2 (fun j _ => by rcases j with _ | _ | j <;> rfl)
    [adjust 2 7, .advance 2, .advance 2] (session_eq rfl) rfl
  have hpublished := reachable_alone hsecond 1 (fun j _ => by rcases j with _ | _ | _ | j <;> rfl)
    [.advance 1, .advance 1, .advance 1, .advance 1] (session_eq rfl) rfl
  have hrefused := reachable_alone hpublished 2 (fun j _ => by rcases j with _ | _ | _ | j <;> rfl)
    [.advance 2, .advance 2, .project ⟨⟨0⟩⟩ ⟨0⟩] (session_eq rfl) rfl
  refine ⟨_, rfl, hrefused, rfl, rfl, ?_⟩
  intro j
  rcases j with _ | _ | _ | j <;> rfl

theorem answers_follow_refusedAfter
    : ∃ s, (system config).run initial refusedAfter = some s ∧ (s.store.loadStream key).length = 2
        ∧ ∃ (kind : AggregateKind) (commands : List kind.aggregate.Command),
            Linearized s key kind commands
            ∧ kind.Answers key s.readModels
                (kind.aggregate.run (kind.fresh key) commands).state := by
  rcases refusedAfter_orderly with ⟨s, hrun, hs, hlength, hall⟩
  rcases answers_follow config s hs key with ⟨kind, commands, hlinearized, -, hsettled⟩
  exact ⟨s, hrun, hlength, kind, commands, hlinearized, hsettled hall⟩

end Workshop
end ForgeErp
