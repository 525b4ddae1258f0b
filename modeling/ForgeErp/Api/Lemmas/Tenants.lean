import ForgeErp.Api.Lemmas.Requests
import ForgeErp.Api.Lemmas.TenantRows
import ForgeErp.EventStore.Lemmas.Isolation

/-!
This module contains tenant isolation of the server: a tenant is served as if there were no other
tenants, whatever their requests do between the steps of its own.
-/

namespace ForgeErp
namespace Server

open CommandDispatcher
open InMemoryEventStore (SameFor)

section Mirrors

variable [Lowercase]

def State.tenant (s : State) (i : Nat) : Option TenantId :=
  (s.admissions i).map (fun adm => adm.claims.tenantId)

/--
Of what there is in `s`, the state `s'` has what belongs to the tenant.
-/
structure Mirrors (t : TenantId) (s s' : State) : Prop where
  store : SameFor t s.store s'.store
  readModels : ReadModels.SameFor t s.readModels s'.readModels
  realtime : s'.realtime = s.realtime.filter (fun message => message.tenantId = t)
  channels : ∃ toReadModels toSaga, s.bus = busOf toReadModels toSaga
    ∧ s'.bus = busOf (toReadModels.filter (fun env => env.tenantId = t))
        (toSaga.filter (fun env => env.tenantId = t))
  own : ∀ i, s.tenant i = some t → s'.sessions i = s.sessions i ∧ s'.admissions i = s.admissions i
  other : ∀ i, s.tenant i ≠ some t → s'.sessions i = .idle ∧ s'.admissions i = none

variable {t : TenantId} {s s' u : State} {i : Nat}

theorem Mirrors.setSession (h : Mirrors t s s') (hown : s.tenant i = some t) (session : Session)
    : Mirrors t (s.setSession i session) (s'.setSession i session) := by
  refine ⟨h.store, h.readModels, h.realtime, h.channels, ?_, ?_⟩
  . intro j hj
    rw [State.sessions_setSession, State.sessions_setSession, (h.own j hj).1]
    exact ⟨rfl, (h.own j hj).2⟩
  . intro j hj
    have hne : j ≠ i := by
      rintro rfl
      exact hj hown
    rw [State.sessions_setSession, if_neg hne]
    exact h.other j hj

theorem Mirrors.setStore (h : Mirrors t s s') {store store' : InMemoryEventStore}
    (hstore : SameFor t store store') (commits commits' : List Commit)
    : Mirrors t { s with store, commits } { s' with store := store', commits := commits' } :=
  ⟨hstore, h.readModels, h.realtime, h.channels, h.own, h.other⟩

theorem Mirrors.publish (h : Mirrors t s s') {env : EventEnvelope JsonValue}
    (henv : env.tenantId = t)
    : Mirrors t { s with bus := (InMemoryEventBus.publish s.bus env).2 }
        { s' with bus := (InMemoryEventBus.publish s'.bus env).2 } := by
  rcases h.channels with ⟨toReadModels, toSaga, hbus, hbus'⟩
  refine ⟨h.store, h.readModels, h.realtime, ⟨toReadModels ++ [env], toSaga ++ [env], ?_, ?_⟩,
    h.own, h.other⟩
  . dsimp only
    rw [hbus]
    rfl
  . dsimp only
    rw [hbus', List.filter_append, List.filter_append,
      List.filter_cons_of_pos (by simpa using henv),
      List.filter_nil]
    rfl

variable [TextFormat Uuid] [TextFormat DateTime] {config : Config}

omit [TextFormat Uuid] [TextFormat DateTime] in
theorem tenant_of_admission {adm : Admission} (h : s.admissions i = some adm)
    : s.tenant i = some adm.claims.tenantId := by
  unfold State.tenant
  rw [h]
  rfl

-- The tenant's own requests take their steps in both states,
theorem Mirrors.advance (h : Mirrors t s s') (hinv : Inv config s) (hown : s.tenant i = some t)
    (hstep : advance s i = some u) : ∃ u', Server.advance s' i = some u' ∧ Mirrors t u u' := by
  have hclaims : ∀ adm, s.admissions i = some adm → adm.claims.tenantId = t := by
    intro adm hadm
    rw [tenant_of_admission hadm] at hown
    exact Option.some.inj hown
  unfold Server.advance at hstep ⊢
  rw [(h.own i hown).1]
  cases hsession : s.sessions i with
  | idle =>
    rw [hsession] at hstep
    cases hstep
  | answered response =>
    rw [hsession] at hstep
    cases hstep
  | running handler =>
    rw [hsession] at hstep
    cases handler with
    | done response =>
      cases hstep
      exact ⟨_, rfl, h.setSession hown _⟩
    | ask question next =>
      rcases hinv.busy hsession (by simp) (by simp) with ⟨adm, hadm, hconsistent⟩
      cases question with
      | read query =>
        cases hstep
        have htenant : query.tenantId = t := hconsistent.question.trans (hclaims adm hadm)
        have hread := h.readModels.read htenant
        refine ⟨_, rfl, ?_⟩
        rw [← hread]
        exact h.setSession hown _
      | dispatch call =>
        cases hstep
        have htenant : call.key.tenantId = t :=
          hconsistent.question.tenant_eq.trans (hclaims adm hadm)
        refine ⟨_, rfl, ?_⟩
        rw [← h.store call.key htenant]
        exact h.setSession hown _
  | loaded call history next =>
    rw [hsession] at hstep
    dsimp only at hstep ⊢
    cases hdecide : decideEvents (call.kind.request call.key call.aggregateType call.command)
      history
        call.freshId with
    | error err =>
      rw [hdecide] at hstep
      cases hstep
      exact ⟨_, rfl, h.setSession hown _⟩
    | ok decided =>
      rw [hdecide] at hstep
      cases decided with
      | none =>
        cases hstep
        exact ⟨_, rfl, h.setSession hown _⟩
      | some decided =>
        cases hstep
        exact ⟨_, rfl, h.setSession hown _⟩
  | decided call history us expected next =>
    rw [hsession] at hstep
    dsimp only at hstep ⊢
    rcases hinv.busy hsession (by simp) (by simp) with ⟨adm, hadm, hsends, -, hdecide, -⟩
    have hfirst : ∀ first, us.head? = some first → first.tenantId = t := by
      intro first hhead
      have hkey := ((decideEvents_uniform hdecide).1 first (List.mem_of_head? hhead)).1
      exact (congrArg StreamKey.tenantId hkey).trans (hsends.tenant_eq.trans (hclaims adm hadm))
    rcases h.store.append expected hfirst with ⟨hsame, hstore⟩
    generalize InMemoryEventStore.append s.store us expected = result at hstep hsame hstore
    generalize InMemoryEventStore.append s'.store us expected = result' at hsame hstore ⊢
    rcases result with ⟨result, store⟩
    rcases result' with ⟨result', store'⟩
    dsimp only at hsame hstore
    subst hsame
    cases result with
    | error err =>
      cases hstep
      exact ⟨_, rfl, (h.setStore hstore s.commits s'.commits).setSession hown _⟩
    | ok committed =>
      cases hstep
      exact ⟨_, rfl, (h.setStore hstore _ _).setSession hown _⟩
  | publishing committed rest next =>
    rw [hsession] at hstep
    cases rest with
    | nil =>
      cases hstep
      exact ⟨_, rfl, h.setSession hown _⟩
    | cons stored rest =>
      rcases hinv.busy hsession (by simp) (by simp) with ⟨adm, hadm, hconsistent⟩
      cases hstep
      have htenant := (hconsistent.1 stored List.mem_cons_self).2.trans (hclaims adm hadm)
      exact ⟨_, rfl, (h.publish htenant).setSession hown _⟩

end Mirrors

section Arrivals

variable [Lowercase] {t : TenantId} {s s' : State} {i : Nat}

theorem tenant_enter (s : State) (i : Nat) (adm : Admission) (j : Nat)
    : (s.enter i adm).tenant j = if j = i then some adm.claims.tenantId else s.tenant j := by
  unfold State.tenant
  rw [State.admissions_enter]
  split <;> rfl

theorem Mirrors.enter (h : Mirrors t s s') {adm : Admission} (hown : adm.claims.tenantId = t)
    (session : Session)
    : Mirrors t ((s.enter i adm).setSession i session) ((s'.enter i adm).setSession i session) := by
  refine ⟨h.store, h.readModels, h.realtime, h.channels, ?_, ?_⟩
  . intro j hj
    have htenant : (s.enter i adm).tenant j = some t := hj
    rw [tenant_enter] at htenant
    by_cases hji : j = i
    . subst hji
      exact ⟨by simp, by simp [State.setSession]⟩
    . rw [if_neg hji] at htenant
      rw [State.sessions_setSession, State.sessions_setSession, if_neg hji, if_neg hji]
      refine ⟨(h.own j htenant).1, ?_⟩
      dsimp only [State.setSession]
      rw [State.admissions_enter, State.admissions_enter, if_neg hji, if_neg hji]
      exact (h.own j htenant).2
  . intro j hj
    have htenant : (s.enter i adm).tenant j ≠ some t := hj
    rw [tenant_enter] at htenant
    by_cases hji : j = i
    . rw [if_pos hji, hown] at htenant
      exact absurd rfl htenant
    . rw [if_neg hji] at htenant
      rw [State.sessions_setSession, if_neg hji]
      refine ⟨(h.other j htenant).1, ?_⟩
      dsimp only [State.setSession]
      rw [State.admissions_enter, if_neg hji]
      exact (h.other j htenant).2

end Arrivals

section Runs

variable [Lowercase] [TextFormat Uuid] [TextFormat DateTime] {config : Config} {t : TenantId}
  {s s' u : State}

def owns (config : Config) (t : TenantId) (s : State) (action : Action) : Bool :=
  match action with
  | .arrive _ authorization now _ _ =>
    (AuthMiddleware.authenticate config.jwt authorization now).map (·.tenantId) = some t
  | .advance i => s.tenant i = some t
  | .project _ _ => (s.bus.recvAt 0).map (·.1.tenantId) = some t
  | .saga _ _ => (s.bus.recvAt 1).map (·.1.tenantId) = some t

theorem Mirrors.project (h : Mirrors t s s') {fresh : AggregateId} {now : DateTime}
    {env : EventEnvelope JsonValue} {bus : InMemoryEventBus (EventEnvelope JsonValue)}
    (hrecv : s.bus.recvAt 0 = some (env, bus)) (henv : env.tenantId = t)
    (hstep : project s fresh now = some u)
    : ∃ u', Server.project s' fresh now = some u' ∧ Mirrors t u u' := by
  rcases h.channels with ⟨toReadModels, toSaga, hbus, hbus'⟩
  rw [hbus] at hrecv
  rcases recvAt_zero hrecv with ⟨queue, rfl, rfl⟩
  rw [List.filter_cons_of_pos (by simpa using henv)] at hbus'
  unfold Server.project at hstep ⊢
  rw [hbus] at hstep
  rw [hbus']
  cases hstep
  refine ⟨_, rfl, ?_⟩
  rcases @ReadModels.SameFor.project t s.readModels s'.readModels _ _ fresh now env
      h.readModels henv with
    ⟨hmessages, hreadModels⟩
  have hrealtime : s'.realtime ++ (s'.readModels.project fresh now env).1
      = (s.realtime ++ (s.readModels.project fresh now env).1).filter
          (fun message => message.tenantId = t) := by
    rw [h.realtime, List.filter_append, ← hmessages]
    congr 1
    symm
    rw [List.filter_eq_self]
    intro message hmessage
    rw [decide_eq_true_iff, ReadModels.tenantId_of_project hmessage]
    exact henv
  exact ⟨h.store, hreadModels, hrealtime, ⟨queue, toSaga, rfl, rfl⟩, h.own, h.other⟩

theorem Mirrors.saga (h : Mirrors t s s') (hinv : Inv config s) (hinv' : Inv config s')
    {uuid : Nat → Nat → Uuid} {now : Nat → Nat → DateTime} {env : EventEnvelope JsonValue}
    {bus : InMemoryEventBus (EventEnvelope JsonValue)} (hrecv : s.bus.recvAt 1 = some (env, bus))
    (henv : env.tenantId = t) (hstep : Server.saga config s uuid now = some u)
    : ∃ u', Server.saga config s' uuid now = some u' ∧ Mirrors t u u' := by
  unfold Server.saga at hstep ⊢
  rw [hrecv] at hstep
  dsimp only at hstep
  rw [hinv.receive_eq hrecv] at hstep
  cases hstep
  rcases h.channels with ⟨toReadModels, toSaga, hbus, hbus'⟩
  rw [hbus] at hrecv
  rcases recvAt_one hrecv with ⟨queue, rfl, rfl⟩
  rw [List.filter_cons_of_pos (by simpa using henv)] at hbus'
  have hrecv' : s'.bus.recvAt 1
    = some (env, busOf (toReadModels.filter (fun env => env.tenantId = t))
      (queue.filter (fun env => env.tenantId = t))) := by
    rw [hbus']
    rfl
  rw [hrecv']
  dsimp only
  rw [hinv'.receive_eq hrecv']
  exact ⟨_, rfl, h.store, h.readModels, h.realtime, ⟨toReadModels, queue, rfl, rfl⟩, h.own, h.other⟩

variable [ResponseText] [Rfc3339] [ParseRfc3339] {action : Action}

theorem Mirrors.step (h : Mirrors t s s') (hinv : Inv config s) (hinv' : Inv config s')
    (howns : owns config t s action = true) (hstep : step config s action = some u)
    : ∃ u', Server.step config s' action = some u' ∧ Mirrors t u u' := by
  cases action with
  | advance i => exact h.advance hinv (of_decide_eq_true howns) hstep
  | arrive i authorization now request draws =>
    dsimp only [Server.step, arrive] at hstep ⊢
    split at hstep
    . next hidle =>
      have hnone : s.tenant i ≠ some t := by
        unfold State.tenant
        rw [hinv.admissions_idle hidle]
        simp
      rw [(h.other i hnone).1]
      dsimp only [owns] at howns
      cases hauth : AuthMiddleware.authenticate config.jwt authorization now with
      | none =>
        rw [hauth] at howns
        cases howns
      | some claims =>
        rw [hauth] at howns hstep
        cases hstep
        have hclaims : claims.tenantId = t := Option.some.inj (of_decide_eq_true howns)
        exact ⟨_, rfl, h.enter hclaims _⟩
    . cases hstep
  | project fresh now =>
    cases hrecv : s.bus.recvAt 0 with
    | none =>
      dsimp only [owns] at howns
      rw [hrecv] at howns
      cases howns
    | some received =>
      dsimp only [owns] at howns
      rw [hrecv] at howns
      exact h.project hrecv (Option.some.inj (of_decide_eq_true howns)) hstep
  | saga uuid now =>
    cases hrecv : s.bus.recvAt 1 with
    | none =>
      dsimp only [owns] at howns
      rw [hrecv] at howns
      cases howns
    | some received =>
      dsimp only [owns] at howns
      rw [hrecv] at howns
      exact h.saga hinv hinv' hrecv (Option.some.inj (of_decide_eq_true howns)) hstep

-- Two states of the server, the second one without the other tenants
def Simulates (config : Config) (t : TenantId) (s s' : State) : Prop :=
  Mirrors t s s' ∧ Inv config s ∧ Inv config s'

theorem Simulates.step (h : Simulates config t s s') (howns : owns config t s action = true)
    (hstep : Server.step config s action = some u)
    : ∃ u', Server.step config s' action = some u' ∧ Simulates config t u u' := by
  rcases h with ⟨hmirrors, hinv, hinv'⟩
  rcases hmirrors.step hinv hinv' howns hstep with ⟨u', hstep', hnext⟩
  exact ⟨u', hstep', hnext, inv_steps hinv (steps_of_step hstep),
    inv_steps hinv' (steps_of_step hstep')⟩

end Runs

end Server

namespace Workshop

open Concrete Server

end Workshop
end ForgeErp
