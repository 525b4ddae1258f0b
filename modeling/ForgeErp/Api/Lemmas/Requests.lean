import ForgeErp.Api.Lemmas.Server
import ForgeErp.Domain.Lemmas.Histories

/-!
This module contains the verification of the server under any number of concurrent requests: what it
stores is what its requests would have stored one after the other, each on behalf of somebody who
was let in for it, and a response says how much of a request has been stored.
-/

namespace ForgeErp

theorem validateClaims_eq_ok_iff {claims : JwtClaims} {now : DateTime}
    : validateClaims claims now = .ok ()
        ↔
      claims.issuedAt.nanos ≤ now.nanos ∧ now.nanos < claims.expiresAt.nanos := by
  unfold validateClaims
  split
  . next hwindow =>
    constructor
    . intro h
      cases h
    . omega
  . split
    . next hearly =>
      constructor
      . intro h
        cases h
      . omega
    . split
      . next hlate =>
        constructor
        . intro h
          cases h
        . omega
      . constructor
        . omega
        . intro _
          rfl

-- When a token opens the door
theorem AuthMiddleware.authenticate_eq_some_iff {jwt : Hs256JwtValidator}
    {authorization : Option String}
    {now : DateTime} {claims : JwtClaims}
    : authenticate jwt authorization now = some claims
        ↔
      ∃ token, extractBearer authorization = some token ∧ trimIsEmpty token = false
        ∧ jwt.decode token = .ok claims
        ∧ claims.issuedAt.nanos ≤ now.nanos ∧ now.nanos < claims.expiresAt.nanos := by
  unfold authenticate
  cases hbearer : extractBearer authorization with
  | none => simp
  | some token =>
    simp only [Option.some.injEq, exists_eq_left']
    unfold Hs256JwtValidator.validate
    cases htrim : trimIsEmpty token with
    | true => simp [Except.toOption]
    | false =>
      cases hdecode : jwt.decode token with
      | error e => simp [Except.toOption]
      | ok claims' =>
        simp only [Bool.false_eq_true, ↓reduceIte, true_and, Except.ok.injEq]
        cases hvalid : validateClaims claims' now with
        | error e =>
          constructor
          . intro h
            cases h
          . rintro ⟨rfl, htime⟩
            rw [validateClaims_eq_ok_iff.mpr htime] at hvalid
            cases hvalid
        | ok =>
          constructor
          . intro h
            cases h
            exact ⟨rfl, validateClaims_eq_ok_iff.mp hvalid⟩
          . rintro ⟨rfl, -⟩
            rfl

namespace Server

open Routes (Fits RouteCall)

variable [Lowercase] [TextFormat Uuid] [TextFormat DateTime]

/--
The commands that were stored for a stream, in the order of their appends, are a run of one
aggregate that accepts all of them; the stream is the history of this run. Its events bear the
identifiers of the stream.
-/
structure Linearized (s : State) (key : StreamKey) (kind : AggregateKind)
    (commands : List kind.aggregate.Command) : Prop where
  commands_eq : commandsTo s.commits key = commands.map (Sigma.mk kind)
  batches_eq : batchesTo s.commits key = s.store.loadStream key
  type_eq : ∀ e ∈ s.store.loadStream key, e.aggregateType = kind.aggregateType
  names : ∀ command ∈ commands, kind.idsOf command = (key.tenantId, key.aggregateId)
  accepted :
    (kind.aggregate.run (kind.makeAggregate key.tenantId key.aggregateId) commands).accepted
    = commands
  streamOf : StreamOf (s.store.loadStream key)
    (kind.aggregate.run (kind.makeAggregate key.tenantId key.aggregateId) commands).history
  ids_eq :
    ∀ ev ∈ (kind.aggregate.run (kind.makeAggregate key.tenantId key.aggregateId) commands).history,
      kind.tenantOf ev = key.tenantId ∧ kind.idOf ev = key.aggregateId

theorem Inv.linearized {config : Config} {s : State} (h : Inv config s) (key : StreamKey)
    : ∃ kind commands, Linearized s key kind commands := by
  have hsourced : ∃ (kind : AggregateKind) (commands : List kind.aggregate.Command),
      commandsTo s.commits key = commands.map (Sigma.mk kind)
      ∧ kind.Sourced key (s.store.loadStream key) commands := by
    have hauthentic := h.authentic key
    generalize s.store.loadStream key = stream at hauthentic ⊢
    generalize commandsTo s.commits key = accepted at hauthentic ⊢
    cases hauthentic with
    | nil => exact ⟨.ledger, [], rfl, AggregateKind.Sourced.nil .ledger key⟩
    | of _ hsourced => exact ⟨_, _, rfl, hsourced⟩
  rcases hsourced with ⟨kind, commands, hcommands, hsourced⟩
  exact ⟨kind, commands, hcommands, (h.covered key).symm, hsourced.type_eq, hsourced.names,
    hsourced.accepted, hsourced.streamOf, (AggregateKind.produced_owned hsourced.produced).1⟩

variable [ResponseText] [Rfc3339] [ParseRfc3339]

theorem requests_linearize (config : Config) (s : State) (h : (system config).Reachable s)
    (key : StreamKey)
    : ∃ kind commands, Linearized s key kind commands :=
  (inv_of_reachable h).linearized key

theorem streams_tell_stories (config : Config) (s : State) (h : (system config).Reachable s)
    (key : StreamKey)
    : ∃ (kind : AggregateKind) (evs : List kind.aggregate.Event),
        (∀ e ∈ s.store.loadStream key, e.aggregateType = kind.aggregateType)
        ∧ StreamOf (s.store.loadStream key) evs ∧ kind.Story evs := by
  rcases (inv_of_reachable h).linearized key with ⟨kind, commands, hlinearized⟩
  refine ⟨kind, _, hlinearized.type_eq, hlinearized.streamOf, ?_⟩
  apply AggregateKind.story_of_produced
  exact (@Aggregate.run_produced _ (fun _ => True) _ commands (fun _ _ => trivial)).2

structure Authorized (config : Config) (s : State) (key : StreamKey) (e : StoredEvent) (c : Commit)
    (adm : Admission) : Prop where
  commit : c ∈ s.commits
  event : c.batch = [e]
  key_eq : c.call.key = key
  admission : s.admissions c.session = some adm
  token : ∃ token, AuthMiddleware.extractBearer adm.authorization = some token
    ∧ config.jwt.decode token = .ok adm.claims
  in_time : adm.claims.issuedAt.nanos ≤ adm.now.nanos ∧ adm.now.nanos < adm.claims.expiresAt.nanos
  tenant_eq : adm.claims.tenantId = key.tenantId
  admin : (⟨"admin"⟩ : Role) ∈ adm.claims.roles

theorem stored_events_authorized (config : Config) (s : State) (h : (system config).Reachable s)
    (key : StreamKey) (e : StoredEvent) (he : e ∈ s.store.loadStream key)
    : ∃ c adm, Authorized config s key e c adm := by
  have hinv := inv_of_reachable h
  rw [hinv.covered key] at he
  unfold batchesTo at he
  rw [List.mem_flatMap] at he
  rcases he with ⟨c, hc, hec⟩
  rw [List.mem_filter, decide_eq_true_iff] at hc
  rcases hc with ⟨hc, hkey⟩
  rcases hinv.commits c hc with ⟨⟨adm, hadm, hsends⟩, hone⟩
  rcases List.length_eq_one_iff.mp hone with ⟨e', hbatch⟩
  rw [hbatch, List.mem_singleton] at hec
  rcases AuthMiddleware.authenticate_eq_some_iff.mp (hinv.authenticated hadm) with
    ⟨token, hbearer, -, hdecode, hissued, hexpires⟩
  refine ⟨c, adm, hc, ?_, hkey, hadm, ⟨token, hbearer, hdecode⟩, ⟨hissued, hexpires⟩,
    ?_, hsends.admin⟩
  . rw [hec, hbatch]
  . rw [← hkey]
    exact hsends.tenant_eq.symm

omit [TextFormat Uuid] [TextFormat DateTime] [ResponseText] [Rfc3339] [ParseRfc3339] in
-- The batch that a request is told of
def storedFor (answer : (call : ServiceCall) × call.Answer)
    : Option (DispatchCall × List StoredEvent) :=
  match answer with
  | ⟨.dispatch call, answer⟩ => (Except.toOption answer).map (call, ·)
  | ⟨.read _, _⟩ => none

-- What is left of the handler of a request
def Session.rest (session : Session) : Option Handler :=
  match session with
  | .idle => none
  | .running handler => some handler
  | .loaded call _ next => some (.ask (.dispatch call) next)
  | .decided call _ _ _ next => some (.ask (.dispatch call) next)
  | .publishing committed _ next => some (next (.ok committed))
  | .answered response => some (.done response)

def storedBy (commits : List Commit) (i : Nat) : List (DispatchCall × List StoredEvent) :=
  (batchesOf commits i).map fun c => (c.call, c.batch)

omit [TextFormat Uuid] [TextFormat DateTime] [ResponseText] [Rfc3339] [ParseRfc3339] in
theorem storedBy_concat (commits : List Commit) (c : Commit) (j : Nat)
    : storedBy (commits ++ [c]) j
        =
      if j = c.session then storedBy commits j ++ [(c.call, c.batch)] else storedBy commits j := by
  unfold storedBy
  rw [batchesOf_concat]
  split
  . exact List.map_append
  . rfl

/--
A request has got as far with its handler as the answers to its questions take it, and the batches
that it was told of are those that were stored for it.
-/
def Told (session : Session) (batches : List (DispatchCall × List StoredEvent)) (handler : Handler)
    : Prop :=
  ∃ answers rest, session.rest = some rest ∧ handler.After answers rest
    ∧ answers.filterMap storedFor = batches

def Admission.handler (adm : Admission) (config : Config) (draws : Draws) : Handler :=
  adm.request.handle config.defaultLedgerId adm.claims.tenantContext
    adm.claims.principalContext draws

def AllTold (config : Config) (s : State) : Prop :=
  ∀ i adm, s.admissions i = some adm →
    ∃ draws, Told (s.sessions i) (storedBy s.commits i) (adm.handler config draws)

section Told

variable {config : Config} {s s' : State} {i : Nat} {handler : Handler}
variable {batches : List (DispatchCall × List StoredEvent)} {session session' : Session}

omit [TextFormat Uuid] [TextFormat DateTime] [ResponseText] [Rfc3339] [ParseRfc3339] in
theorem Told.rest (h : Told session batches handler) (hrest : session'.rest = session.rest)
    : Told session' batches handler := by
  rcases h with ⟨answers, rest, hsession, hafter, hbatches⟩
  exact ⟨answers, rest, hrest.trans hsession, hafter, hbatches⟩

omit [TextFormat Uuid] [TextFormat DateTime] [ResponseText] [Rfc3339] [ParseRfc3339] in
theorem Told.answer (h : Told session batches handler) {call : ServiceCall}
    {next : call.Answer → Handler} (hask : session.rest = some (.ask call next))
    {answer : call.Answer} (hnext : session'.rest = some (next answer))
    : Told session' (batches ++ (storedFor ⟨call, answer⟩).toList) handler := by
  rcases h with ⟨answers, rest, hsession, hafter, rfl⟩
  cases hask.symm.trans hsession
  refine ⟨answers ++ [⟨call, answer⟩], next answer, hnext, .answer answer hafter, ?_⟩
  rw [List.filterMap_append]
  rfl

omit [TextFormat Uuid] [TextFormat DateTime] [ResponseText] [Rfc3339] [ParseRfc3339] in
theorem Told.unstored (h : Told session batches handler) {call : ServiceCall}
    {next : call.Answer → Handler} (hask : session.rest = some (.ask call next))
    {answer : call.Answer} (hnext : session'.rest = some (next answer))
    (hnone : storedFor ⟨call, answer⟩ = none)
    : Told session' batches handler := by
  have hanswered := h.answer hask hnext
  rw [hnone, Option.toList_none, List.append_nil] at hanswered
  exact hanswered

-- Only the session `i` moves.
omit [TextFormat Uuid] [TextFormat DateTime] in
theorem AllTold.step [TextFormat Uuid] [TextFormat DateTime] (h : AllTold config s)
    (hadmissions : s'.admissions = s.admissions)
    (hothers : ∀ j, j ≠ i →
      s'.sessions j = s.sessions j ∧ storedBy s'.commits j = storedBy s.commits j)
    (hself : ∀ handler, Told (s.sessions i) (storedBy s.commits i) handler →
      Told (s'.sessions i) (storedBy s'.commits i) handler)
    : AllTold config s' := by
  intro j adm hadm
  rw [hadmissions] at hadm
  rcases h j adm hadm with ⟨draws, htold⟩
  refine ⟨draws, ?_⟩
  by_cases hj : j = i
  . subst hj
    exact hself _ htold
  . rw [(hothers j hj).1, (hothers j hj).2]
    exact htold

theorem AllTold.setSession (h : AllTold config s)
    (hadmissions : s'.admissions = s.admissions) (hcommits : s'.commits = s.commits)
    (hsessions : s'.sessions = s.sessions)
    (hself : ∀ handler, Told (s.sessions i) (storedBy s.commits i) handler →
      Told session (storedBy s.commits i) handler)
    : AllTold config (s'.setSession i session) := by
  refine AllTold.step (i := i) h hadmissions ?_ ?_
  . intro j hj
    rw [State.sessions_setSession, if_neg hj, hsessions]
    exact ⟨rfl, congrArg (storedBy · j) hcommits⟩
  . intro handler htold
    rw [State.sessions_setSession, if_pos rfl]
    exact (congrArg (storedBy · i) hcommits).symm ▸ hself handler htold

theorem AllTold.steps (h : AllTold config s) (hinv : Inv config s) (hsteps : Steps config s s')
    : AllTold config s' := by
  cases hsteps with
  | @refused i hsession =>
    intro j adm hadm
    have hj : j ≠ i := by
      rintro rfl
      rw [State.setSession, hinv.admissions_idle hsession] at hadm
      cases hadm
    rw [State.sessions_setSession, if_neg hj]
    exact h j adm hadm
  | @admitted i adm draws hsession hauth =>
    intro j adm' hadm'
    rw [State.sessions_setSession]
    dsimp only [State.setSession] at hadm' ⊢
    rw [State.admissions_enter] at hadm'
    split at hadm'
    . next hj =>
      cases hadm'
      subst hj
      rw [if_pos rfl]
      refine ⟨draws, [], _, rfl, .start, ?_⟩
      have hnone := hinv.batchesOf_none (hinv.admissions_idle hsession)
      exact (congrArg (List.map fun c : Commit => (c.call, c.batch)) hnone).symm
    . next hj =>
      rw [if_neg hj]
      exact h j adm' hadm'
  | answered hsession =>
    apply h.setSession rfl rfl rfl
    intro handler htold
    exact htold.rest (by rw [hsession]; rfl)
  | read hsession =>
    apply h.setSession rfl rfl rfl
    intro handler htold
    exact htold.unstored (by rw [hsession]; rfl) rfl rfl
  | load hsession =>
    apply h.setSession rfl rfl rfl
    intro handler htold
    exact htold.rest (by rw [hsession]; rfl)
  | @rejected i call history next err hsession =>
    apply h.setSession rfl rfl rfl
    intro handler htold
    rw [hsession] at htold
    have hask : (Session.loaded call history next).rest = some (.ask (.dispatch call) next) := rfl
    exact htold.unstored hask rfl rfl
  | nothing hsession hdecide =>
    exfalso
    apply CommandDispatcher.decideEvents_ne_none _ hdecide
    intro state hnil
    rcases AggregateKind.handle_one hnil with ⟨ev, hev⟩
    cases hev
  | decide hsession =>
    apply h.setSession rfl rfl rfl
    intro handler htold
    exact htold.rest (by rw [hsession]; rfl)
  | @conflicted i call history next us expected err store hsession =>
    apply h.setSession rfl rfl rfl
    intro handler htold
    rw [hsession] at htold
    have hask : (Session.decided call history us expected next).rest
        = some (.ask (.dispatch call) next) := rfl
    exact htold.unstored hask rfl rfl
  | @append i call history next us expected committed store hsession =>
    refine AllTold.step (i := i) h rfl ?_ ?_
    . intro j hj
      refine ⟨if_neg hj, ?_⟩
      exact (storedBy_concat _ _ _).trans (if_neg hj)
    . intro handler htold
      rw [hsession] at htold
      rw [State.sessions_setSession, if_pos rfl]
      have hconcat := (storedBy_concat s.commits ⟨i, call, committed⟩ i).trans (if_pos rfl)
      have hask : (Session.decided call history us expected next).rest
          = some (.ask (.dispatch call) next) := rfl
      have hnext : (Session.publishing committed committed next).rest
          = some (next (.ok committed)) := rfl
      exact hconcat.symm ▸ htold.answer hask hnext
  | published hsession =>
    apply h.setSession rfl rfl rfl
    intro handler htold
    exact htold.rest (by rw [hsession]; rfl)
  | publish hsession =>
    apply h.setSession rfl rfl rfl
    intro handler htold
    exact htold.rest (by rw [hsession]; rfl)
  | project => exact h
  | saga => exact h

end Told

theorem allTold_of_reachable {config : Config} {s : State} (h : (system config).Reachable s)
    : AllTold config s := by
  induction h with
  | init hinit =>
    intro i adm hadm
    rw [hinit] at hadm
    cases hadm
  | step hs _ hstep ih => exact ih.steps (inv_of_reachable hs) (steps_of_step hstep)

/--
The batches that were stored for a request are those of its calls that were answered with them, and
its response is the one of its handler after these answers.
-/
def Accounts (config : Config) (s : State) (i : Nat) (response : HttpResponse) : Prop :=
  (∀ c ∈ batchesOf s.commits i, c.batch.length = 1)
  ∧ ((s.admissions i = none ∧ response.status = 401 ∧ batchesOf s.commits i = [])
    ∨ ∃ adm draws answers, s.admissions i = some adm
      ∧ (adm.handler config draws).After answers (.done response)
      ∧ answers.filterMap storedFor = storedBy s.commits i
      ∧ (response.isSuccess = true → (batchesOf s.commits i).length = adm.request.commands)
      ∧ (response.isSuccess = false →
          batchesOf s.commits i = [] ∨ (batchesOf s.commits i).length < adm.request.commands))

theorem responses_account (config : Config) (s : State) (h : (system config).Reachable s) (i : Nat)
    (response : HttpResponse) (hanswered : s.sessions i = .answered response)
    : Accounts config s i response := by
  have hinv := inv_of_reachable h
  refine ⟨fun c hc => (hinv.commits c (List.mem_of_mem_filter hc)).2, ?_⟩
  have haccounted := hinv.sessions i
  rw [hanswered] at haccounted
  cases hadm : s.admissions i with
  | none =>
    unfold Accounted at haccounted
    rw [hadm] at haccounted
    refine .inl ⟨rfl, ?_, hinv.batchesOf_none hadm⟩
    cases haccounted with
    | inl hidle => cases hidle
    | inr hrefused =>
      cases hrefused
      rfl
  | some adm =>
    have hfits := ((Accounted.of_admission hadm).mp haccounted).2
    rcases allTold_of_reachable h i adm hadm with ⟨draws, answers, rest, hrest, hafter, hstored⟩
    rw [hanswered] at hrest
    cases hrest
    refine .inr ⟨adm, draws, answers, rfl, hafter, hstored, hfits.success, ?_⟩
    intro hfailure
    rw [← List.length_eq_zero_iff]
    exact hfits.failure hfailure

end Server

namespace Workshop

open Concrete Server

scoped instance : FloatJson := ⟨fun _ => "0.5"⟩

scoped instance : ResponseText := ⟨JsonValue.text, fun _ => "PublishFailed"⟩

scoped instance : Rfc3339 := ⟨fun _ => DateTime.epochText⟩

scoped instance : ParseRfc3339 := ⟨fun _ => none⟩

def owner : JwtClaims := ⟨⟨5⟩, ⟨⟨1⟩⟩, [⟨"admin"⟩], ⟨0⟩, ⟨100⟩⟩

def config : Config where
  jwt := ⟨fun token => if token = "owner" then .ok owner else .error "InvalidToken"⟩
  defaultLedgerId := ⟨⟨9⟩⟩

def draws : Draws where
  agg := ⟨⟨2⟩⟩
  entryId := ⟨⟨3⟩⟩
  now _ := ⟨0⟩
  freshId i j := ⟨BitVec.ofNat 128 (10 * i + j)⟩

def key : StreamKey := ⟨⟨⟨1⟩⟩, ⟨⟨2⟩⟩⟩

-- One item is created, and both subscribers are given its event.
def opening : List Action := [
  .arrive 0 (some "Bearer owner") ⟨7⟩ (.createItem ⟨"Bolt"⟩) draws,
  .advance 0, .advance 0, .advance 0, .advance 0, .advance 0, .advance 0,
  .project ⟨⟨0⟩⟩ ⟨0⟩,
  .saga (fun _ _ => ⟨0⟩) (fun _ _ => ⟨0⟩)]

def adjust (i : Nat) (delta : Int64) : Action :=
  .arrive i (some "Bearer owner") ⟨7⟩
    (.adjustStock (TextFormat.print key.aggregateId.asUuid) ⟨delta⟩)
    draws

-- The second of two adjustments is published before the first one.
def racing : List Action :=
  opening ++ [
    adjust 1 5, .advance 1, .advance 1, .advance 1,
    adjust 2 7, .advance 2, .advance 2, .advance 2, .advance 2, .project ⟨⟨0⟩⟩ ⟨0⟩,
    .advance 1, .project ⟨⟨0⟩⟩ ⟨0⟩]

-- Of two that have loaded the same stream, the second one is refused.
def conflicting : List Action :=
  opening ++ [
    adjust 1 5, .advance 1, .advance 1, adjust 2 7, .advance 2, .advance 2,
    .advance 1, .advance 2, .advance 1, .advance 1, .advance 1, .advance 2]

theorem reachable_of_run (actions : List Action) {s : State}
    (h : (system config).run initial actions = some s) : (system config).Reachable s :=
  Machine.ReachableUnder.run (.init rfl) (fun _ _ _ => trivial) h

theorem requests_linearize_racing
    : ∃ s, (system config).run initial racing = some s ∧ (s.store.loadStream key).length = 3
        ∧ ∃ kind commands, Linearized s key kind commands :=
  ⟨_, rfl, rfl, requests_linearize config _ (reachable_of_run racing rfl) key⟩

theorem streams_tell_stories_racing
    : ∃ s, (system config).run initial racing = some s ∧ (s.store.loadStream key).length = 3
        ∧ ∃ (kind : AggregateKind) (evs : List kind.aggregate.Event),
            (∀ e ∈ s.store.loadStream key, e.aggregateType = kind.aggregateType)
            ∧ StreamOf (s.store.loadStream key) evs ∧ kind.Story evs :=
  ⟨_, rfl, rfl, streams_tell_stories config _ (reachable_of_run racing rfl) key⟩

theorem stored_events_authorized_racing
    : ∃ s, (system config).run initial racing = some s
        ∧ ∃ e, (s.store.loadStream key)[2]? = some e ∧ ∃ c adm, Authorized config s key e c adm :=
  ⟨_, rfl, _, rfl,
    stored_events_authorized config _ (reachable_of_run racing rfl) key _
      (List.mem_of_getElem? (i := 2) rfl)⟩

theorem responses_account_conflicting
    : ∃ s, (system config).run initial conflicting = some s
        ∧ (∃ response, s.sessions 1 = .answered response ∧ response.status = 200
          ∧ Accounts config s 1 response)
        ∧ ∃ response, s.sessions 2 = .answered response ∧ response.status = 409
          ∧ Accounts config s 2 response :=
  ⟨_, rfl,
    ⟨_, rfl, rfl, responses_account config _ (reachable_of_run conflicting rfl) 1 _ rfl⟩,
    _, rfl, rfl, responses_account config _ (reachable_of_run conflicting rfl) 2 _ rfl⟩

end Workshop
end ForgeErp
