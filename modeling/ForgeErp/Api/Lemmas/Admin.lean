import ForgeErp.Api.Admin
import ForgeErp.Dispatcher.Lemmas.Retry
import ForgeErp.Domain.Lemmas.Users

/-!
This module contains the verification that no sequence of requests gives a user a role that nobody
was entitled to give. A creation is checked by its route and an assignment by the aggregate.
-/

namespace ForgeErp

open CommandDispatcher

namespace Admin

/--
The requests to the routes, each with its actor, and commands that are dispatched without a route.
-/
inductive Request where
  | createUser (tenant : TenantContext) (principal : PrincipalContext) (body : CreateUserRequest)
      (agg : AggregateId) (now : DateTime)
  | assignRole (tenant : TenantContext) (principal : PrincipalContext) (id : String)
      (body : AssignRoleRequest) (now : DateTime)
  | revokeRole (tenant : TenantContext) (principal : PrincipalContext) (id role : String)
      (now : DateTime)
  | suspendUser (tenant : TenantContext) (principal : PrincipalContext) (id : String)
      (body : SuspendUserRequest) (now : DateTime)
  | activateUser (tenant : TenantContext) (principal : PrincipalContext) (id : String)
      (now : DateTime)
  | command (key : StreamKey) (command : UserCommand)

-- Users are created by the route only.
def Request.admissible (self : Request) : Bool :=
  match self with
  | .command _ (.create _) => false
  | _ => true

section Provenance

variable [TextFormat Uuid]

/--
The creation of the user `key` with `role` by somebody who is an administrator or has the role, or
with the role that everybody may give.
-/
def Request.Creates (self : Request) (key : StreamKey) (role : Role) : Prop :=
  match self with
  | .createUser tenant principal body agg _ =>
    key = ⟨tenant.tenantId, agg⟩
    ∧ role.asStr ∈ body.initialRoles.getD []
    ∧ (⟨"admin"⟩ ∈ principal.roles ∨ role ∈ principal.roles ∨ role = ⟨"user"⟩)
  | _ => False

/--
The assignment of `role` to the user `key` by somebody who is an administrator or has the role.
-/
def Request.Assigns (self : Request) (key : StreamKey) (role : Role) : Prop :=
  match self with
  | .assignRole tenant principal id body _ =>
    (∃ uuid, TextFormat.parse id = some uuid ∧ key = ⟨tenant.tenantId, ⟨uuid⟩⟩)
    ∧ role = ⟨body.role⟩
    ∧ (role ∈ principal.roles ∨ ⟨"admin"⟩ ∈ principal.roles)
  | .command key' (.assignRole cmd) =>
    key = key' ∧ role = cmd.role ∧ (role ∈ cmd.actorRoles ∨ ⟨"admin"⟩ ∈ cmd.actorRoles)
  | _ => False

def Granted (accepted : List Request) (key : StreamKey) (role : Role) : Prop :=
  ∃ request ∈ accepted, request.Creates key role ∨ request.Assigns key role

theorem Granted.concat {accepted : List Request} {key : StreamKey} {role : Role}
    (h : Granted accepted key role) (request : Request) : Granted
    (accepted ++ [request]) key role := by
  rcases h with ⟨request', hmem, hgrants⟩
  exact ⟨request', by simp [hmem], hgrants⟩

/--
The command was dispatched for the request, and the roles it may give are those the request may
give.
-/
def Request.Warrants (self : Request) (key : StreamKey) (command : UserCommand) : Prop :=
  match command with
  | .create cmd => ∀ role ∈ cmd.initialRoles, self.Creates key role
  | .assignRole cmd =>
    ⟨"admin"⟩ ∈ cmd.actorRoles ∨ cmd.role ∈ cmd.actorRoles → self.Assigns key cmd.role
  | _ => True

theorem Request.Warrants.roles {request : Request} {key : StreamKey} {user : User}
    {command : UserCommand} {ev : UserEvent} (h : request.Warrants key command)
    (hstep : User.Step user command ev) {role : Role} (hrole : role ∈ (user.apply ev).roles)
    : role ∈ user.roles ∨ request.Creates key role ∨ request.Assigns key role := by
  rw [User.mem_roles_apply] at hrole
  cases hstep with
  | created _ hroles =>
    right
    left
    apply h role
    rw [← hroles]
    exact hrole
  | roleAssigned _ _ _ hassigned hactor =>
    rcases hrole with hrole | rfl
    . exact .inl hrole
    . right
      right
      rw [hassigned]
      apply h hactor
  | roleRevoked => exact .inl hrole.1
  | suspended => exact .inl hrole
  | activated => exact .inl hrole

end Provenance

variable {B : Type} [TextFormat Uuid] [TextFormat DateTime] [Lowercase]

section Site

variable (eventBus : EventBus B (EventEnvelope JsonValue))

def serve (services : Services B) (request : Request) (freshId : Nat → Uuid) : Reply B :=
  match request with
  | .createUser tenant principal body agg now =>
    createUser eventBus services tenant principal body agg now freshId
  | .assignRole tenant principal id body now =>
    assignRole eventBus services tenant principal id body now freshId
  | .revokeRole tenant principal id role now =>
    revokeRole eventBus services tenant principal id role now freshId
  | .suspendUser tenant principal id body now =>
    suspendUser eventBus services tenant principal id body now freshId
  | .activateUser tenant principal id now =>
    activateUser eventBus services tenant principal id now freshId
  | .command key command => dispatchUser eventBus services key command freshId

-- What has been stored is accepted, even if it could not be published.
def taken (result : Except Rejection (List StoredEvent)) : Bool :=
  match result with
  | .ok _ => true
  | .error (.dispatch (.publish _)) => true
  | .error _ => false

structure Site (B : Type) where
  services : Services B
  accepted : List Request

def Site.userAt (self : Site B) (key : StreamKey) : Except DispatchError User :=
  applyHistory User.aggregate (User.blank key) (self.services.store.loadStream key)

def site (bus : B) : Machine (Site B) (Request × (Nat → Uuid)) where
  init s := s = ⟨⟨.new, bus⟩, []⟩
  step s a :=
    if a.1.admissible then
      let (result, services) := serve eventBus s.services a.1 a.2
      some ⟨services, if taken result then s.accepted ++ [a.1] else s.accepted⟩
    else
      none

end Site

/--
Everything a request can do to the store.
-/
inductive Outcome (store : InMemoryEventStore) (request : Request) (freshId : Nat → Uuid)
    : Reply B → Prop where
  | kept {reply : Reply B} :
      reply.2.store = store →
      Outcome store request freshId reply
  | stored {reply : Reply B} {key : StreamKey} {command : UserCommand} {state : User}
      {decided : List UserEvent} {committed : List StoredEvent} :
      request.Warrants key command →
      Decides (userRequest key command) (store.loadStream key) freshId state decided committed →
      reply.2.store = ⟨store.streams.insert key (store.loadStream key ++ committed)⟩ →
      reply.2.store.Reachable →
      taken reply.1 = true →
      Outcome store request freshId reply

variable (eventBus : EventBus B (EventEnvelope JsonValue)) {services : Services B}
  {tenant : TenantContext} {principal : PrincipalContext} {freshId : Nat → Uuid}

theorem dispatchUser_outcome (hstore : services.store.Reachable) {request : Request}
    {key : StreamKey} {command : UserCommand} (hwarrants : request.Warrants key command)
    : Outcome services.store request freshId
        (dispatchUser eventBus services key command freshId) := by
  have hreachable := dispatch_reachable eventBus hstore services.bus
    (userRequest key command) freshId
  have houtcome := dispatch_outcome eventBus hstore.wellFormed services.bus
    (userRequest key command) freshId
  unfold dispatchUser
  generalize dispatch eventBus services.store services.bus (userRequest key command) freshId
    = result
    at houtcome hreachable ⊢
  cases houtcome with
  | failed => exact .kept rfl
  | nothing => exact .kept rfl
  | @stored state decided committed hdecides =>
    refine .stored hwarrants hdecides rfl hreachable ?_
    dsimp only
    generalize hpublished : publishAll eventBus services.bus committed = published
    rcases published with ⟨err | _, bus⟩
    . rcases publishAll_eq_error hpublished with ⟨msg, rfl⟩
      rfl
    . rfl

theorem authorized_outcome (hstore : services.store.Reachable) {request : Request}
    {required : String} {aggregateId : AggregateId} {command : UserCommand}
    (hwarrants : request.Warrants ⟨tenant.tenantId, aggregateId⟩ command)
    : Outcome services.store request freshId
        (authorized eventBus services tenant principal required aggregateId command freshId) := by
  unfold authorized
  split
  . exact .kept rfl
  . apply dispatchUser_outcome eventBus hstore hwarrants

theorem onUser_outcome (hstore : services.store.Reachable) {request : Request}
    {id required : String}
    {command : UserId → UserCommand}
    (hwarrants : ∀ uuid, TextFormat.parse id = some uuid →
      request.Warrants ⟨tenant.tenantId, ⟨uuid⟩⟩ (command ⟨uuid⟩))
    : Outcome services.store request freshId
        (onUser eventBus services tenant principal id required command freshId) := by
  unfold onUser
  split
  . exact .kept rfl
  . next uuid huuid => apply authorized_outcome eventBus hstore (hwarrants uuid huuid)

theorem createUser_outcome (hstore : services.store.Reachable) (body : CreateUserRequest)
    (agg : AggregateId) (now : DateTime)
    : Outcome services.store (.createUser tenant principal body agg now) freshId
        (createUser eventBus services tenant principal body agg now freshId) := by
  unfold createUser
  dsimp only
  split
  . exact .kept rfl
  . next hcheck =>
    apply authorized_outcome eventBus hstore
    intro role hrole
    refine ⟨rfl, ?_, ?_⟩
    . rcases List.mem_map.mp hrole with ⟨name, hname, rfl⟩
      exact hname
    . rw [← User.hasRole_eq_true_iff, ← User.hasRole_eq_true_iff]
      split at hcheck
      . next hadmin => exact .inl hadmin
      . have hpassed := List.find?_eq_none.mp hcheck role hrole
        right
        by_cases hhas : User.hasRole principal.roles role.asStr = true
        . exact .inl hhas
        . right
          rw [← Role.asStr_inj]
          simpa [hhas] using hpassed

theorem serve_outcome (hstore : services.store.Reachable) {request : Request}
    (hadmissible : request.admissible = true)
    : Outcome services.store request freshId (serve eventBus services request freshId) := by
  unfold serve
  cases request with
  | createUser tenant principal body agg now =>
    dsimp only
    apply createUser_outcome eventBus hstore body agg now
  | assignRole tenant principal id body now =>
    dsimp only
    unfold assignRole
    apply onUser_outcome eventBus hstore
    intro uuid huuid hactor
    exact ⟨⟨uuid, huuid, rfl⟩, rfl, hactor.symm⟩
  | revokeRole tenant principal id role now =>
    dsimp only
    unfold revokeRole
    exact onUser_outcome eventBus hstore (fun _ _ => trivial)
  | suspendUser tenant principal id body now =>
    dsimp only
    unfold suspendUser
    exact onUser_outcome eventBus hstore (fun _ _ => trivial)
  | activateUser tenant principal id now =>
    dsimp only
    unfold activateUser
    exact onUser_outcome eventBus hstore (fun _ _ => trivial)
  | command key command =>
    apply dispatchUser_outcome eventBus hstore
    cases command with
    | create cmd => cases hadmissible
    | assignRole cmd =>
      intro hactor
      exact ⟨rfl, rfl, hactor.symm⟩
    | revokeRole cmd => exact trivial
    | suspend cmd => exact trivial
    | activate cmd => exact trivial

structure Recorded (s : Site B) (key : StreamKey) (evs : List UserEvent) : Prop where
  stream : StreamOf (s.services.store.loadStream key) evs
  produced : User.aggregate.Produced (fun _ => True) (User.blank key) evs
  granted : ∀ role ∈ (evs.foldl User.apply (User.blank key)).roles, Granted s.accepted key role

theorem Recorded.userAt_eq {s : Site B} {key : StreamKey} {evs : List UserEvent}
    (h : Recorded s key evs) (hstore : s.services.store.Reachable)
    : s.userAt key = .ok (evs.foldl User.apply (User.blank key)) := by
  have hdecoded := applyHistory_go_of_decodeStream (A := User.aggregate) (User.blank key)
    h.stream.decodeStream_eq
  exact (applyHistory_eq_go (A := User.aggregate) (hstore.wellFormed key) _).trans hdecoded

theorem Recorded.accept {s : Site B} {key : StreamKey} {evs : List UserEvent}
    (h : Recorded s key evs)
    {services : Services B}
    (hstream : services.store.loadStream key = s.services.store.loadStream key) (request : Request)
    (result : Except Rejection (List StoredEvent))
    : Recorded ⟨services, if taken result then s.accepted ++ [request] else s.accepted⟩ key
        evs := by
  refine ⟨?_, h.produced, ?_⟩
  . dsimp only
    rw [hstream]
    exact h.stream
  . intro role hrole
    dsimp only
    split
    . exact (h.granted role hrole).concat request
    . apply h.granted role hrole

theorem Recorded.extend {s : Site B} {key : StreamKey} {evs : List UserEvent}
    (h : Recorded s key evs)
    (hstore : s.services.store.Reachable) {request : Request} {command : UserCommand} {state : User}
    {decided : List UserEvent} {committed : List StoredEvent}
    (hwarrants : request.Warrants key command)
    (hdecides : Decides (userRequest key command) (s.services.store.loadStream key) freshId state
      decided committed)
    {services : Services B}
    (hstream : services.store.loadStream key = s.services.store.loadStream key ++ committed)
    : ∃ ev, User.Step (evs.foldl User.apply (User.blank key)) command ev
        ∧ Recorded ⟨services, s.accepted ++ [request]⟩ key (evs ++ [ev]) := by
  have hstate : evs.foldl User.apply (User.blank key) = state := by
    have := (h.userAt_eq hstore).symm.trans hdecides.applied
    cases this
    rfl
  subst hstate
  rcases User.handle_step hdecides.handle with ⟨ev, rfl, hstep, -⟩
  refine ⟨ev, hstep, ?_, ?_, ?_⟩
  . dsimp only
    rw [hstream]
    apply h.stream.append hdecides.streamOf
  . exact .step command h.produced trivial hdecides.handle
  . intro role hrole
    rw [List.foldl_append] at hrole
    rcases hwarrants.roles hstep hrole with hheld | hgrants
    . exact (h.granted role hheld).concat request
    . exact ⟨request, by simp, hgrants⟩

theorem Outcome.reachable {store : InMemoryEventStore} (hstore : store.Reachable)
    {request : Request}
    {reply : Reply B} (h : Outcome store request freshId reply) : reply.2.store.Reachable := by
  cases h with
  | kept hkept =>
    rw [hkept]
    exact hstore
  | stored _ _ _ hreachable => exact hreachable

theorem Recorded.served {s : Site B} (hstore : s.services.store.Reachable) {key : StreamKey}
    {evs : List UserEvent} (h : Recorded s key evs) {request : Request} {reply : Reply B}
    (houtcome : Outcome s.services.store request freshId reply)
    : ∃ evs', Recorded
          ⟨reply.2, if taken reply.1 then s.accepted ++ [request] else s.accepted⟩ key evs'
        ∧ ((evs.foldl User.apply (User.blank key)).status = .suspended →
            ∀ role ∈ (evs'.foldl User.apply (User.blank key)).roles,
              role ∈ (evs.foldl User.apply (User.blank key)).roles) := by
  cases houtcome with
  | kept hkept =>
    refine ⟨evs, ?_, fun _ _ hrole => hrole⟩
    apply h.accept (by rw [hkept]) request reply.1
  | @stored key' command _ _ committed hwarrants hdecides hstored _ htaken =>
    by_cases hkey : key = key'
    . subst hkey
      have hstream : reply.2.store.loadStream key
          = s.services.store.loadStream key ++ committed := by
        rw [hstored, InMemoryEventStore.loadStream_insert, if_pos rfl]
      rcases h.extend hstore hwarrants hdecides hstream with ⟨ev, hstep, hrecorded⟩
      rw [htaken, if_pos rfl]
      exact ⟨evs ++ [ev], hrecorded, fun hstatus => User.not_enlarged h.produced hstatus hstep⟩
    . refine ⟨evs, h.accept ?_ request reply.1, fun _ _ hrole => hrole⟩
      rw [hstored, InMemoryEventStore.loadStream_insert, if_neg hkey]

structure Inv (s : Site B) : Prop where
  reachable : s.services.store.Reachable
  recorded : ∀ key, ∃ evs, Recorded s key evs

theorem serve_of_step {bus : B} {s s' : Site B} {a : Request × (Nat → Uuid)}
    (hstore : s.services.store.Reachable) (h : (site eventBus bus).step s a = some s')
    : ∃ reply, Outcome s.services.store a.1 a.2 reply
        ∧ s' = ⟨reply.2, if taken reply.1 then s.accepted ++ [a.1] else s.accepted⟩ := by
  dsimp only [site] at h
  split at h
  . next hadmissible =>
    cases h
    exact ⟨serve eventBus s.services a.1 a.2, serve_outcome eventBus hstore hadmissible, rfl⟩
  . cases h

theorem inv_step {bus : B} {s s' : Site B} {a : Request × (Nat → Uuid)} (hs : Inv s)
    (h : (site eventBus bus).step s a = some s') : Inv s' := by
  rcases serve_of_step eventBus hs.reachable h with ⟨reply, houtcome, rfl⟩
  refine ⟨houtcome.reachable hs.reachable, ?_⟩
  intro key
  rcases hs.recorded key with ⟨evs, hrecorded⟩
  rcases hrecorded.served hs.reachable houtcome with ⟨evs', hrecorded', -⟩
  exact ⟨evs', hrecorded'⟩

theorem inv_of_reachable {bus : B} {s : Site B} (hs : (site eventBus bus).Reachable s) : Inv s := by
  apply Machine.Reachable.invariant _ _ s hs
  . rintro _ rfl
    refine ⟨.new, fun key => ⟨[], ?_, .nil, ?_⟩⟩
    . exact .nil
    . intro role hrole
      cases hrole
  . intro s a s' hs h
    apply inv_step eventBus hs h

theorem no_privilege_escalation (bus : B) (s : Site B) (hs : (site eventBus bus).Reachable s)
    (key : StreamKey)
    : ∃ user, s.userAt key = .ok user
        ∧ (∀ role ∈ user.roles, Granted s.accepted key role)
        ∧ (user.status = .suspended → ∀ a s', (site eventBus bus).step s a = some s' →
            ∃ user', s'.userAt key = .ok user' ∧ ∀ role ∈ user'.roles, role ∈ user.roles) := by
  have hinv := inv_of_reachable eventBus hs
  rcases hinv.recorded key with ⟨evs, hrecorded⟩
  refine ⟨_, hrecorded.userAt_eq hinv.reachable, hrecorded.granted, ?_⟩
  intro hstatus a s' h
  rcases serve_of_step eventBus hinv.reachable h with ⟨reply, houtcome, rfl⟩
  rcases hrecorded.served hinv.reachable houtcome with ⟨evs', hrecorded', hroles⟩
  exact ⟨_, hrecorded'.userAt_eq (houtcome.reachable hinv.reachable), hroles hstatus⟩

end Admin

namespace Office

open Concrete Admin

def tenant : TenantContext := ⟨⟨⟨1⟩⟩⟩

def admin : PrincipalContext := ⟨⟨5⟩, [⟨"admin"⟩]⟩

def key : StreamKey := ⟨tenant.tenantId, ⟨⟨2⟩⟩⟩

def requests : List (Request × (Nat → Uuid)) := [
  (.createUser tenant admin ⟨"eve@erp", "Eve", some ["user"]⟩ key.aggregateId ⟨0⟩, fun _ => ⟨10⟩),
  (.command key (.assignRole ⟨key.tenantId, .ofAggregateId key.aggregateId, ⟨"manager"⟩,
    [⟨"manager"⟩], ⟨0⟩⟩), fun _ => ⟨11⟩),
  (.command key (.suspend ⟨key.tenantId, .ofAggregateId key.aggregateId, "left", ⟨0⟩⟩),
    fun _ => ⟨12⟩)]

def offices
    : Machine (Site (InMemoryEventBus (EventEnvelope JsonValue))) (Request × (Nat → Uuid)) :=
  site InMemoryEventBus.toEventBus ⟨[]⟩

def opened : Site (InMemoryEventBus (EventEnvelope JsonValue)) :=
  ⟨⟨.new, ⟨[]⟩⟩, []⟩

def suspended : Site (InMemoryEventBus (EventEnvelope JsonValue)) :=
  (offices.run opened requests).getD opened

theorem suspended_reachable : offices.Reachable suspended := by
  apply Machine.ReachableUnder.run (.init rfl) (fun _ _ _ => trivial)
  exact (rfl : offices.run opened requests = some suspended)

theorem no_privilege_escalation_suspended
    : (suspended.userAt key).toOption.map (fun user => (user.roles, user.status))
        = some ([⟨"user"⟩, ⟨"manager"⟩], .suspended)
      ∧ ∃ user, suspended.userAt key = .ok user
        ∧ (∀ role ∈ user.roles, Granted suspended.accepted key role)
        ∧ (user.status = .suspended → ∀ a s', offices.step suspended a = some s' →
            ∃ user', s'.userAt key = .ok user' ∧ ∀ role ∈ user'.roles, role ∈ user.roles) := by
  refine ⟨rfl, ?_⟩
  apply no_privilege_escalation InMemoryEventBus.toEventBus ⟨[]⟩ suspended suspended_reachable key

end Office

end ForgeErp
