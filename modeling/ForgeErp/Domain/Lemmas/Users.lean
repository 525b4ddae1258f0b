import ForgeErp.Domain.Lemmas.Decisions
import ForgeErp.Domain.Runs
import ForgeErp.EventStore.Basic

/-!
This module contains users over any sequence of commands. Roles are unchecked when a user is created
and may be repeated there; a role that is assigned later is a new one.
-/

namespace ForgeErp

namespace UserCommand

def tenantId (self : UserCommand) : TenantId :=
  match self with
  | .create cmd => cmd.tenantId
  | .assignRole cmd => cmd.tenantId
  | .revokeRole cmd => cmd.tenantId
  | .suspend cmd => cmd.tenantId
  | .activate cmd => cmd.tenantId

def userId (self : UserCommand) : UserId :=
  match self with
  | .create cmd => cmd.userId
  | .assignRole cmd => cmd.userId
  | .revokeRole cmd => cmd.userId
  | .suspend cmd => cmd.userId
  | .activate cmd => cmd.userId

end UserCommand

theorem Role.asStr_inj {role role' : Role} : role.asStr = role'.asStr ↔ role = role' := by
  rcases role with ⟨name⟩
  rcases role' with ⟨name'⟩
  simp

def UserEvent.Held (event : UserEvent) (before : Prop) (role : Role) : Prop :=
  match event with
  | .created e => role ∈ e.initialRoles
  | .roleAssigned e => before ∨ role = e.role
  | .roleRevoked e => before ∧ role ≠ e.role
  | .suspended _ => before
  | .activated _ => before

namespace User

theorem mem_roles_apply (user : User) (ev : UserEvent) (role : Role)
    : role ∈ (user.apply ev).roles ↔ ev.Held (role ∈ user.roles) role := by
  cases ev with
  | created e => rfl
  | roleAssigned e => simp [User.apply, User.applyRoleAssigned, UserEvent.Held]
  | roleRevoked e => simp [User.apply, User.applyRoleRevoked, UserEvent.Held, Role.asStr_inj]
  | suspended e => rfl
  | activated e => rfl

theorem hasRole_eq_true_iff {roles : List Role} {role : Role}
    : hasRole roles role.asStr = true ↔ role ∈ roles := by
  unfold hasRole
  rw [List.any_eq_true]
  constructor
  . rintro ⟨r, hr, heq⟩
    rw [beq_iff_eq] at heq
    rcases r with ⟨name⟩
    rcases role with ⟨name'⟩
    cases heq
    exact hr
  . intro hmem
    exact ⟨role, hmem, by simp⟩

inductive Step (user : User) : UserCommand → UserEvent → Prop where
  | created {cmd : CreateUser} {e : UserCreated} :
      user.created = false →
      e.initialRoles = cmd.initialRoles →
      Step user (.create cmd) (.created e)
  | roleAssigned {cmd : AssignRole} {e : RoleAssigned} :
      user.created = true →
      user.status = .active →
      e.role ∉ user.roles →
      e.role = cmd.role →
      (⟨"admin"⟩ ∈ cmd.actorRoles ∨ cmd.role ∈ cmd.actorRoles) →
      Step user (.assignRole cmd) (.roleAssigned e)
  | roleRevoked {cmd : RevokeRole} {e : RoleRevoked} :
      user.created = true →
      Step user (.revokeRole cmd) (.roleRevoked e)
  | suspended {cmd : SuspendUser} {e : UserSuspended} :
      user.created = true →
      Step user (.suspend cmd) (.suspended e)
  | activated {cmd : ActivateUser} {e : UserActivated} :
      user.created = true →
      Step user (.activate cmd) (.activated e)

theorem Step.created_apply {user : User} {command : UserCommand} {ev : UserEvent}
    (h : Step user command ev) : (user.apply ev).created = true := by
  cases h with
  | created => rfl
  | roleAssigned hcreated => exact hcreated
  | roleRevoked hcreated => exact hcreated
  | suspended hcreated => exact hcreated
  | activated hcreated => exact hcreated

theorem created_foldl {user : User} (h : user.created = true) (evs : List UserEvent)
    : (evs.foldl apply user).created = true := by
  induction evs generalizing user with
  | nil => exact h
  | cons ev evs ih =>
    apply ih
    cases ev with
    | created e => rfl
    | roleAssigned e => exact h
    | roleRevoked e => exact h
    | suspended e => exact h
    | activated e => exact h

theorem Step.created_of_other {user : User} {command : UserCommand} {ev : UserEvent}
    (h : Step user command ev) (hother : ∀ e, ev ≠ .created e) : user.created = true := by
  cases h with
  | @created _ e => exact absurd rfl (hother e)
  | roleAssigned hcreated => exact hcreated
  | roleRevoked hcreated => exact hcreated
  | suspended hcreated => exact hcreated
  | activated hcreated => exact hcreated

variable [Lowercase]

theorem handle_step {user : User} {command : UserCommand} {decided : List UserEvent}
    (h : user.handle command = .ok decided)
    : ∃ ev, decided = [ev] ∧ Step user command ev ∧ ev.tenantId = command.tenantId
        ∧ ev.userId = command.userId := by
  cases command with
  | create cmd =>
    rcases handleCreate_eq_ok_iff.mp h with ⟨hcreated, _, _, rfl⟩
    exact ⟨_, rfl, .created hcreated rfl, rfl, rfl⟩
  | assignRole cmd =>
    rcases handleAssignRole_eq_ok_iff.mp h with ⟨hcreated, _, hstatus, hnew, hactor, rfl⟩
    refine ⟨_, rfl, .roleAssigned hcreated ?_ ?_ rfl ?_, rfl, rfl⟩
    . cases hactive : user.status with
      | active => rfl
      | suspended => exact absurd hactive hstatus
    . rw [← hasRole_eq_true_iff, hnew]
      simp
    . rw [← hasRole_eq_true_iff, ← hasRole_eq_true_iff]
      exact hactor
  | revokeRole cmd =>
    rcases handleRevokeRole_eq_ok_iff.mp h with ⟨hcreated, _, _, rfl⟩
    exact ⟨_, rfl, .roleRevoked hcreated, rfl, rfl⟩
  | suspend cmd =>
    rcases handleSuspend_eq_ok_iff.mp h with ⟨hcreated, _, _, rfl⟩
    exact ⟨_, rfl, .suspended hcreated, rfl, rfl⟩
  | activate cmd =>
    rcases handleActivate_eq_ok_iff.mp h with ⟨hcreated, _, _, rfl⟩
    exact ⟨_, rfl, .activated hcreated, rfl, rfl⟩

-- The route handlers start from `User::new` with the identifiers of the stream.
def blank (key : StreamKey) : User :=
  new key.tenantId (.ofAggregateId key.aggregateId)

def stateOf (key : StreamKey) (commands : List UserCommand) : User :=
  (aggregate.run (blank key) commands).state

def historyOf (key : StreamKey) (commands : List UserCommand) : List UserEvent :=
  (aggregate.run (blank key) commands).history

theorem steps_of_produced {key : StreamKey} {ok : UserCommand → Prop} {evs : List UserEvent}
    (h : aggregate.Produced ok (blank key) evs)
    : ∀ n ev, evs[n]? = some ev → ∃ command, ok command
        ∧ Step ((evs.take n).foldl apply (blank key)) command ev
        ∧ ev.tenantId = command.tenantId ∧ ev.userId = command.userId :=
  @Aggregate.Produced.steps aggregate (fun user command ev => Step user command ev
    ∧ UserEvent.tenantId ev = UserCommand.tenantId command
    ∧ UserEvent.userId ev = UserCommand.userId command) ok _ evs h (fun _ _ _ => handle_step)

theorem created_take {key : StreamKey} {ok : UserCommand → Prop} {evs : List UserEvent}
    (h : aggregate.Produced ok (blank key) evs) {n : Nat} (hpos : 1 ≤ n) (hne : evs ≠ [])
    : ((evs.take n).foldl apply (blank key)).created = true := by
  cases evs with
  | nil => exact absurd rfl hne
  | cons ev evs =>
    rcases steps_of_produced h 0 ev rfl with ⟨command, _, hstep, _⟩
    rw [← Nat.sub_add_cancel hpos, List.take_succ_cons, List.foldl_cons]
    apply created_foldl hstep.created_apply _

theorem created_of_suspended {key : StreamKey} {ok : UserCommand → Prop} {evs : List UserEvent}
    (h : aggregate.Produced ok (blank key) evs)
    (hstatus : (evs.foldl apply (blank key)).status = .suspended)
    : (evs.foldl apply (blank key)).created = true := by
  by_cases hne : evs = []
  . rw [hne] at hstatus
    cases hstatus
  . have hcreated := created_take h (List.length_pos_iff.mpr hne) hne
    rw [List.take_length] at hcreated
    exact hcreated

theorem not_enlarged {key : StreamKey} {ok : UserCommand → Prop} {evs : List UserEvent}
    (h : aggregate.Produced ok (blank key) evs)
    (hstatus : (evs.foldl apply (blank key)).status = .suspended) {command : UserCommand}
    {ev : UserEvent} (hstep : Step (evs.foldl apply (blank key)) command ev)
    : ∀ role ∈ ((evs ++ [ev]).foldl apply (blank key)).roles,
        role ∈ (evs.foldl apply (blank key)).roles := by
  have hcreated := created_of_suspended h hstatus
  intro role hrole
  rw [List.foldl_append, List.foldl_cons, List.foldl_nil, mem_roles_apply] at hrole
  cases hstep with
  | created hnew =>
    rw [hcreated] at hnew
    cases hnew
  | roleAssigned _ hactive =>
    rw [hstatus] at hactive
    cases hactive
  | roleRevoked => exact hrole.1
  | suspended => exact hrole
  | activated => exact hrole

theorem historyOf_step {key : StreamKey} {commands : List UserCommand}
    (hids : ∀ command ∈ commands,
      command.tenantId = key.tenantId ∧ command.userId = .ofAggregateId key.aggregateId)
    : ∀ n ev, (historyOf key commands)[n]? = some ev → ∃ command,
        Step (((historyOf key commands).take n).foldl apply (blank key)) command ev
        ∧ ev.tenantId = key.tenantId ∧ ev.userId = .ofAggregateId key.aggregateId := by
  intro n ev hev
  have hproduced := (@Aggregate.run_produced aggregate _ (blank key) commands hids).2
  rcases steps_of_produced hproduced n ev hev with ⟨command, hok, hstep, htenant, hid⟩
  exact ⟨command, hstep, htenant.trans hok.1, hid.trans hok.2⟩

end User

end ForgeErp
