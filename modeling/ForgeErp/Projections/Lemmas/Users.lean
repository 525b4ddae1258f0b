import ForgeErp.Domain.Lemmas.Users
import ForgeErp.Projections.Impl.Users
import ForgeErp.Projections.Lemmas.Guarded

/-!
This module contains the verification of the users' rows. Delivered once and in order they are those
of the aggregates; an event that is delivered again is applied again, whatever has happened since.
-/

namespace ForgeErp

namespace UsersProjection

variable {self : UsersProjection} {tenantId t : TenantId} {userId u : UserId}

section Rows

theorem get_modify (occurredAt : DateTime) (f : UserReadModel → UserReadModel)
    : (self.modify tenantId userId occurredAt f).get t u
        =
      if t = tenantId ∧ u = userId then
        (self.get t u).map (fun model => { f model with updatedAt := occurredAt })
      else
        self.get t u := by
  unfold modify get
  split
  . next model hmodel =>
    dsimp only
    rw [InMemoryTenantStore.get_upsert]
    split
    . next hsame =>
      rw [hsame.1, hsame.2, hmodel]
      rfl
    . rfl
  . next hnone =>
    split
    . next hsame => rw [hsame.1, hsame.2, hnone, Option.map_none]
    . rfl

theorem get_applyEvent_ne {ev : UserEvent} (h : ¬ (t = tenantId ∧ u = ev.userId))
    : (self.applyEvent tenantId ev).get t u = self.get t u := by
  cases ev with
  | created e =>
    unfold applyEvent applyCreated get
    dsimp only
    rw [InMemoryTenantStore.get_upsert]
    exact if_neg h
  | roleAssigned e => exact (get_modify _ _).trans (if_neg h)
  | roleRevoked e => exact (get_modify _ _).trans (if_neg h)
  | suspended e => exact (get_modify _ _).trans (if_neg h)
  | activated e => exact (get_modify _ _).trans (if_neg h)

theorem get_created {e : UserCreated}
    : (self.applyEvent tenantId (.created e)).get tenantId e.userId
        =
      some {
        userId := e.userId
        tenantId := e.tenantId
        email := e.email
        displayName := e.displayName
        roles := e.initialRoles.map Role.asStr
        status := UserStatus.active.toString
        createdAt := e.occurredAt
        updatedAt := e.occurredAt
      } := by
  unfold applyEvent applyCreated get
  dsimp only
  rw [InMemoryTenantStore.get_upsert]
  exact if_pos ⟨rfl, rfl⟩

theorem get_modify_some {occurredAt : DateTime} {f : UserReadModel → UserReadModel}
    {row : UserReadModel} (h : self.get tenantId userId = some row)
    : (self.modify tenantId userId occurredAt f).get tenantId userId
        =
      some { f row with updatedAt := occurredAt } := by
  rw [get_modify, if_pos ⟨rfl, rfl⟩, h]
  rfl

end Rows

section Exact

def Shows (row : Option UserReadModel) (user : User) : Prop :=
  match row with
  | none => user.created = false
  | some row =>
    user.created = true
    ∧ row.email = user.email
    ∧ row.displayName = user.displayName
    ∧ row.roles = user.roles.map Role.asStr
    ∧ row.status = user.status.toString

theorem Shows.row {user : User} (h : Shows (self.get t u) user) (hcreated : user.created = true)
    : ∃ row, self.get t u = some row ∧ Shows (some row) user := by
  cases hrow : self.get t u with
  | none =>
    rw [hrow] at h
    exact absurd (hcreated.symm.trans h) (by simp)
  | some row =>
    rw [hrow] at h
    exact ⟨row, rfl, h⟩

theorem map_filter_asStr (roles : List Role) (role : Role)
    : (roles.map Role.asStr).filter (· ≠ role.asStr)
        =
      (roles.filter (fun r => r.asStr ≠ role.asStr)).map Role.asStr := by
  rw [List.filter_map]
  rfl

-- A role that is assigned is not among the roles, so that the row takes it up as well.
theorem Shows.step {user : User} {command : UserCommand} {ev : UserEvent}
    (hstep : User.Step user command ev) (h : Shows (self.get t ev.userId) user)
    : Shows ((self.applyEvent t ev).get t ev.userId) (user.apply ev) := by
  cases hstep with
  | created =>
    exact get_created ▸ ⟨rfl, rfl, rfl, rfl, rfl⟩
  | @roleAssigned _ e hcreated _ hnew _ _ =>
    rcases h.row hcreated with ⟨row, hrow, _, hemail, hname, hroles, hstatus⟩
    have hnot : ¬ row.roles.contains e.role.asStr = true := by
      rw [hroles, List.contains_iff_mem, List.mem_map]
      rintro ⟨r, hr, heq⟩
      rcases r with ⟨name⟩
      cases heq
      apply hnew hr
    have hget : (self.applyEvent t (.roleAssigned e)).get t e.userId
        = some { row with roles := row.roles ++ [e.role.asStr], updatedAt := e.occurredAt } := by
      refine (get_modify_some hrow).trans ?_
      rw [if_neg hnot]
    exact hget ▸ ⟨hcreated, hemail, hname,
      by simp [hroles, User.apply, User.applyRoleAssigned], hstatus⟩
  | @roleRevoked _ e hcreated =>
    rcases h.row hcreated with ⟨row, hrow, _, hemail, hname, hroles, hstatus⟩
    have hget := @get_modify_some self t e.userId e.occurredAt
      (fun model => { model with roles := model.roles.filter (· ≠ e.role.asStr) }) row hrow
    refine hget ▸ ⟨hcreated, hemail, hname, ?_, hstatus⟩
    dsimp only
    rw [hroles, map_filter_asStr]
    rfl
  | @suspended _ e hcreated =>
    rcases h.row hcreated with ⟨row, hrow, _, hemail, hname, hroles, _⟩
    have hget := @get_modify_some self t e.userId e.occurredAt
      (fun model => { model with status := UserStatus.suspended.toString }) row hrow
    exact hget ▸ ⟨hcreated, hemail, hname, hroles, rfl⟩
  | @activated _ e hcreated =>
    rcases h.row hcreated with ⟨row, hrow, _, hemail, hname, hroles, _⟩
    have hget := @get_modify_some self t e.userId e.occurredAt
      (fun model => { model with status := UserStatus.active.toString }) row hrow
    exact hget ▸ ⟨hcreated, hemail, hname, hroles, rfl⟩

end Exact

section Delivery

variable [TextFormat Uuid] [TextFormat DateTime]

theorem applyEnvelope_eq {envelope : EventEnvelope JsonValue} {ev : UserEvent}
    (htype : envelope.aggregateType = "auth.user") (hpayload : Codec.dec envelope.payload = .ok ev)
    : self.applyEnvelope envelope = (.ok (), self.applyEvent envelope.tenantId ev) := by
  unfold applyEnvelope
  rw [htype, hpayload]
  exact if_neg (by decide)

theorem deliver_concat (envelopes : List (EventEnvelope JsonValue))
    (envelope : EventEnvelope JsonValue)
    : self.deliver (envelopes ++ [envelope])
        =
      ((self.deliver envelopes).applyEnvelope envelope).2 := by
  simp [deliver]

variable [Lowercase]

theorem row_follows_user (key : StreamKey) (commands : List UserCommand)
    (hids : ∀ command ∈ commands,
      command.tenantId = key.tenantId ∧ command.userId = .ofAggregateId key.aggregateId)
    (stream : List StoredEvent) (hwf : InMemoryEventStore.WellFormedStream key stream)
    (htyped : StreamOf stream (User.historyOf key commands))
    (htype : ∀ e ∈ stream, e.aggregateType = "auth.user") (n : Nat)
    : Shows ((new.deliver ((stream.take n).map StoredEvent.toEnvelope)).get key.tenantId
          (.ofAggregateId key.aggregateId))
        (((User.historyOf key commands).take n).foldl User.apply (User.blank key)) := by
  induction n with
  | zero => rfl
  | succ n ih =>
    rw [List.take_add_one, List.take_add_one, List.map_append, List.foldl_append]
    cases he : stream[n]? with
    | none =>
      have hnone : (User.historyOf key commands)[n]? = none := by
        rw [List.getElem?_eq_none_iff] at he ⊢
        rw [← htyped.length_eq]
        exact he
      rw [hnone]
      simpa using ih
    | some e =>
      rcases htyped.getElem? he with ⟨ev, hev, hdec⟩
      have hmem := List.mem_of_getElem? he
      rcases User.historyOf_step hids n ev hev with ⟨command, hstep, htenant, hid⟩
      have happly := @applyEnvelope_eq (new.deliver ((stream.take n).map StoredEvent.toEnvelope))
        _ _ e.toEnvelope ev (htype e hmem) hdec
      have hkey : e.toEnvelope.tenantId = key.tenantId :=
        congrArg StreamKey.tenantId (hwf.key_eq e hmem)
      have hdeliver := @deliver_concat new _ _ ((stream.take n).map StoredEvent.toEnvelope)
        e.toEnvelope
      rw [hev, Option.toList_some, Option.toList_some, List.map_singleton, hdeliver, happly, hkey]
      rw [← hid] at ih ⊢
      apply ih.step hstep

end Delivery

end UsersProjection

namespace Staff

open Concrete

def key : StreamKey := ⟨⟨⟨1⟩⟩, ⟨⟨2⟩⟩⟩

def userId : UserId := .ofAggregateId key.aggregateId

def create : UserCommand :=
  .create ⟨key.tenantId, userId, "eve@erp", "Eve", [⟨"user"⟩, ⟨"user"⟩], ⟨0⟩⟩

def assign : UserCommand :=
  .assignRole ⟨key.tenantId, userId, ⟨"manager"⟩, [⟨"admin"⟩], ⟨0⟩⟩

def revoke : UserCommand :=
  .revokeRole ⟨key.tenantId, userId, ⟨"manager"⟩, ⟨0⟩⟩

-- The role cannot be assigned twice.
def commands : List UserCommand :=
  [create, assign, assign, revoke]

theorem commands_ids
    : ∀ command ∈ commands,
        command.tenantId = key.tenantId ∧ command.userId = .ofAggregateId key.aggregateId := by
  simp [commands, create, assign, revoke, UserCommand.tenantId, UserCommand.userId, userId]

def stream : List StoredEvent :=
  recorded "auth.user" key 1 (User.historyOf key commands)

theorem row_follows_user_staff
    : (User.historyOf key commands).length = 3
      ∧ UsersProjection.Shows
          ((UsersProjection.new.deliver ((stream.take 3).map StoredEvent.toEnvelope)).get
            key.tenantId userId)
          (((User.historyOf key commands).take 3).foldl User.apply (User.blank key)) := by
  refine ⟨by decide, ?_⟩
  apply UsersProjection.row_follows_user key commands commands_ids stream
  . apply wellFormed_recorded "auth.user" key (User.historyOf key commands)
  . apply streamOf_recorded "auth.user" key 1 (User.historyOf key commands)
  . exact fun e he => (mem_recorded he).2

end Staff

end ForgeErp
