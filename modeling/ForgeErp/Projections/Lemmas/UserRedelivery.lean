import ForgeErp.Projections.Lemmas.Users

/-!
This module contains the users' rows when events are delivered again. The projection has no cursor
that would keep them out: the rows stay right as long as every repeated event only says what is the
case anyway.
-/

namespace ForgeErp

namespace UsersProjection

def Resembles (row : Option UserReadModel) (user : User) : Prop :=
  match row with
  | none => user.created = false
  | some row =>
    user.created = true
    ∧ (∀ role : Role, role.asStr ∈ row.roles ↔ role ∈ user.roles)
    ∧ row.status = user.status.toString

/--
What the event says is the case already.
-/
def Repeatable (user : User) (event : UserEvent) : Prop :=
  match event with
  | .created e => user.status = .active ∧ ∀ role, role ∈ e.initialRoles ↔ role ∈ user.roles
  | .roleAssigned e => e.role ∈ user.roles
  | .roleRevoked e => e.role ∉ user.roles
  | .suspended _ => user.status = .suspended
  | .activated _ => user.status = .active

section Rows

variable {self : UsersProjection} {t : TenantId} {u : UserId} {user : User}

theorem Resembles.row (h : Resembles (self.get t u) user) (hcreated : user.created = true)
    : ∃ row, self.get t u = some row ∧ Resembles (some row) user := by
  cases hrow : self.get t u with
  | none =>
    rw [hrow] at h
    exact absurd (hcreated.symm.trans h) (by simp)
  | some row =>
    rw [hrow] at h
    exact ⟨row, rfl, h⟩

theorem mem_map_asStr {roles : List Role} {role : Role}
    : role.asStr ∈ roles.map Role.asStr ↔ role ∈ roles := by
  rw [List.mem_map]
  constructor
  . rintro ⟨r, hr, heq⟩
    rcases r with ⟨name⟩
    cases heq
    exact hr
  . intro hrole
    exact ⟨role, hrole, rfl⟩

theorem toString_inj {status status' : UserStatus}
    : status.toString = status'.toString ↔ status = status' := by
  cases status <;> cases status' <;> simp [UserStatus.toString]

def statusBehind (event : UserEvent) (before : UserStatus) : UserStatus :=
  match event with
  | .created _ => .active
  | .roleAssigned _ => before
  | .roleRevoked _ => before
  | .suspended _ => .suspended
  | .activated _ => .active

theorem status_apply (user : User) (ev : UserEvent)
    : (user.apply ev).status = statusBehind ev user.status := by
  cases ev with
  | created e => rfl
  | roleAssigned e => rfl
  | roleRevoked e => rfl
  | suspended e => rfl
  | activated e => rfl

theorem row_applyEvent {ev : UserEvent} (h : Resembles (self.get t ev.userId) user)
    (hcreated : (∀ e, ev ≠ .created e) → user.created = true)
    : ∃ row, (self.applyEvent t ev).get t ev.userId = some row
        ∧ (∀ role : Role, role.asStr ∈ row.roles ↔ ev.Held (role ∈ user.roles) role)
        ∧ row.status = (statusBehind ev user.status).toString := by
  cases ev with
  | created e => exact ⟨_, get_created, fun role => mem_map_asStr, rfl⟩
  | roleAssigned e =>
    rcases h.row (hcreated (by simp)) with ⟨row, hrow, _, hroles, hstatus⟩
    refine ⟨_, get_modify_some hrow, ?_, ?_⟩
    . intro role
      dsimp only [UserEvent.Held]
      rw [← hroles role]
      split
      . next hcontains =>
        rw [List.contains_iff_mem] at hcontains
        constructor
        . apply Or.inl
        . rintro (hrole | rfl)
          . exact hrole
          . exact hcontains
      . rw [List.mem_append, List.mem_singleton, Role.asStr_inj]
    . dsimp only [statusBehind]
      rw [← hstatus]
      split <;> rfl
  | roleRevoked e =>
    rcases h.row (hcreated (by simp)) with ⟨row, hrow, _, hroles, hstatus⟩
    refine ⟨_, get_modify_some hrow, ?_, hstatus⟩
    intro role
    dsimp only [UserEvent.Held]
    rw [List.mem_filter, hroles role, decide_eq_true_eq, ne_eq, Role.asStr_inj]
  | suspended e =>
    rcases h.row (hcreated (by simp)) with ⟨row, hrow, _, hroles, _⟩
    exact ⟨_, get_modify_some hrow, hroles, rfl⟩
  | activated e =>
    rcases h.row (hcreated (by simp)) with ⟨row, hrow, _, hroles, _⟩
    exact ⟨_, get_modify_some hrow, hroles, rfl⟩

theorem repeatable_iff {ev : UserEvent}
    : Repeatable user ev
        ↔
      (∀ role, ev.Held (role ∈ user.roles) role ↔ role ∈ user.roles)
      ∧ statusBehind ev user.status = user.status := by
  cases ev with
  | created e =>
    dsimp only [Repeatable, UserEvent.Held, statusBehind]
    rw [and_comm]
    apply and_congr Iff.rfl eq_comm
  | roleAssigned e =>
    dsimp only [Repeatable, UserEvent.Held, statusBehind]
    constructor
    . intro hheld
      refine ⟨fun role => or_iff_left_of_imp ?_, rfl⟩
      rintro rfl
      exact hheld
    . intro h
      exact (h.1 e.role).mp (Or.inr rfl)
  | roleRevoked e =>
    dsimp only [Repeatable, UserEvent.Held, statusBehind]
    constructor
    . intro hnot
      refine ⟨fun role => and_iff_left_of_imp ?_, rfl⟩
      rintro hrole rfl
      apply hnot hrole
    . intro h hheld
      exact ((h.1 e.role).mpr hheld).2 rfl
  | suspended e => simp [Repeatable, UserEvent.Held, statusBehind, eq_comm]
  | activated e => simp [Repeatable, UserEvent.Held, statusBehind, eq_comm]

theorem Resembles.first {command : UserCommand} {ev : UserEvent} (hstep : User.Step user command ev)
    (h : Resembles (self.get t ev.userId) user)
    : Resembles ((self.applyEvent t ev).get t ev.userId) (user.apply ev) := by
  rcases row_applyEvent h (fun hother => hstep.created_of_other hother)
      with ⟨row, hrow, hroles, hstatus⟩
  rw [hrow]
  refine ⟨hstep.created_apply, ?_, ?_⟩
  . intro role
    rw [User.mem_roles_apply]
    apply hroles role
  . rw [status_apply]
    exact hstatus

theorem resembles_again_iff {ev : UserEvent} (h : Resembles (self.get t ev.userId) user)
    (hcreated : user.created = true)
    : Resembles ((self.applyEvent t ev).get t ev.userId) user ↔ Repeatable user ev := by
  rcases row_applyEvent h (fun _ => hcreated) with ⟨row, hrow, hroles, hstatus⟩
  rw [hrow, repeatable_iff]
  unfold Resembles
  simp only [hcreated, hroles, hstatus, toString_inj, true_and]

end Rows

section Runs

def seen (key : StreamKey) (ds : List StoredEvent) : Nat :=
  ds.foldl (fun n e => if e.key = key then max n e.sequenceNumber else n) 0

theorem seen_concat (key : StreamKey) (ds : List StoredEvent) (e : StoredEvent)
    : seen key (ds ++ [e])
        =
      if e.key = key then max (seen key ds) e.sequenceNumber else seen key ds := by
  simp [seen]

/--
Every event is first delivered behind those that come before it in its stream, and may be delivered
again at any later time.
-/
def FirstInOrder (log : List StoredEvent) (ds : List StoredEvent) : Prop :=
  ∀ pre e post, ds = pre ++ e :: post → e ∈ log ∧ e.sequenceNumber ≤ seen e.key pre + 1

theorem firstInOrder_nil (log : List StoredEvent) : FirstInOrder log [] := by
  intro pre e post heq
  simp at heq

theorem FirstInOrder.concat {log ds : List StoredEvent} {e : StoredEvent} (h : FirstInOrder log ds)
    (he : e ∈ log) (hle : e.sequenceNumber ≤ seen e.key ds + 1) : FirstInOrder log (ds ++ [e]) := by
  intro pre e' post heq
  rcases split_concat heq with ⟨rfl, rfl⟩ | ⟨post', hsplit⟩
  . exact ⟨he, hle⟩
  . apply h pre e' post' hsplit

variable [TextFormat Uuid] [TextFormat DateTime]

def UserLog [Lowercase] (log : List StoredEvent) : Prop :=
  ProducedLog (E := UserEvent) (fun key evs =>
    User.aggregate.Produced (fun command : UserCommand =>
        command.tenantId = key.tenantId ∧ command.userId = .ofAggregateId key.aggregateId)
      (User.blank key) evs) log

def userOf (log : List StoredEvent) (key : StreamKey) (ds : List StoredEvent) : User :=
  ((eventsIn UserEvent log key).take (seen key ds)).foldl User.apply (User.blank key)

def rowOf (key : StreamKey) (ds : List StoredEvent) : Option UserReadModel :=
  (new.deliver (ds.map StoredEvent.toEnvelope)).get key.tenantId (.ofAggregateId key.aggregateId)

def Agrees (log : List StoredEvent) (ds : List StoredEvent) : Prop :=
  ∀ key, Resembles (rowOf key ds) (userOf log key ds)

variable {log ds : List StoredEvent} {e : StoredEvent} {ev : UserEvent}

theorem rowOf_concat_self (htype : e.aggregateType = "auth.user")
    (hdec : Codec.dec e.payload = .ok ev) (hid : ev.userId = .ofAggregateId e.key.aggregateId)
    : rowOf e.key (ds ++ [e])
        =
      ((new.deliver (ds.map StoredEvent.toEnvelope)).applyEvent e.tenantId ev).get e.tenantId
        ev.userId := by
  unfold rowOf
  rw [List.map_append, List.map_singleton, deliver_concat,
    @applyEnvelope_eq _ _ _ e.toEnvelope ev htype hdec, hid]
  rfl

theorem rowOf_concat_ne {key : StreamKey} (htype : e.aggregateType = "auth.user")
    (hdec : Codec.dec e.payload = .ok ev) (hid : ev.userId = .ofAggregateId e.key.aggregateId)
    (hne : e.key ≠ key) : rowOf key (ds ++ [e]) = rowOf key ds := by
  unfold rowOf
  rw [List.map_append, List.map_singleton, deliver_concat,
    @applyEnvelope_eq _ _ _ e.toEnvelope ev htype hdec]
  apply get_applyEvent_ne
  rintro ⟨htenant, huser⟩
  apply hne
  rw [hid] at huser
  rcases key with ⟨t, ⟨a⟩⟩
  have htenant : t = e.tenantId := htenant
  have huser : a = e.aggregateId.asUuid := congrArg UserId.asUuid huser
  rw [htenant, huser]
  rfl

theorem userOf_concat_ne {key : StreamKey} (hne : e.key ≠ key)
    : userOf log key (ds ++ [e]) = userOf log key ds := by
  unfold userOf
  rw [seen_concat, if_neg hne]

theorem userOf_concat_again (hagain : e.sequenceNumber ≤ seen e.key ds)
    : userOf log e.key (ds ++ [e]) = userOf log e.key ds := by
  unfold userOf
  rw [seen_concat, if_pos rfl, Nat.max_eq_left hagain]

theorem userOf_concat_next (hnext : e.sequenceNumber = seen e.key ds + 1)
    (hev : (eventsIn UserEvent log e.key)[seen e.key ds]? = some ev)
    : userOf log e.key (ds ++ [e]) = (userOf log e.key ds).apply ev := by
  unfold userOf
  rw [seen_concat, if_pos rfl, Nat.max_eq_right (by omega), hnext, List.take_add_one, hev,
    List.foldl_append]
  rfl

variable [Lowercase]

theorem agrees_concat_iff (hlog : UserLog log) (htype : ∀ e ∈ log, e.aggregateType = "auth.user")
    (h : Agrees log ds) (he : e ∈ log) (hle : e.sequenceNumber ≤ seen e.key ds + 1)
    (hdec : Codec.dec e.payload = .ok ev)
    : Agrees log (ds ++ [e])
        ↔
      (e.sequenceNumber ≤ seen e.key ds → Repeatable (userOf log e.key ds) ev) := by
  rcases ProducedLog.event hlog he with ⟨ev', hpos, hev, hdec'⟩
  rw [hdec] at hdec'
  cases hdec'
  rcases User.steps_of_produced (ProducedLog.events hlog e.key).1 _ ev hev
    with ⟨command, hok, hstep, _, hid⟩
  have hid : ev.userId = .ofAggregateId e.key.aggregateId := hid.trans hok.2
  have hother : ∀ key, e.key ≠ key →
      Resembles (rowOf key (ds ++ [e])) (userOf log key (ds ++ [e])) := by
    intro key hne
    rw [rowOf_concat_ne (htype e he) hdec hid hne, userOf_concat_ne hne]
    apply h key
  have hagrees : Agrees log (ds ++ [e])
      ↔ Resembles (rowOf e.key (ds ++ [e])) (userOf log e.key (ds ++ [e])) := by
    constructor
    . exact fun h => h e.key
    . intro hself key
      by_cases hkey : e.key = key
      . apply hkey ▸ hself
      . apply hother key hkey
  have hbefore := h e.key
  unfold rowOf at hbefore
  rw [← hid] at hbefore
  rw [hagrees, rowOf_concat_self (htype e he) hdec hid]
  by_cases hagain : e.sequenceNumber ≤ seen e.key ds
  . have hcreated : (userOf log e.key ds).created = true := by
      apply User.created_take (ProducedLog.events hlog e.key).1
      . omega
      . intro hnil
        rw [hnil] at hev
        cases hev
    rw [userOf_concat_again hagain]
    exact (resembles_again_iff hbefore hcreated).trans (by simp [hagain])
  . have hnext : e.sequenceNumber - 1 = seen e.key ds := by omega
    rw [hnext] at hstep hev
    rw [userOf_concat_next (by omega) hev]
    apply iff_of_true (hbefore.first hstep) (fun hle => absurd hle hagain)

-- Rows that are right after every delivery are so because every repeated event was repeatable.
theorem rows_agree_iff_repeats_repeatable (hlog : UserLog log)
    (htype : ∀ e ∈ log, e.aggregateType = "auth.user") (hds : FirstInOrder log ds)
    : (∀ pre post, ds = pre ++ post → Agrees log pre)
        ↔
      (∀ pre e post, ds = pre ++ e :: post → e.sequenceNumber ≤ seen e.key pre →
        ∀ ev, Codec.dec e.payload = .ok ev → Repeatable (userOf log e.key pre) ev) := by
  constructor
  . intro h pre e post hsplit hagain ev hdec
    rcases hds pre e post hsplit with ⟨he, hle⟩
    have hafter : Agrees log (pre ++ [e]) := h (pre ++ [e]) post (by simp [hsplit])
    exact (agrees_concat_iff hlog htype (h pre _ hsplit) he hle hdec).mp hafter hagain
  . intro h pre post hsplit
    induction pre using List.reverseRecOn generalizing post with
    | nil => exact fun key => rfl
    | append_singleton pre e ih =>
      have hsplit' : ds = pre ++ e :: post := by simp [hsplit]
      rcases hds pre e post hsplit' with ⟨he, hle⟩
      rcases ProducedLog.event hlog he with ⟨ev, _, _, hdec⟩
      rw [agrees_concat_iff hlog htype (ih _ hsplit') he hle hdec]
      exact fun hagain => h pre e post hsplit' hagain ev hdec

end Runs

end UsersProjection

namespace Staff

open Concrete UsersProjection

def log : List StoredEvent :=
  recordedLog "auth.user" [(key, User.historyOf key commands)]

theorem log_produced : UserLog log := by
  apply producedLog_recordedLog (by simp)
  . intro s hs
    rw [List.mem_singleton.mp hs]
    exact (@Aggregate.run_produced User.aggregate _ (User.blank key) commands commands_ids).2
  . intro key
    exact .nil

def stored (n : Nat) (ev : UserEvent) : StoredEvent where
  eventId := ⟨BitVec.ofNat 128 n⟩
  tenantId := key.tenantId
  aggregateId := key.aggregateId
  aggregateType := "auth.user"
  sequenceNumber := n
  eventType := Event.eventType ev
  eventVersion := Event.version ev
  occurredAt := Event.occurredAt ev
  payload := Codec.enc ev

def created : StoredEvent :=
  stored 1 (.created ⟨key.tenantId, userId, "eve@erp", "Eve", [⟨"user"⟩, ⟨"user"⟩], ⟨0⟩⟩)

def assigned : StoredEvent :=
  stored 2 (.roleAssigned ⟨key.tenantId, userId, ⟨"manager"⟩, ⟨0⟩⟩)

def revoked : StoredEvent :=
  stored 3 (.roleRevoked ⟨key.tenantId, userId, ⟨"manager"⟩, ⟨0⟩⟩)

theorem log_eq : log = [created, assigned, revoked] := rfl

theorem log_type : ∀ e ∈ log, e.aggregateType = "auth.user" :=
  type_recordedLog

theorem log_inOrder : FirstInOrder log [created, assigned, revoked] := by
  have hcreated : FirstInOrder log [created] :=
    (firstInOrder_nil log).concat (by simp [log_eq]) (by decide)
  have hassigned : FirstInOrder log [created, assigned] :=
    hcreated.concat (by simp [log_eq]) (by decide)
  apply hassigned.concat (by simp [log_eq]) (by decide)

-- The assignment is delivered again behind the revocation, and the row has the role back.
theorem revoked_role_returns
    : UserLog log
      ∧ (∀ e ∈ log, e.aggregateType = "auth.user")
      ∧ FirstInOrder log [created, assigned, revoked, assigned]
      ∧ ¬ Agrees log [created, assigned, revoked, assigned] := by
  refine ⟨log_produced, log_type, log_inOrder.concat (by simp [log_eq]) (by decide), ?_⟩
  intro hagrees
  have hrow : ∃ row, rowOf key [created, assigned, revoked, assigned] = some row
      ∧ "manager" ∈ row.roles := ⟨_, rfl, by decide⟩
  rcases hrow with ⟨row, hrow, hmanager⟩
  have hkey := hagrees key
  rw [hrow] at hkey
  have hheld := (hkey.2.1 ⟨"manager"⟩).mp hmanager
  have hroles : (userOf log key [created, assigned, revoked, assigned]).roles
      = [⟨"user"⟩, ⟨"user"⟩] := rfl
  rw [hroles] at hheld
  exact absurd hheld (by decide)

theorem rows_agree_created_twice
    : FirstInOrder log [created, created]
      ∧ ∀ pre post, [created, created] = pre ++ post → Agrees log pre := by
  have hcreated : FirstInOrder log [created] :=
    (firstInOrder_nil log).concat (by simp [log_eq]) (by decide)
  have htwice : FirstInOrder log [created, created] :=
    hcreated.concat (by simp [log_eq]) (by decide)
  refine ⟨htwice, (rows_agree_iff_repeats_repeatable log_produced log_type htwice).mpr ?_⟩
  intro pre e post hsplit hagain ev hdec
  rcases split_concat (l := [created]) hsplit with ⟨rfl, rfl⟩ | ⟨post', hsplit'⟩
  . have hev : Codec.dec created.payload = .ok _ := Codec.dec_enc _
    rw [hev] at hdec
    cases hdec
    exact ⟨rfl, fun role => Iff.rfl⟩
  . rcases split_concat (l := []) hsplit' with ⟨rfl, rfl⟩ | ⟨post'', hnil⟩
    . exact absurd hagain (by decide)
    . simp at hnil

end Staff

end ForgeErp
