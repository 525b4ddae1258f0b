import ForgeErp.Api.Explain
import ForgeErp.Core.Text

/-!
This module contains the verification of explanations: they tell the decision that is made, and show
the permissions that the projection of the users computes.
-/

namespace ForgeErp

namespace Authorization

section Sets

variable {principal : Principal} {required : String} {rolePermissions : String → List String}

theorem authorize_eq_ok_iff
    : authorize principal required = .ok ()
        ↔
      principal.activeTenantId = principal.membership.tenantId
      ∧ ("*" ∈ principal.membership.permissions ∨ required ∈ principal.membership.permissions) := by
  unfold authorize
  split
  . next hne => simp [hne]
  . next heq =>
    rw [not_not] at heq
    dsimp only
    split
    . next hgranted => simpa [heq] using hgranted
    . next hnot => simpa [heq] using hnot

theorem authorize_eq_tenantMismatch_iff
    : authorize principal required = .error .tenantMismatch
        ↔
      principal.activeTenantId ≠ principal.membership.tenantId := by
  unfold authorize
  split
  . next hne => simp [hne]
  . next heq =>
    dsimp only
    split
    . simp [heq]
    . simp [heq]

-- What the roles grant and what the membership holds.
def effective (principal : Principal) (rolePermissions : String → List String) : List String :=
  principal.membership.roles.flatMap (fun role => rolePermissions role.asStr)
    ++ principal.membership.permissions

variable [TextFormat Uuid] [DebugText]

theorem explain_mismatch (h : principal.activeTenantId ≠ principal.membership.tenantId)
    : explainAuthorization principal required rolePermissions
        = tenantMismatch principal required := by
  unfold explainAuthorization
  rw [if_pos h]

/--
Everything that is reported where the tenants match.
-/
structure Reports (explanation : AuthorizationExplanation) (perms : List String) (required : String)
    : Prop where
  granted : explanation.granted = true ↔ "*" ∈ perms ∨ required ∈ perms
  matched : ∀ denial, explanation.denialReason = some denial → denial.kind = .missingPermission
  nodup : explanation.principal.effectivePermissions.Nodup
  mem_iff : ∀ p, p ∈ explanation.principal.effectivePermissions ↔ p ∈ perms

theorem explain_reports (required : String) (rolePermissions : String → List String)
    (h : principal.activeTenantId = principal.membership.tenantId)
    : Reports (explainAuthorization principal required rolePermissions)
        (effective principal rolePermissions)
        required := by
  have hnodup : ((effective principal rolePermissions).dedup.insertionSort (· ≤ ·)).Nodup :=
    (List.perm_insertionSort _ _).nodup_iff.mpr (List.nodup_dedup _)
  have hmem : ∀ p, p ∈ (effective principal rolePermissions).dedup.insertionSort (· ≤ ·)
      ↔ p ∈ effective principal rolePermissions := by
    intro p
    rw [List.mem_insertionSort, List.mem_dedup]
  unfold effective at hnodup hmem ⊢
  unfold explainAuthorization
  rw [if_neg (not_not.mpr h)]
  dsimp only
  split
  . next hgranted =>
    refine ⟨?_, ?_, hnodup, hmem⟩
    . simpa [List.mem_dedup] using hgranted
    . intro denial hdenial
      cases hdenial
  . next hnot =>
    refine ⟨?_, ?_, hnodup, hmem⟩
    . simpa [missingPermission, List.mem_dedup] using hnot
    . intro denial hdenial
      cases hdenial
      rfl

end Sets

theorem effectivePermissions_of_get {self : UsersProjection} {tenantId : TenantId} {userId : UserId}
    {model : UserReadModel} (h : self.get tenantId userId = some model)
    (rolePermissions : String → List String)
    : ∃ effective, self.effectivePermissions tenantId userId rolePermissions = some effective
        ∧ effective.permissions.Nodup
        ∧ ∀ p, p ∈ effective.permissions ↔ p ∈ model.roles.flatMap rolePermissions := by
  unfold UsersProjection.effectivePermissions
  rw [h]
  refine ⟨_, rfl, List.nodup_dedup _, ?_⟩
  intro p
  exact List.mem_dedup

/--
The explanation tells what `authorize` decides, and lists what the projection computes for a user
with the same roles.
-/
structure Agrees [TextFormat Uuid] [DebugText] (principal : Principal) (required : String)
    : Prop where
  granted : (explainAuthorization principal required defaultRolePermissions).granted = true
    ↔ authorize principal required = .ok ()
  mismatch : (explainAuthorization principal required defaultRolePermissions).denialReason.map
    DenialReason.kind
      = some .tenantMismatch
    ↔ authorize principal required = .error .tenantMismatch
  effective : principal.activeTenantId = principal.membership.tenantId →
    (explainAuthorization principal required
      defaultRolePermissions).principal.effectivePermissions.Nodup
    ∧ ∀ (self : UsersProjection) tenantId userId model, self.get tenantId userId = some model →
      model.roles = principal.membership.roles.map Role.asStr →
      ∃ effective, self.effectivePermissions tenantId userId defaultRolePermissions = some effective
        ∧ ∀ p, p ∈ (explainAuthorization principal required
              defaultRolePermissions).principal.effectivePermissions
            ↔ p ∈ effective.permissions

theorem explanation_agrees [TextFormat Uuid] [DebugText] (principalId : Uuid) (roles : List Role)
    (permissions : List String)
    (hpermissions : ∀ p, p ∈ permissions ↔ p ∈ permissionsFromRoles roles)
    (activeTenantId membershipTenantId : TenantId) (required : String)
    : Agrees ⟨principalId, activeTenantId, ⟨membershipTenantId, roles, permissions⟩⟩ required := by
  by_cases hmatch : activeTenantId = membershipTenantId
  . let principal : Principal := ⟨principalId, activeTenantId,
      ⟨membershipTenantId, roles, permissions⟩⟩
    have hreports : Reports (explainAuthorization principal required defaultRolePermissions)
        (effective principal defaultRolePermissions) required :=
      explain_reports required defaultRolePermissions hmatch
    have hset : ∀ p, p ∈ effective ⟨principalId, activeTenantId,
      ⟨membershipTenantId, roles, permissions⟩⟩
        defaultRolePermissions ↔ p ∈ permissions := by
      intro p
      rw [hpermissions]
      unfold effective permissionsFromRoles
      rw [List.mem_append, hpermissions, permissionsFromRoles, or_self]
    refine ⟨?_, ?_, ?_⟩
    . rw [hreports.granted, authorize_eq_ok_iff, hset, hset]
      exact (and_iff_right hmatch).symm
    . rw [authorize_eq_tenantMismatch_iff]
      refine iff_of_false ?_ (not_not.mpr hmatch)
      intro hkind
      rcases Option.map_eq_some_iff.mp hkind with ⟨denial, hdenial, hkind⟩
      rw [hreports.matched denial hdenial] at hkind
      cases hkind
    . intro _
      refine ⟨hreports.nodup, ?_⟩
      intro self tenantId userId model hget hroles
      rcases effectivePermissions_of_get hget defaultRolePermissions
          with ⟨effective, heffective, -, hmem⟩
      refine ⟨effective, heffective, ?_⟩
      intro p
      rw [hreports.mem_iff, hset, hpermissions, permissionsFromRoles, hmem, hroles,
        List.flatMap_map]
  . have hmismatch := @explain_mismatch
      ⟨principalId, activeTenantId, ⟨membershipTenantId, roles, permissions⟩⟩
      required defaultRolePermissions _ _ hmatch
    refine ⟨?_, ?_, fun heq => absurd heq hmatch⟩
    . rw [hmismatch, authorize_eq_ok_iff]
      exact iff_of_false (by simp [tenantMismatch]) (fun h => hmatch h.1)
    . rw [hmismatch, authorize_eq_tenantMismatch_iff]
      exact iff_of_true rfl hmatch

end Authorization

namespace Clerk

open Authorization

attribute [scoped instance] Uuid.hyphenated

-- What `{:?}` makes of a text in which nothing has to be escaped.
scoped instance : DebugText where
  debug s := "\"" ++ s ++ "\""

def roles : List Role :=
  [⟨"accountant"⟩, ⟨"auditor"⟩]

theorem explanation_agrees_accountant
    : Agrees ⟨⟨1⟩, ⟨⟨2⟩⟩, ⟨⟨⟨2⟩⟩, roles, permissionsFromRoles roles⟩⟩ "ledger.write" := by
  apply explanation_agrees
  intro p
  rfl

end Clerk

end ForgeErp
