import BetterDesk.Api.Credentials

/-! # Guards (api/auth_handlers.go) -/

namespace BetterDesk.Api
open Auth Db

abbrev Verdict := Except ℕ Unit

def Verdict.passes : Verdict → Bool
  | .ok _ => true
  | .error _ => false

def requireRole (role : Role) (ctx : Ctx) : Verdict :=
  if hasPermission ctx.role role then .ok () else .error 403

def requirePanelAdmin (ctx : Ctx) : Verdict :=
  if isSuperAdminRole ctx.role||ctx.role==roleGlobalAdmin then .ok () else .error 403

def resolvePermission (db : Store) (role : Role) (permission : Permission) : Answer (Bool × Bool) :=
  match db.listRolePermissions role with
  | .error e => .error e
  | .ok overrides => match overrides.find? fun o => o.permission==permission with
    | some o => .ok (o.granted,true)
    | none => .ok (roleHasPermission role permission,false)

def requirePermission (db : Store) (perm : Permission) (ctx : Ctx) : Verdict :=
  if isDeviceRole ctx.role then .error 403
  else if isProRole ctx.role&&proRoleBlocksPermission perm then .error 403
  else if isSuperAdminRole ctx.role then .ok ()
  else match resolvePermission db ctx.role perm with
    | .error _ => .error 503
    | .ok (granted,overridden) =>
      if overridden then (if granted then .ok () else .error 403)
      else if roleHasPermission ctx.role perm then .ok ()
      else .error 403

def requireOrgMembership (db : Store) (targetOrgID : OrgID) (ctx : Ctx) : Verdict :=
  if isSuperAdminRole ctx.role||ctx.role==roleGlobalAdmin then .ok ()
  else if targetOrgID="" then .error 400
  else if ctx.orgID≠"" ∧ ctx.orgID=targetOrgID then .ok ()
  else if ctx.username≠"" ∧ (db.getOrgUserByUsername targetOrgID ctx.username).row.isSome=true then
    .ok ()
  else .error 403

/-- `peerOrgScopeCheck`; the refusal is a 403. -/
def peerOrgScopeCheck (db : Store) (peerID : PeerID) (ctx : Ctx) : Bool :=
  if isSuperAdminRole ctx.role||ctx.role==roleGlobalAdmin then true
  else if ctx.orgID="" then true
  else (db.getOrgDevice ctx.orgID peerID).row.isSome

theorem requirePermission_super {ctx : Ctx} (h : isSuperAdminRole ctx.role=true) (db : Store)
    (perm : Permission) : requirePermission db perm ctx=.ok () := by
  have hrole : isDeviceRole ctx.role=false ∧ isProRole ctx.role=false := by
    simp only [isSuperAdminRole,Bool.or_eq_true,beq_iff_eq] at h
    rcases h with h | h <;> rw [h] <;> decide
  simp [requirePermission,hrole.1,hrole.2,h]

structure Unprivileged (role : Role) : Prop where
  not_super : isSuperAdminRole role=false
  not_global : role≠roleGlobalAdmin
  unknown : validRole role=false
  not_device : isDeviceRole role=false
  level : roleLevel role=0
  no_default : defaultRolePermissions role=none

theorem unprivileged_owner : Unprivileged orgRoleOwner :=
  ⟨by decide,by decide,by decide,by decide,by decide,by decide⟩

theorem unprivileged_user : Unprivileged orgRoleUser :=
  ⟨by decide,by decide,by decide,by decide,by decide,by decide⟩

theorem Unprivileged.requireRole_fails {ctx : Ctx} (h : Unprivileged ctx.role) {role : Role}
    (hl : 0<roleLevel role) : (requireRole role ctx).passes=false := by
  have hno : hasPermission ctx.role role=false := by
    simp only [hasPermission,h.not_device,h.level,Bool.false_eq_true,if_false,decide_eq_false_iff_not]
    omega
  simp [requireRole,hno,Verdict.passes]

theorem Unprivileged.requirePanelAdmin_fails {ctx : Ctx} (h : Unprivileged ctx.role) :
    (requirePanelAdmin ctx).passes=false := by
  have hno : (isSuperAdminRole ctx.role||ctx.role==roleGlobalAdmin)=false := by
    simp [h.not_super,h.not_global]
  simp [requirePanelAdmin,hno,Verdict.passes]

theorem Unprivileged.requirePermission_fails {ctx : Ctx} (h : Unprivileged ctx.role) (db : Store)
    (perm : Permission) : (requirePermission db perm ctx).passes=false := by
  have hrows : db.rolePermissions.filter (fun p => p.role==ctx.role)=[] := by
    rw [List.filter_eq_nil_iff]
    intro p _ hp
    have hv:=p.role_valid
    rw [beq_iff_eq.mp hp,h.unknown] at hv
    cases hv
  have hdef : roleHasPermission ctx.role perm=false := by
    simp only [roleHasPermission,h.not_device,h.not_super,h.no_default,Bool.false_eq_true,if_false]
    split <;> rfl
  unfold requirePermission resolvePermission Store.listRolePermissions Store.ask
  rw [hrows,h.not_device,h.not_super,hdef]
  cases hp : isProRole ctx.role&&proRoleBlocksPermission perm with
  | true => rfl
  | false => cases hf : db.fails (.listRolePermissions ctx.role) <;> rfl

theorem Unprivileged.requireOrgMembership_iff {ctx : Ctx} (h : Unprivileged ctx.role) (db : Store)
    (target : OrgID) : (requireOrgMembership db target ctx).passes=true ↔ target≠"" ∧ (ctx.orgID=target ∨
        ctx.username≠"" ∧ (db.getOrgUserByUsername target ctx.username).row.isSome=true) := by
  have hno : (isSuperAdminRole ctx.role||ctx.role==roleGlobalAdmin)=false := by
    simp [h.not_super,h.not_global]
  unfold requireOrgMembership
  simp only [hno,Bool.false_eq_true,if_false]
  by_cases ht : target=""
  · simp [ht,Verdict.passes]
  · by_cases hown : ctx.orgID=target
    · simp [ht,hown,Verdict.passes]
    · by_cases hdb : ctx.username≠"" ∧
          (db.getOrgUserByUsername target ctx.username).row.isSome=true
      · simp [ht,hown,hdb,Verdict.passes]
      · simp only [if_neg ht,hown,and_false,if_false,if_neg hdb,Verdict.passes,Bool.false_eq_true]
        exact ⟨False.elim,fun hm => hdb (hm.2.resolve_left id)⟩

theorem Unprivileged.peerOrgScopeCheck_iff {ctx : Ctx} (h : Unprivileged ctx.role) (db : Store)
    (peerID : PeerID) : peerOrgScopeCheck db peerID ctx=true ↔
      ctx.orgID="" ∨ (db.getOrgDevice ctx.orgID peerID).row.isSome=true := by
  have hno : (isSuperAdminRole ctx.role||ctx.role==roleGlobalAdmin)=false := by
    simp [h.not_super,h.not_global]
  unfold peerOrgScopeCheck
  simp only [hno,Bool.false_eq_true,if_false]
  by_cases ho : ctx.orgID=""
  · simp [ho]
  · simp [ho]

end BetterDesk.Api
