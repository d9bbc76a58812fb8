import BetterDesk.Lib.Text

/-! # Roles and permissions (auth/roles.go, auth/permissions.go) -/

namespace BetterDesk.Auth
open Text

abbrev Role := String
abbrev Permission := String

def roleSuperAdmin : Role := "super_admin"
def roleServerAdmin : Role := "server_admin"
def roleGlobalAdmin : Role := "global_admin"
def roleAdmin : Role := "admin"
def roleOperator : Role := "operator"
def roleViewer : Role := "viewer"
def rolePro : Role := "pro"
def roleGuestIssuer : Role := "guest_issuer"
def roleDevice : Role := "device"

def roleLevel (role : Role) : ℕ :=
  if role=roleSuperAdmin then 5
  else if role=roleServerAdmin ∨ role=roleGlobalAdmin then 4
  else if role=roleAdmin then 5
  else if role=roleOperator then 2
  else if role=roleViewer then 1
  else if role=rolePro then 0
  else if role=roleGuestIssuer then 1
  else if role=roleDevice then 0
  else 0

def isSuperAdminRole (role : Role) : Bool := role==roleSuperAdmin||role==roleAdmin

def canAssignRole (callerRole targetRole : Role) : Bool :=
  if isSuperAdminRole callerRole then true
  else if callerRole=roleGlobalAdmin then
    targetRole==roleOperator||targetRole==roleViewer||targetRole==rolePro ||
      targetRole==roleGuestIssuer
  else false

def isDeviceRole (role : Role) : Bool := role==roleDevice

def hasPermission (userRole requiredRole : Role) : Bool :=
  if isDeviceRole userRole then userRole==requiredRole
  else decide (roleLevel requiredRole≤roleLevel userRole)

def validRole (r : Role) : Bool :=
  [roleSuperAdmin,roleServerAdmin,roleGlobalAdmin,roleAdmin,roleOperator,roleViewer,rolePro,
    roleGuestIssuer].contains r

def permDeviceView : Permission := "device.view"
def permDeviceConnect : Permission := "device.connect"
def permGuestCreate : Permission := "guest.create"
def permDeviceEdit : Permission := "device.edit"
def permDeviceDelete : Permission := "device.delete"
def permDeviceBan : Permission := "device.ban"
def permDeviceChangeID : Permission := "device.change_id"
def permDeviceConnectionMode : Permission := "device.connection_mode"
def permRemoteTargetView : Permission := "remote_target.view"
def permRemoteTargetConnect : Permission := "remote_target.connect"
def permRemoteTargetEdit : Permission := "remote_target.edit"
def permRemoteTargetDelete : Permission := "remote_target.delete"
def permRemoteTargetTest : Permission := "remote_target.test"
def permUserView : Permission := "user.view"
def permUserCreate : Permission := "user.create"
def permUserEdit : Permission := "user.edit"
def permUserDelete : Permission := "user.delete"
def permServerConfig : Permission := "server.config"
def permServerKeys : Permission := "server.keys"
def permServerAttestation : Permission := "server.attestation"
def permOrgCreate : Permission := "org.create"
def permOrgEdit : Permission := "org.edit"
def permOrgDelete : Permission := "org.delete"
def permOrgManageUsers : Permission := "org.manage_users"
def permOrgManageDevices : Permission := "org.manage_devices"
def permAuditView : Permission := "audit.view"
def permMetricsView : Permission := "metrics.view"
def permBlocklistEdit : Permission := "blocklist.edit"
def permCDAPView : Permission := "cdap.view"
def permCDAPCommand : Permission := "cdap.command"
def permCDAPTerminal : Permission := "cdap.terminal"
def permCDAPFiles : Permission := "cdap.files"
def permMeshTerminal : Permission := "mesh.terminal"
def permMeshFiles : Permission := "mesh.files"
def permMeshPower : Permission := "mesh.power"
def permEnrollmentManage : Permission := "enrollment.manage"
def permEnrollmentApprove : Permission := "enrollment.approve"
def permChatAccess : Permission := "chat.access"
def permBrandingEdit : Permission := "branding.edit"
def permBillingView : Permission := "billing.view"
def permBillingManage : Permission := "billing.manage"
def permBillingReports : Permission := "billing.reports"
def permBillingExport : Permission := "billing.export"

def allPermissions : List Permission := [
  permDeviceView,permDeviceConnect,permGuestCreate,permDeviceEdit,permDeviceDelete,
  permDeviceBan,permDeviceChangeID,permDeviceConnectionMode,
  permRemoteTargetView,permRemoteTargetConnect,permRemoteTargetEdit,
  permRemoteTargetDelete,permRemoteTargetTest,
  permUserView,permUserCreate,permUserEdit,permUserDelete,
  permServerConfig,permServerKeys,permServerAttestation,
  permOrgCreate,permOrgEdit,permOrgDelete,permOrgManageUsers,permOrgManageDevices,
  permAuditView,permMetricsView,permBlocklistEdit,
  permCDAPView,permCDAPCommand,permCDAPTerminal,permCDAPFiles,
  permMeshTerminal,permMeshFiles,permMeshPower,permEnrollmentManage,permEnrollmentApprove,
  permChatAccess,permBrandingEdit,
  permBillingView,permBillingManage,permBillingReports,permBillingExport]

/-- The built-in grants of a role; `none` where the map has no entry. -/
def defaultRolePermissions (role : Role) : Option (List Permission) :=
  if role=roleSuperAdmin then some allPermissions
  else if role=roleAdmin then some allPermissions
  else if role=roleServerAdmin then some [permServerConfig,permServerKeys,permServerAttestation,
    permBlocklistEdit,permUserView,permDeviceView,permRemoteTargetView,permAuditView,
    permMetricsView,permEnrollmentManage]
  else if role=roleGlobalAdmin then some [permUserView,permUserCreate,permUserEdit,permUserDelete,
    permOrgCreate,permOrgEdit,permOrgDelete,permOrgManageUsers,permOrgManageDevices,
    permDeviceView,permDeviceConnect,permDeviceEdit,permDeviceDelete,permGuestCreate,
    permDeviceBan,permDeviceChangeID,permDeviceConnectionMode,
    permRemoteTargetView,permRemoteTargetConnect,permRemoteTargetEdit,
    permRemoteTargetDelete,permRemoteTargetTest,permAuditView,permMetricsView,
    permCDAPView,permCDAPCommand,permCDAPTerminal,permCDAPFiles,
    permMeshTerminal,permMeshFiles,permMeshPower,permChatAccess,
    permEnrollmentManage,permEnrollmentApprove,permBrandingEdit,
    permBillingView,permBillingManage,permBillingReports,permBillingExport]
  else if role=roleOperator then some [
    permDeviceView,permDeviceConnect,permDeviceEdit,permDeviceConnectionMode,
    permRemoteTargetView,permRemoteTargetConnect,permRemoteTargetTest,permGuestCreate,permUserView,
    permAuditView,permMetricsView,permCDAPView,permCDAPCommand,permMeshPower,permChatAccess,
    permOrgManageDevices,permBillingView,permBillingReports]
  else if role=roleViewer then some [permDeviceView,permRemoteTargetView,
    permAuditView,permMetricsView,permCDAPView,permChatAccess]
  else if role=rolePro then some []
  else if role=roleGuestIssuer then some [permDeviceView,permGuestCreate]
  else if role=roleDevice then some []
  else none

def isProRole (role : Role) : Bool := role==rolePro

def proRoleBlocksPermission (permission : Permission) : Bool :=
  hasPrefix permission "device."||hasPrefix permission "remote_target." ||
    permission==permOrgManageDevices

def roleHasPermission (role : Role) (permission : Permission) : Bool :=
  if isDeviceRole role then false
  else if isProRole role&&proRoleBlocksPermission permission then false
  else if isSuperAdminRole role then true
  else match defaultRolePermissions role with
    | none => false
    | some perms => perms.contains permission

def validPermission (p : Permission) : Bool := allPermissions.contains p

def orgRoleOwner : Role := "owner"
def orgRoleAdmin : Role := "admin"
def orgRoleOperator : Role := "operator"
def orgRoleUser : Role := "user"

def orgRoleLevel (role : Role) : ℕ :=
  if role=orgRoleOwner then 40
  else if role=orgRoleAdmin then 30
  else if role=orgRoleOperator then 20
  else if role=orgRoleUser then 10
  else 0

def orgCanAssignRole (callerOrgRole targetOrgRole : Role) : Bool :=
  if callerOrgRole=orgRoleOwner then
    targetOrgRole==orgRoleAdmin||targetOrgRole==orgRoleOperator||targetOrgRole==orgRoleUser
  else if callerOrgRole=orgRoleAdmin then
    targetOrgRole==orgRoleOperator||targetOrgRole==orgRoleUser
  else false

def validOrgRole (r : Role) : Bool :=
  r==orgRoleOwner||r==orgRoleAdmin||r==orgRoleOperator||r==orgRoleUser

theorem validOrgRole_cases {r : Role} (h : validOrgRole r=true) :
    r=orgRoleOwner ∨ r=orgRoleAdmin ∨ r=orgRoleOperator ∨ r=orgRoleUser := by
  simpa only [validOrgRole,Bool.or_eq_true,beq_iff_eq,or_assoc] using h

theorem orgCanAssignRole_lt {caller target : Role} (h : orgCanAssignRole caller target=true) :
    orgRoleLevel target<orgRoleLevel caller := by
  unfold orgCanAssignRole at h
  split at h
  · rename_i hc
    subst hc
    simp only [Bool.or_eq_true,beq_iff_eq,or_assoc] at h
    rcases h with rfl | rfl | rfl <;> decide
  · split at h
    · rename_i hc
      subst hc
      simp only [Bool.or_eq_true,beq_iff_eq] at h
      rcases h with rfl | rfl <;> decide
    · cases h

theorem canAssignRole_iff (caller target : Role) : canAssignRole caller target=true ↔
    isSuperAdminRole caller=true ∨ caller=roleGlobalAdmin ∧
      (target=roleOperator ∨ target=roleViewer ∨ target=rolePro ∨ target=roleGuestIssuer) := by
  unfold canAssignRole
  split
  · rename_i hs
    simp [hs]
  · rename_i hs
    split
    · rename_i hg
      simp only [hg,Bool.or_eq_true,beq_iff_eq,or_assoc,true_and]
      constructor
      · exact Or.inr
      · rintro (h | h)
        · exact absurd (hg ▸ h) hs
        · exact h
    · rename_i hg
      simp [hs,hg]

theorem roleLevel_le (role : Role) (h : isSuperAdminRole role=false) : roleLevel role≤4 := by
  simp only [isSuperAdminRole,Bool.or_eq_false_iff,beq_eq_false_iff_ne] at h
  unfold roleLevel
  rw [if_neg h.1,if_neg h.2]
  repeat' split
  all_goals omega

theorem not_super_of_level {role : Role} (h : roleLevel role≤4) : isSuperAdminRole role=false := by
  cases hs : isSuperAdminRole role with
  | false => rfl
  | true =>
    simp only [isSuperAdminRole,Bool.or_eq_true,beq_iff_eq] at hs
    rcases hs with rfl | rfl <;> exact absurd h (by decide)

theorem canAssignRole_lt {caller target : Role} (hs : isSuperAdminRole caller=false)
    (h : canAssignRole caller target=true) : roleLevel target<roleLevel caller := by
  rcases (canAssignRole_iff caller target).mp h with h | ⟨rfl,rfl | rfl | rfl | rfl⟩
  · rw [hs] at h
    cases h
  all_goals decide

end BetterDesk.Auth
