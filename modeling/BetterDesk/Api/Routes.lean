import BetterDesk.Api.Guards

/-! # The routes of the API (api/server.go) -/

namespace BetterDesk.Api
open Auth Db Text

inductive Guard
  | role (role : Role)
  | permission (perm : Permission)
  | panelAdmin
  | orgMembership (param : String)
  deriving DecidableEq

structure Route where
  method : String
  path : String
  guards : List Guard
  peerScope : Bool
  deriving DecidableEq

/-- The verdict of a guard; `params` are the path values. -/
def Guard.check (db : Store) (params : String → String) (ctx : Ctx) : Guard → Verdict
  | .role r => requireRole r ctx
  | .permission p => requirePermission db p ctx
  | .panelAdmin => requirePanelAdmin ctx
  | .orgMembership param => requireOrgMembership db (params param) ctx

def Route.admits (db : Store) (params : String → String) (ctx : Ctx) (route : Route) : Bool :=
  (route.guards.all fun g => (g.check db params ctx).passes) &&
    (!route.peerScope||peerOrgScopeCheck db (params "id") ctx)

def Route.guarded (route : Route) : Bool := !route.guards.isEmpty||route.peerScope

def Route.onPeer (route : Route) : Bool := hasPrefix route.path "/api/peers/:id"

def apiRoutes : List Route := [⟨"GET","/api/health",[],false⟩,
  ⟨"GET","/api/server/stats",[],false⟩,⟨"GET","/api/server/pubkey",[],false⟩,
  ⟨"GET","/api/peers",[.permission permDeviceView],false⟩,
  ⟨"GET","/api/peers/:id",[.permission permDeviceView],true⟩,
  ⟨"DELETE","/api/peers/:id",[.permission permDeviceDelete],true⟩,
  ⟨"PATCH","/api/peers/:id",[.permission permDeviceEdit],true⟩,
  ⟨"POST","/api/peers/:id/ban",[.permission permDeviceBan],true⟩,
  ⟨"POST","/api/peers/:id/unban",[.permission permDeviceBan],true⟩,
  ⟨"POST","/api/peers/:id/restore",[.permission permDeviceDelete],true⟩,
  ⟨"POST","/api/peers/:id/change-id",[.permission permDeviceChangeID],true⟩,
  ⟨"GET","/api/peers/status/summary",[],false⟩,⟨"GET","/api/peers/online",[],false⟩,
  ⟨"GET","/api/peers/:id/status",[],false⟩,⟨"GET","/api/peers/:id/metrics",[],true⟩,
  ⟨"GET","/api/peers/:id/availability",[.permission permDeviceView],true⟩,
  ⟨"GET","/api/peers/:id/connection-sessions",[.permission permDeviceView],true⟩,
  ⟨"GET","/api/peers/:id/telemetry",[.permission permDeviceView],false⟩,
  ⟨"POST","/api/peers/:id/telemetry/refresh",[.permission permDeviceEdit],false⟩,
  ⟨"POST","/api/peers/:id/telemetry/command",[.role roleOperator],false⟩,
  ⟨"GET","/api/peers/:id/linked",[],false⟩,
  ⟨"POST","/api/peers/:id/wol",[.role roleOperator],false⟩,
  ⟨"GET","/api/peers/:id/access-policy",[.role roleOperator],false⟩,
  ⟨"PUT","/api/peers/:id/access-policy",[.role roleAdmin],false⟩,
  ⟨"DELETE","/api/peers/:id/access-policy",[.role roleAdmin],false⟩,
  ⟨"GET","/api/peers/:id/connection-mode",[.permission permDeviceView],true⟩,
  ⟨"POST","/api/peers/:id/connection-mode",[.permission permDeviceConnectionMode],true⟩,
  ⟨"POST","/api/peers/:id/session-grant",[.role roleOperator],true⟩,
  ⟨"GET","/api/peers/:id/policy",[],false⟩,
  ⟨"GET","/api/remote-targets",[.permission permRemoteTargetView],false⟩,
  ⟨"POST","/api/remote-targets",[.permission permRemoteTargetEdit],false⟩,
  ⟨"POST","/api/remote-targets/test",[.permission permRemoteTargetTest],false⟩,
  ⟨"GET","/api/remote-targets/:id/credentials",[.permission permRemoteTargetView],false⟩,
  ⟨"PUT","/api/remote-targets/:id/credentials",[.permission permRemoteTargetEdit],false⟩,
  ⟨"DELETE","/api/remote-targets/:id/credentials",[.permission permRemoteTargetEdit],false⟩,
  ⟨"POST","/api/remote-targets/:id/certificate/accept",
    [.permission permRemoteTargetConnect],false⟩,
  ⟨"GET","/api/remote-targets/:id/tunnel",[.permission permRemoteTargetConnect],false⟩,
  ⟨"GET","/api/remote-targets/:id",[.permission permRemoteTargetView],false⟩,
  ⟨"PATCH","/api/remote-targets/:id",[.permission permRemoteTargetEdit],false⟩,
  ⟨"DELETE","/api/remote-targets/:id",[.permission permRemoteTargetDelete],false⟩,
  ⟨"GET","/api/blocklist",[.permission permBlocklistEdit],false⟩,
  ⟨"POST","/api/blocklist",[.permission permBlocklistEdit],false⟩,
  ⟨"DELETE","/api/blocklist/:entry",[.permission permBlocklistEdit],false⟩,
  ⟨"PUT","/api/peers/:id/tags",[.permission permDeviceEdit],false⟩,
  ⟨"GET","/api/tags/:tag/peers",[.permission permDeviceView],false⟩,
  ⟨"GET","/api/chat/history/",[.permission permChatAccess],false⟩,
  ⟨"POST","/api/chat/messages",[.permission permChatAccess],false⟩,
  ⟨"POST","/api/chat/read",[.permission permChatAccess],false⟩,
  ⟨"GET","/api/chat/unread/",[.permission permChatAccess],false⟩,
  ⟨"GET","/api/chat/contacts/",[.permission permChatAccess],false⟩,
  ⟨"POST","/api/chat/groups",[.permission permChatAccess],false⟩,
  ⟨"GET","/api/chat/groups/",[.permission permChatAccess],false⟩,
  ⟨"PUT","/api/chat/groups/",[.permission permChatAccess],false⟩,
  ⟨"DELETE","/api/chat/groups/",[.permission permChatAccess],false⟩,
  ⟨"POST","/api/org",[.permission permOrgCreate],false⟩,⟨"GET","/api/org",[],false⟩,
  ⟨"GET","/api/org/:id",[.orgMembership "id"],false⟩,
  ⟨"PUT","/api/org/:id",[.permission permOrgEdit,.orgMembership "id"],false⟩,
  ⟨"DELETE","/api/org/:id",[.permission permOrgDelete],false⟩,
  ⟨"GET","/api/org/:id/users",[.orgMembership "id"],false⟩,
  ⟨"POST","/api/org/:id/users",[.permission permOrgManageUsers,.orgMembership "id"],false⟩,
  ⟨"PUT","/api/org/:id/users/:uid",[.permission permOrgManageUsers,.orgMembership "id"],false⟩,
  ⟨"DELETE","/api/org/:id/users/:uid",[.permission permOrgManageUsers,.orgMembership "id"],false⟩,
  ⟨"POST","/api/org/:id/invite",[.permission permOrgManageUsers,.orgMembership "id"],false⟩,
  ⟨"GET","/api/org/:id/invitations",[.orgMembership "id"],false⟩,
  ⟨"POST","/api/org/:id/devices",[.permission permOrgManageDevices,.orgMembership "id"],false⟩,
  ⟨"GET","/api/org/:id/devices",[.orgMembership "id"],false⟩,
  ⟨"DELETE","/api/org/:id/devices/:did",
    [.permission permOrgManageDevices,.orgMembership "id"],false⟩,
  ⟨"GET","/api/org/:id/settings",[.orgMembership "id"],false⟩,
  ⟨"PUT","/api/org/:id/settings",[.permission permOrgEdit,.orgMembership "id"],false⟩,
  ⟨"GET","/api/org/:id/address-book",[.orgMembership "id"],false⟩,
  ⟨"PUT","/api/org/:id/address-book",[.permission permOrgEdit,.orgMembership "id"],false⟩,
  ⟨"GET","/api/org/:id/peer-credentials",[.orgMembership "id"],false⟩,
  ⟨"PUT","/api/org/:id/peer-credentials/:peerId",
    [.permission permOrgEdit,.orgMembership "id"],false⟩,
  ⟨"DELETE","/api/org/:id/peer-credentials/:peerId",
    [.permission permOrgEdit,.orgMembership "id"],false⟩,
  ⟨"GET","/api/peers/:id/connect-password",[.permission permDeviceConnect],false⟩,
  ⟨"POST","/api/org/login",[],false⟩,⟨"GET","/api/org/:id/available-users",
    [.permission permOrgManageUsers,.orgMembership "id"],false⟩,
  ⟨"POST","/api/org/:id/members",[.permission permOrgManageUsers,.orgMembership "id"],false⟩,
  ⟨"DELETE","/api/org/:id/members/:userId",
    [.permission permOrgManageUsers,.orgMembership "id"],false⟩,
  ⟨"GET","/api/org/:id/policy",[.orgMembership "id"],false⟩,
  ⟨"PUT","/api/org/:id/policy/:category",[.permission permOrgEdit,.orgMembership "id"],false⟩,
  ⟨"GET","/api/org/:id/policy/effective/:deviceId",[.orgMembership "id"],false⟩,
  ⟨"GET","/api/org/:id/policy/audit",[.orgMembership "id"],false⟩,
  ⟨"GET","/api/audit/events",[.permission permAuditView],false⟩,
  ⟨"GET","/api/ws/events",[.permission permAuditView],false⟩,
  ⟨"GET","/api/config/:key",[.permission permServerConfig],false⟩,
  ⟨"PUT","/api/config/:key",[.permission permServerConfig],false⟩,
  ⟨"GET","/api/connection/config",[.permission permServerConfig],false⟩,
  ⟨"PUT","/api/connection/config",[.permission permServerConfig],false⟩,
  ⟨"POST","/api/auth/login",[],false⟩,⟨"POST","/api/auth/login/2fa",[],false⟩,
  ⟨"GET","/api/auth/me",[],false⟩,⟨"POST","/api/login",[],false⟩,
  ⟨"GET","/api/login-options",[],false⟩,⟨"POST","/api/oidc/auth",[],false⟩,
  ⟨"GET","/api/oidc/auth-query",[],false⟩,⟨"GET","/api/oidc/callback",[],false⟩,
  ⟨"POST","/api/logout",[],false⟩,⟨"GET","/api/currentUser",[],false⟩,
  ⟨"POST","/api/currentUser",[],false⟩,⟨"GET","/api/ab",[],false⟩,⟨"POST","/api/ab",[],false⟩,
  ⟨"GET","/api/ab/personal",[],false⟩,⟨"POST","/api/ab/personal",[],false⟩,
  ⟨"GET","/api/ab/tags",[],false⟩,⟨"GET","/api/group",[],false⟩,
  ⟨"GET","/api/group/get",[],false⟩,⟨"POST","/api/group/get",[],false⟩,
  ⟨"GET","/api/device-group",[],false⟩,⟨"GET","/api/device-group/accessible",[],false⟩,
  ⟨"POST","/api/device-group",[.panelAdmin],false⟩,⟨"GET","/api/peers/list",[],false⟩,
  ⟨"POST","/api/peers/list",[],false⟩,⟨"POST","/api/heartbeat",[],false⟩,
  ⟨"POST","/api/sysinfo",[],false⟩,⟨"POST","/api/sysinfo_ver",[],false⟩,
  ⟨"GET","/api/telemetry/key",[],false⟩,⟨"GET","/api/server-key",[],false⟩,
  ⟨"GET","/api/server-key/fingerprint",[],false⟩,⟨"GET","/api/software",[],false⟩,
  ⟨"GET","/api/software/client-download-link",[],false⟩,⟨"GET","/api/user/group",[],false⟩,
  ⟨"GET","/api/user-groups",[],false⟩,⟨"POST","/api/user-groups",[.panelAdmin],false⟩,
  ⟨"GET","/api/strategies",[],false⟩,⟨"POST","/api/strategies",[.panelAdmin],false⟩,
  ⟨"POST","/api/strategies/assign",[.panelAdmin],false⟩,⟨"GET","/api/strategies/:guid",[],false⟩,
  ⟨"PUT","/api/strategies/:guid/status",[.panelAdmin],false⟩,
  ⟨"DELETE","/api/strategies/:guid",[.panelAdmin],false⟩,
  ⟨"GET","/api/devices",[.permission permDeviceView],false⟩,
  ⟨"POST","/api/devices/:guid/assign",[.panelAdmin],false⟩,⟨"POST","/api/audit/conn",[],false⟩,
  ⟨"GET","/api/audit/conn",[.permission permAuditView],false⟩,⟨"POST","/api/audit/file",[],false⟩,
  ⟨"GET","/api/audit/file",[.permission permAuditView],false⟩,
  ⟨"POST","/api/audit/alarm",[],false⟩,
  ⟨"GET","/api/audit/alarm",[.permission permAuditView],false⟩,
  ⟨"GET","/api/audit",[.permission permAuditView],false⟩,⟨"GET","/api/peer-key/:id",[],false⟩,
  ⟨"GET","/api/users",[],false⟩,⟨"POST","/api/users",[.permission permUserCreate],false⟩,
  ⟨"PUT","/api/users/:id",[.permission permUserEdit],false⟩,
  ⟨"DELETE","/api/users/:id",[.permission permUserDelete],false⟩,
  ⟨"GET","/api/users/:id/organizations",[.permission permUserView],false⟩,
  ⟨"POST","/api/users/:id/organizations",[.permission permOrgManageUsers],false⟩,
  ⟨"GET","/api/roles",[.permission permUserView],false⟩,
  ⟨"GET","/api/roles/:role/permissions",[.permission permUserView],false⟩,
  ⟨"GET","/api/role-permissions",[.permission permServerConfig],false⟩,
  ⟨"POST","/api/role-permissions",[.permission permServerConfig],false⟩,
  ⟨"DELETE","/api/role-permissions/:role/:permission",[.permission permServerConfig],false⟩,
  ⟨"POST","/api/users/:id/totp/setup",[.role roleAdmin],false⟩,
  ⟨"POST","/api/users/:id/totp/confirm",[.role roleAdmin],false⟩,
  ⟨"DELETE","/api/users/:id/totp",[.role roleAdmin],false⟩,
  ⟨"GET","/api/keys",[.permission permServerKeys],false⟩,
  ⟨"POST","/api/keys",[.permission permServerKeys],false⟩,
  ⟨"DELETE","/api/keys/:id",[.permission permServerKeys],false⟩,
  ⟨"GET","/api/tokens",[.role roleAdmin],false⟩,⟨"POST","/api/tokens",[.role roleAdmin],false⟩,
  ⟨"GET","/api/tokens/:id",[.role roleAdmin],false⟩,
  ⟨"PUT","/api/tokens/:id",[.role roleAdmin],false⟩,
  ⟨"DELETE","/api/tokens/:id",[.role roleAdmin],false⟩,
  ⟨"POST","/api/tokens/generate-bulk",[.role roleAdmin],false⟩,
  ⟨"POST","/api/tokens/:id/bind",[.role roleAdmin],false⟩,
  ⟨"GET","/api/enrollment/mode",[.role roleAdmin],false⟩,
  ⟨"PUT","/api/enrollment/mode",[.role roleAdmin],false⟩,
  ⟨"POST","/api/devices/register",[],false⟩,⟨"GET","/api/devices/register/status",[],false⟩,
  ⟨"POST","/api/devices/self/access-policy",[],false⟩,
  ⟨"POST","/api/devices/self/help-request",[],false⟩,⟨"POST","/api/devices/self/totp",[],false⟩,
  ⟨"GET","/api/help/requests",[.permission permChatAccess],false⟩,
  ⟨"GET","/api/help/requests/:id",[.permission permChatAccess],false⟩,
  ⟨"POST","/api/help/requests/:id/acknowledge",[.permission permChatAccess],false⟩,
  ⟨"POST","/api/help/requests/:id/resolve",[.permission permChatAccess],false⟩,
  ⟨"GET","/api/timesync/status",[.permission permBillingView],false⟩,
  ⟨"POST","/api/timesync/check",[.permission permServerConfig],false⟩,
  ⟨"GET","/api/timesync/config",[.permission permServerConfig],false⟩,
  ⟨"PUT","/api/timesync/config",[.permission permServerConfig],false⟩,
  ⟨"GET","/api/billing/check",[.permission permDeviceConnect],false⟩,
  ⟨"GET","/api/billing/packages",[.permission permBillingView],false⟩,
  ⟨"GET","/api/billing/packages/:id/preview",[.permission permBillingView],false⟩,
  ⟨"POST","/api/billing/packages",[.permission permBillingManage],false⟩,
  ⟨"PUT","/api/billing/packages/:id",[.permission permBillingManage],false⟩,
  ⟨"DELETE","/api/billing/packages/:id",[.permission permBillingManage],false⟩,
  ⟨"GET","/api/billing/contracts",[.permission permBillingView],false⟩,
  ⟨"POST","/api/billing/contracts",[.permission permBillingManage],false⟩,
  ⟨"PUT","/api/billing/contracts/:id",[.permission permBillingManage],false⟩,
  ⟨"DELETE","/api/billing/contracts/:id",[.permission permBillingManage],false⟩,
  ⟨"GET","/api/billing/stats",[.permission permBillingView],false⟩,
  ⟨"GET","/api/billing/sessions",[.permission permBillingView],false⟩,
  ⟨"GET","/api/billing/sessions/pending",[.permission permBillingReports],false⟩,
  ⟨"GET","/api/billing/sessions/export",[.permission permBillingExport],false⟩,
  ⟨"GET","/api/billing/reports",[.permission permBillingView],false⟩,
  ⟨"GET","/api/billing/reports/export",[.permission permBillingExport],false⟩,
  ⟨"POST","/api/billing/sessions/:id/report",[.permission permBillingReports],false⟩,
  ⟨"GET","/api/billing/currencies",[.permission permBillingView],false⟩,
  ⟨"PUT","/api/billing/currencies/:code",[.permission permBillingManage],false⟩,
  ⟨"GET","/api/enrollment/pending",[.role roleOperator],false⟩,
  ⟨"GET","/api/enrollment/history",[.role roleOperator],false⟩,
  ⟨"POST","/api/enrollment/approve/:id",[.role roleOperator],false⟩,
  ⟨"POST","/api/enrollment/reject/:id",[.role roleOperator],false⟩,
  ⟨"POST","/api/enrollment/clear-rejection/:id",[.role roleOperator],false⟩,
  ⟨"GET","/api/auth/ldap/config",[.permission permServerConfig],false⟩,
  ⟨"PUT","/api/auth/ldap/config",[.permission permServerConfig],false⟩,
  ⟨"POST","/api/auth/ldap/test",[.permission permServerConfig],false⟩,
  ⟨"POST","/api/auth/ldap/verify",[],false⟩,
  ⟨"GET","/api/auth/oidc/config",[.permission permServerConfig],false⟩,
  ⟨"PUT","/api/auth/oidc/config",[.permission permServerConfig],false⟩,
  ⟨"POST","/api/auth/oidc/test",[.permission permServerConfig],false⟩,
  ⟨"GET","/api/auth/oidc/status",[],false⟩,⟨"GET","/api/auth/oidc/authorize",[],false⟩,
  ⟨"GET","/api/auth/oidc/callback",[],false⟩,⟨"GET","/api/auth/oidc/session",[],false⟩,
  ⟨"POST","/api/auth/oidc/exchange",[],false⟩,⟨"GET","/api/auth/sso/status",[],false⟩,
  ⟨"GET","/api/branding",[],false⟩,⟨"POST","/api/branding",[.role roleAdmin],false⟩,
  ⟨"GET","/api/cdap/status",[],false⟩,⟨"GET","/api/cdap/devices",[],false⟩,
  ⟨"GET","/api/cdap/devices/:id",[],false⟩,⟨"GET","/api/cdap/devices/:id/manifest",[],false⟩,
  ⟨"GET","/api/cdap/devices/:id/state",[],false⟩,
  ⟨"POST","/api/cdap/devices/:id/command",[.role roleOperator],false⟩,
  ⟨"GET","/api/cdap/alerts",[],false⟩,⟨"POST","/api/cdap/delegate",[.role roleAdmin],false⟩,
  ⟨"DELETE","/api/cdap/delegate/:id",[.role roleAdmin],false⟩,
  ⟨"GET","/api/cdap/delegations",[.role roleAdmin],false⟩,
  ⟨"GET","/api/cdap/devices/:id/terminal",[.role roleAdmin],false⟩,
  ⟨"GET","/api/cdap/devices/:id/desktop",[.role roleAdmin],false⟩,
  ⟨"GET","/api/cdap/devices/:id/video",[.role roleOperator],false⟩,
  ⟨"GET","/api/cdap/devices/:id/files",[.role roleAdmin],false⟩,
  ⟨"GET","/api/cdap/devices/:id/audio",[.role roleOperator],false⟩,
  ⟨"GET","/api/mesh/server-id",[.permission permServerConfig],false⟩,
  ⟨"GET","/api/mesh/status",[.permission permDeviceView],false⟩,
  ⟨"GET","/api/mesh/groups",[.permission permServerConfig],false⟩,
  ⟨"POST","/api/mesh/groups",[.permission permServerConfig],false⟩,
  ⟨"GET","/api/mesh/download.msh",[.permission permServerConfig],false⟩,
  ⟨"POST","/api/mesh/devices/:id/desktop",[.permission permDeviceConnect],false⟩,
  ⟨"POST","/api/mesh/devices/:id/terminal",[.permission permMeshTerminal],false⟩,
  ⟨"POST","/api/mesh/devices/:id/files",[.permission permMeshFiles],false⟩,
  ⟨"POST","/api/mesh/devices/:id/share",[.role roleOperator],false⟩,
  ⟨"GET","/api/mesh/share/validate",[],false⟩,
  ⟨"POST","/api/guest/access-links",[.permission permGuestCreate],false⟩,
  ⟨"GET","/api/guest/access-links",[.permission permGuestCreate],false⟩,
  ⟨"DELETE","/api/guest/access-links/:id",[.permission permGuestCreate],false⟩,
  ⟨"GET","/api/guest/access-links/validate",[],false⟩,
  ⟨"POST","/api/guest/access-links/consume",[.permission permGuestCreate],false⟩,
  ⟨"POST","/api/guest/access-links/events",[.permission permGuestCreate],false⟩,
  ⟨"GET","/api/guest/access-links/peers",[],false⟩,
  ⟨"POST","/api/mesh/devices/:id/tcp",[.permission permDeviceConnect],false⟩,
  ⟨"POST","/api/mesh/devices/:id/udp",[.permission permDeviceConnect],false⟩,
  ⟨"POST","/api/mesh/devices/:id/power",[.permission permMeshPower],false⟩,
  ⟨"POST","/api/mesh/devices/:id/group",[.permission permServerConfig],false⟩,
  ⟨"GET","/api/mesh/recordings",[.permission permDeviceView],false⟩,
  ⟨"GET","/api/mesh/recordings/:id",[.permission permDeviceConnect],false⟩,
  ⟨"GET","/api/session/recordings",[.permission permDeviceView],false⟩,
  ⟨"POST","/api/mesh/devices/:id/exec",[.role roleOperator],false⟩,
  ⟨"POST","/api/peers/:id/exec",[.role roleOperator],false⟩,
  ⟨"GET","/ws/bd-mgmt/:device_id",[],false⟩,⟨"GET","/api/bd/mgmt/:device_id/status",[],false⟩,
  ⟨"POST","/api/bd/mgmt/:device_id/send",[.role roleOperator],false⟩,
  ⟨"GET","/api/bd/mgmt/connected",[],false⟩,⟨"GET","/metrics",[],false⟩]

/-- A role guard asks for more than the lowest level, and membership is asked of
the organization in the path. -/
def Guard.usual : Guard → Bool
  | .role r => decide (0<roleLevel r)
  | .orgMembership param => param=="id"
  | _ => true

theorem apiRoutes_guards : ∀ route∈apiRoutes, ∀ g∈route.guards,g.usual=true := by
  decide +kernel

end BetterDesk.Api
