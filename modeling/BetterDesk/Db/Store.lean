import BetterDesk.Auth.Roles

/-! # The account tables (db/database.go, db/sqlite.go, db/sqlite_org.go) -/

namespace BetterDesk.Db
open Auth List

abbrev OrgID := String
abbrev PeerID := String

def authProviderLocal : String := "local"
def authProviderLDAP : String := "ldap"
def authProviderOIDC : String := "oidc"

structure User where
  id : ℕ
  username : String
  passwordHash : String
  role : Role
  isServerAdmin : Bool
  authProvider : String
  totpSecret : String
  totpEnabled : Bool
  totpRecoveryCodes : String
  deriving DecidableEq

/-- `handleCreateOrg` gives every organization a fresh UUID. -/
structure Organization where
  id : OrgID
  slug : String
  id_nonempty : id≠""

/-- A member of an organization. Every handler that stores a role checks it
with `ValidOrgRole` first. -/
structure OrgUser where
  id : String
  orgID : OrgID
  serverUserID : ℕ
  username : String
  displayName : String
  email : String
  passwordHash : String
  role : Role
  role_valid : validOrgRole role=true
  deriving DecidableEq

structure OrgInvitation where
  id : String
  orgID : OrgID
  token : String
  email : String
  role : Role
  expiresAt : ℤ

structure OrgDevice where
  orgID : OrgID
  deviceID : PeerID

/-- A permission override; `handleSetRolePermission` is its only writer and
refuses unknown roles, unknown permissions and the two super-admin roles. -/
structure RolePermission where
  role : Role
  permission : Permission
  granted : Bool
  role_valid : validRole role=true
  not_super : isSuperAdminRole role=false
  permission_valid : validPermission permission=true

/-- `expiresAt` is the instant the stored text parses to, if it does. -/
structure APIKey where
  id : ℕ
  keyHash : String
  name : String
  role : Role
  expiresAt : Option ℤ
  deriving DecidableEq

structure ClientSession where
  tokenHash : String
  userID : ℕ
  expiresAt : ℤ
  revoked : Bool

inductive Query
  | getUser (username : String)
  | getUserByID (id : ℕ)
  | listUsers
  | listRolePermissions (role : Role)
  | getOrganization (id : OrgID)
  | getOrganizationBySlug (slug : String)
  | getOrgUser (id : String)
  | getOrgUserByUsername (orgID : OrgID) (username : String)
  | getOrgDevice (orgID : OrgID) (deviceID : PeerID)
  | getAPIKeyByHash (keyHash : String)
  | getClientSessionByTokenHash (tokenHash : String)
  | createUser (username : String)
  | updateUser (id : ℕ)
  | deleteUser (id : ℕ)
  | createAPIKey (name : String)
  | deleteAPIKey (id : ℕ)
  | createOrgUser (id : String)
  | updateOrgUser (id : String)
  | deleteOrgUser (id : String)
  | linkUserToOrg (orgID : OrgID) (userID : ℕ)
  | unlinkUserFromOrg (orgID : OrgID) (userID : ℕ)
  | createOrgInvitation (orgID : OrgID)

structure Store where
  users : List User
  organizations : List Organization
  orgUsers : List OrgUser
  orgInvitations : List OrgInvitation
  orgDevices : List OrgDevice
  rolePermissions : List RolePermission
  apiKeys : List APIKey
  clientSessions : List ClientSession
  fails : Query → Bool

def Store.empty : Store := ⟨[],[],[],[],[],[],[],[],fun _ => false⟩

def User.stored (u : User) : User :=
  {u with authProvider := if u.authProvider="" then authProviderLocal else u.authProvider}

abbrev Answer (α : Type) := Except Unit α

def Answer.row {α : Type} : Answer (Option α) → Option α
  | .ok r => r
  | .error _ => none

namespace Store

def ask (s : Store) {α : Type} (q : Query) (rows : α) : Answer α :=
  if s.fails q then .error () else .ok rows

def getUser (s : Store) (username : String) : Answer (Option User) :=
  s.ask (.getUser username) (s.users.find? fun u => u.username==username)

def getUserByID (s : Store) (id : ℕ) : Answer (Option User) :=
  s.ask (.getUserByID id) (s.users.find? fun u => u.id==id)

def listUsers (s : Store) : Answer (List User) := s.ask .listUsers s.users

def listRolePermissions (s : Store) (role : Role) : Answer (List RolePermission) :=
  s.ask (.listRolePermissions role) (s.rolePermissions.filter fun p => p.role==role)

def getOrganization (s : Store) (id : OrgID) : Answer (Option Organization) :=
  s.ask (.getOrganization id) (s.organizations.find? fun o => o.id==id)

def getOrganizationBySlug (s : Store) (slug : String) : Answer (Option Organization) :=
  s.ask (.getOrganizationBySlug slug) (s.organizations.find? fun o => o.slug==slug)

def getOrgUser (s : Store) (id : String) : Answer (Option OrgUser) :=
  s.ask (.getOrgUser id) (s.orgUsers.find? fun u => u.id==id)

def memberNamed (s : Store) (orgID : OrgID) (username : String) : Option OrgUser :=
  s.orgUsers.find? fun u => u.orgID==orgID&&u.username==username

def getOrgUserByUsername (s : Store) (orgID : OrgID) (username : String) : Answer (Option OrgUser) :=
  s.ask (.getOrgUserByUsername orgID username) (s.memberNamed orgID username)

def getOrgDevice (s : Store) (orgID : OrgID) (deviceID : PeerID) : Answer (Option OrgDevice) :=
  s.ask (.getOrgDevice orgID deviceID)
    (s.orgDevices.find? fun d => d.orgID==orgID&&d.deviceID==deviceID)

def getAPIKeyByHash (s : Store) (keyHash : String) : Answer (Option APIKey) :=
  s.ask (.getAPIKeyByHash keyHash) (s.apiKeys.find? fun k => k.keyHash==keyHash)

def getClientSessionByTokenHash (s : Store) (now : ℤ) (tokenHash : String) :
    Answer (Option ClientSession) := s.ask (.getClientSessionByTokenHash tokenHash)
    (s.clientSessions.find? fun c => c.tokenHash==tokenHash&&!c.revoked&&decide (now<c.expiresAt))

/-- `CreateUser`; the user name column is unique, and the server-admin flag and
the recovery codes keep their defaults. -/
def createUser (s : Store) (u : User) : Answer Store :=
  if s.fails (.createUser u.username) ∨ s.users.any (fun v => v.username==u.username)=true then
    .error ()
  else .ok {s with users := s.users++[{u.stored with isServerAdmin := false,totpRecoveryCodes := ""}]}

/-- `UpdateUser` writes every column but the id and the user name. -/
def updateUser (s : Store) (u : User) : Answer Store :=
  s.ask (.updateUser u.id) {s with
    users := s.users.map fun v => if v.id=u.id then {u.stored with username := v.username} else v}

/-- `DeleteUser` removes the account with its organization links. -/
def deleteUser (s : Store) (id : ℕ) : Answer Store :=
  s.ask (.deleteUser id) {s with
    users := s.users.filter fun v => v.id != id
    orgUsers := s.orgUsers.filter fun m => !(m.serverUserID==id&&0 < m.serverUserID)}

def createAPIKey (s : Store) (k : APIKey) : Answer Store :=
  s.ask (.createAPIKey k.name) {s with apiKeys := s.apiKeys++[k]}

def deleteAPIKey (s : Store) (id : ℕ) : Answer Store :=
  s.ask (.deleteAPIKey id) {s with apiKeys := s.apiKeys.filter fun k => k.id != id}

def takesOrgUser (s : Store) (u : OrgUser) : Bool :=
  !s.orgUsers.any fun v => v.id==u.id||v.orgID==u.orgID&&v.username==u.username

def createOrgUser (s : Store) (u : OrgUser) : Answer Store :=
  if s.fails (.createOrgUser u.id) ∨ s.takesOrgUser u=false then .error ()
  else .ok {s with orgUsers := s.orgUsers++[u]}

/-- `UpdateOrgUser` writes the display name, the email and the role. -/
def updateOrgUser (s : Store) (u : OrgUser) : Answer Store :=
  s.ask (.updateOrgUser u.id) {s with
    orgUsers := s.orgUsers.map fun v => if v.id=u.id then
      {v with displayName := u.displayName,email := u.email,role := u.role,role_valid := u.role_valid}
      else v}

def deleteOrgUser (s : Store) (id : String) : Answer Store :=
  s.ask (.deleteOrgUser id) {s with orgUsers := s.orgUsers.filter fun u => u.id != id}

inductive LinkError
  | alreadyLinked
  | notFound
  | usernameExists
  | failed
  deriving DecidableEq

def linkUserToOrg (s : Store) (newID : String) (orgID : OrgID) (userID : ℕ) (role : Role)
    (h : validOrgRole role=true) : Except LinkError Store :=
  if s.fails (.linkUserToOrg orgID userID) then .error .failed
  else if s.orgUsers.any fun u => u.orgID==orgID&&u.serverUserID==userID then .error .alreadyLinked
  else match (s.getUserByID userID).row with
    | none => .error .notFound
    | some user =>
      if (s.memberNamed orgID user.username).isSome then .error .usernameExists
      else
        let member : OrgUser := ⟨newID,orgID,userID,user.username,"","","",role,h⟩
        if s.takesOrgUser member=false then .error .failed
        else .ok {s with orgUsers := s.orgUsers++[member]}

/-- `UnlinkUserFromOrg`; no linked row is an error. -/
def unlinkUserFromOrg (s : Store) (orgID : OrgID) (userID : ℕ) : Except LinkError Store :=
  if s.fails (.unlinkUserFromOrg orgID userID) then .error .failed
  else if s.orgUsers.any fun u => u.orgID==orgID&&u.serverUserID==userID then
    .ok {s with orgUsers := s.orgUsers.filter fun u => !(u.orgID==orgID&&u.serverUserID==userID)}
  else .error .notFound

def createOrgInvitation (s : Store) (i : OrgInvitation) : Answer Store :=
  s.ask (.createOrgInvitation i.orgID) {s with orgInvitations := s.orgInvitations++[i]}

end Store

variable {s : Store} {username : String} {orgID : OrgID} {u : OrgUser}

theorem Store.ask_ok {α : Type} {q : Query} {rows a : α} (h : s.ask q rows=.ok a) : s.fails q=false ∧ a=rows := by
  unfold Store.ask at h
  split at h
  · cases h
  · rename_i hf
    cases h
    exact ⟨by simpa using hf,rfl⟩

theorem Store.ask_find {α : Type} {q : Query} {l : List α} {p : α → Bool} {a : α}
    (h : (s.ask q (l.find? p)).row=some a) : a∈l ∧ p a=true := by
  unfold Store.ask at h
  split at h
  · cases h
  · exact ⟨mem_of_find?_eq_some h,List.find?_some h⟩

theorem Store.getUser_row {u : User} (h : (s.getUser username).row=some u) : u∈s.users ∧ u.username=username := by
  simpa using ask_find h

theorem Store.getUserByID_row {id : ℕ} {u : User} (h : (s.getUserByID id).row=some u) : u∈s.users ∧ u.id=id := by
  simpa using ask_find h

theorem Store.getOrgUserByUsername_row (h : (s.getOrgUserByUsername orgID username).row=some u) :
    u∈s.orgUsers ∧ u.orgID=orgID ∧ u.username=username := by
  simpa using ask_find h

theorem Store.getOrgUserByUsername_member
    (h : (s.getOrgUserByUsername orgID username).row=some u) : s.memberNamed orgID username=some u := by
  unfold Store.getOrgUserByUsername Store.ask at h
  split at h
  · cases h
  · exact h

theorem Store.getOrgUser_row {id : String} (h : (s.getOrgUser id).row=some u) : u∈s.orgUsers ∧ u.id=id := by
  simpa using ask_find h

theorem Store.getOrgDevice_row {deviceID : PeerID} {d : OrgDevice} (h : (s.getOrgDevice orgID deviceID).row=some d) :
    d∈s.orgDevices ∧ d.orgID=orgID ∧ d.deviceID=deviceID := by
  simpa using ask_find h

end BetterDesk.Db
