import BetterDesk.Api.UserAdmin
import BetterDesk.Cdap.Auth

/-! # Logins through the providers (api/login_auth.go, api/client_oidc_handlers.go, api/oidc_handlers.go) -/

namespace BetterDesk.Api.Providers
open Auth Db Exec Function

structure OIDCResult where
  username : String
  role : Role
  roleFromGroup : Bool

structure OIDCConfig where
  allowSignup : Bool

inductive OIDCError
  | failed
  | noAccount

/-- An account that is there takes the role of a group, and becomes one of the provider. -/
def syncOIDC (db : Store) (user : User) (result : OIDCResult) : User × Store :=
  let group:=result.roleFromGroup&&result.role≠""
  let changed:=(group ∧ result.role≠user.role) ∨ user.authProvider≠authProviderOIDC
  let user:={user with
    role := if group then result.role else user.role
    authProvider := authProviderOIDC}
  if changed then
    match db.updateUser user with
    | .error _ => (user,db)
    | .ok db => (user,db)
  else (user,db)

def provisionOIDC (env : LoginEnv) (db : Store) (newID : ℕ) (result : OIDCResult) : Except OIDCError User × Store :=
  match env.hashPassword env.randomSecret with
  | none => (.error .failed,db)
  | some hash =>
    match db.createUser ⟨newID,result.username,hash,roleOrViewer result.role,false,authProviderOIDC,"",false,""⟩ with
    | .error _ => (.error .failed,db)
    | .ok db => match (db.getUser result.username).row with
      | none => (.error .failed,db)
      | some user => (.ok user,db)

def ensureOIDCUser (env : LoginEnv) (db : Store) (newID : ℕ) (result : Option OIDCResult) (cfg : Option OIDCConfig) :
    Except OIDCError User × Store := match result with
  | none => (.error .failed,db)
  | some result =>
    if result.username="" then (.error .failed,db)
    else match db.getUser result.username with
      | .error _ => (.error .failed,db)
      | .ok none =>
        if cfg.any OIDCConfig.allowSignup then provisionOIDC env db newID result
        else (.error .noAccount,db)
      | .ok (some user) =>
        let (user,db):=syncOIDC db user result
        (.ok user,db)

structure Ticket where
  username : String
  via : String
  createdAt : ℤ

structure ClientPending where
  username : Option String
  clientID : String
  clientUUID : String
  createdAt : ℤ

structure State where
  db : Store
  partialTokens : ℕ → Option Ticket
  tfaSessions : ℕ → Option Ticket
  clientPending : ℕ → Option ClientPending

def State.start (db : Store) : State := ⟨db,fun _ => none,fun _ => none,fun _ => none⟩

def tfaSessionTTL : ℤ := 300
def clientPendingTTL : ℤ := 600

def State.pending (s : State) (now : ℤ) (code : ℕ) : Option ClientPending :=
  (s.clientPending code).filter fun p => decide (now-p.createdAt≤clientPendingTTL)

inductive Event
  | login (username password : String) (token : ℕ)
  | login2FA (token : ℕ) (code : String)
  | clientLogin (username password : String) (secret : ℕ) (full : Bool)
  | clientTFAVerify (secret : ℕ) (code : String)
  | clientOIDCAuth (clientID clientUUID : String) (code : ℕ)
  | oidcCallback (result : Option OIDCResult) (cfg : Option OIDCConfig) (code : Option ℕ)
  | clientOIDCAuthQuery (code : ℕ) (clientID clientUUID : String)
  | cdapLogin (username password code : String)
  | createUser (ctx : Ctx) (body : CreateUserBody)
  | updateUser (ctx : Ctx) (id : Option ℕ) (body : UpdateUserBody)
  | deleteUser (ctx : Ctx) (id : Option ℕ)
  | setupTOTP (id : Option ℕ) (secret : String)
  | confirmTOTP (id : Option ℕ) (code : String) (hashedCodes : Option String)
  | disableTOTP (id : Option ℕ)

/-- A request, with what it meets: the environment, the queries that fail, the instant, and
the number that the next account takes. -/
structure Act where
  env : LoginEnv
  fails : Query → Bool
  now : ℤ
  expiry : ℤ
  newID : ℕ
  event : Event

/-- `AuthMethod` of a password login that succeeds, as a provider. -/
def authMethod (env : LoginEnv) (db : Store) (username : String) : String :=
  match (db.getUser username).row with
  | none => if env.ldapEnabled then authProviderLDAP else authProviderLocal
  | some user => if env.ldapEnabled ∧ provider user=authProviderLDAP then authProviderLDAP else authProviderLocal

section
variable (s : State) (a : Act)

def tables : Store := {s.db with fails := a.fails}

def handleLogin (username password : String) (token : ℕ) : Option String × State :=
  match Api.handleLogin a.env (tables s a) a.newID a.expiry a.now username password with
  | (.error _,db) => (none,{s with db := db})
  | (.ok (.token claims),db) => (some claims.sub,{s with db := db})
  | (.ok (.partialToken claims),db) => (none,{s with
      db := db
      partialTokens := update s.partialTokens token
        (some ⟨claims.sub,authMethod a.env (tables s a) username,a.now⟩)})

def partialClaims (token : ℕ) : Option Claims :=
  (s.partialTokens token).bind fun t =>
    let claims:=issueToken t.createdAt partialTokenTTL t.username twoFactorPending
    if JWTManager.current a.now claims then some claims else none

def handleLogin2FA (token : ℕ) (code : String) : Option String × State :=
  match Api.handleLogin2FA a.env (tables s a) a.expiry a.now (partialClaims s a token) code with
  | (.error _,db) => (none,{s with db := db})
  | (.ok claims,db) => (some claims.sub,{s with db := db})

/-- `handleClientLogin`; a session of the second step is not kept when there are too many. -/
def handleClientLogin (username password : String) (secret : ℕ) (full : Bool) : Option String × State :=
  if username="" ∨ password="" then (none,s)
  else match authenticatePasswordLogin a.env (tables s a) a.newID username password with
    | (.ok user,db) =>
      if user.totpEnabled ∧ user.totpSecret≠"" then
        (none,{s with
          db := db
          tfaSessions := if full then s.tfaSessions
            else update s.tfaSessions secret
              (some ⟨user.username,authMethod a.env (tables s a) username,a.now⟩)})
      else (some user.username,{s with db := db})
    | (_,db) => (none,{s with db := db})

def handleClientTFAVerify (secret : ℕ) (code : String) : Option String × State :=
  match s.tfaSessions secret with
  | none => (none,s)
  | some sess =>
    let s':={s with tfaSessions := update s.tfaSessions secret none}
    if tfaSessionTTL<a.now-sess.createdAt then (none,s')
    else if code.utf8ByteSize≠6 then (none,s')
    else match ((tables s a).getUser sess.username).row with
      | none => (none,s')
      | some user => (if a.env.validateTOTP user.totpSecret code then some user.username else none,s')

def handleClientOIDCAuth (clientID clientUUID : String) (code : ℕ) : State :=
  {s with clientPending := update s.clientPending code (some ⟨none,clientID,clientUUID,a.now⟩)}

def completeClientPending (code : ℕ) (username : String) : State :=
  match s.clientPending code with
  | none => s
  | some p =>
    if clientPendingTTL<a.now-p.createdAt then
      {s with clientPending := update s.clientPending code none}
    else {s with clientPending := update s.clientPending code (some {p with username := some username})}

/-- `handleOIDCCallback` once the provider has answered; `code` in the flow of a client. -/
def handleOIDCCallback (result : Option OIDCResult) (cfg : Option OIDCConfig) (code : Option ℕ) :
    Option String × State := match ensureOIDCUser a.env (tables s a) a.newID result cfg with
  | (.error _,db) => (none,{s with
      db := db
      clientPending := match code with
        | none => s.clientPending
        | some code => update s.clientPending code none})
  | (.ok user,db) =>
    let s':={s with db := db}
    (some user.username,match code with
      | none => s'
      | some code => completeClientPending s' a code user.username)

def ofDevice (p : ClientPending) (clientID clientUUID : String) : Bool :=
  (p.clientID=""||p.clientID=clientID)&&(p.clientUUID=""||p.clientUUID=clientUUID)

def handleClientOIDCAuthQuery (code : ℕ) (clientID clientUUID : String) : Option String × State :=
  match s.pending a.now code with
  | none => (none,s)
  | some p => match p.username with
    | none => (none,s)
    | some username =>
      if ofDevice p clientID clientUUID=false then (none,s)
      else
        let s':={s with clientPending := update s.clientPending code none}
        match ((tables s a).getUser username).row with
        | none => (none,s')
        | some user => (some user.username,s')

def editUser (id : Option ℕ) (edit : User → Except ℕ User) : Except ℕ Store :=
  match id with
  | none => .error 400
  | some id => match ((tables s a).getUserByID id).row with
    | none => .error 404
    | some user => match edit user with
      | .error status => .error status
      | .ok user => match (tables s a).updateUser user with
        | .error _ => .error 500
        | .ok db => .ok db

def handleSetupTOTP (id : Option ℕ) (secret : String) : Except ℕ Store :=
  editUser s a id fun user =>
    if user.totpEnabled then .error 409 else .ok {user with totpSecret := secret,totpEnabled := false}

/-- `hashedCodes` are the new recovery codes, hashed. -/
def handleConfirmTOTP (id : Option ℕ) (code : String) (hashedCodes : Option String) : Except ℕ Store :=
  editUser s a id fun user =>
    if user.totpSecret="" then .error 400
    else if a.env.validateTOTP user.totpSecret code=false then .error 401
    else match hashedCodes with
      | none => .error 500
      | some codes => .ok {user with totpEnabled := true,totpRecoveryCodes := codes}

def handleDisableTOTP (id : Option ℕ) : Except ℕ Store :=
  editUser s a id fun user => .ok {user with totpSecret := "",totpEnabled := false,totpRecoveryCodes := ""}

def edited (r : Except ℕ Store) : State := match r with
  | .error _ => {s with db := tables s a}
  | .ok db => {s with db := db}

/-- The user name of the account that is accepted, and the state after the request. -/
def respond : Option String × State := match a.event with
  | .login username password token => handleLogin s a username password token
  | .login2FA token code => handleLogin2FA s a token code
  | .clientLogin username password secret full => handleClientLogin s a username password secret full
  | .clientTFAVerify secret code => handleClientTFAVerify s a secret code
  | .clientOIDCAuth clientID clientUUID code => (none,handleClientOIDCAuth s a clientID clientUUID code)
  | .oidcCallback result cfg code => handleOIDCCallback s a result cfg code
  | .clientOIDCAuthQuery code clientID clientUUID => handleClientOIDCAuthQuery s a code clientID clientUUID
  | .cdapLogin username password code =>
    ((Cdap.authUserPassword a.env (tables s a) username password code).map Prod.fst,s)
  | .createUser ctx body => (none,edited s a (handleCreateUser a.env.hashPassword (tables s a) a.newID ctx body))
  | .updateUser ctx id body => (none,edited s a (handleUpdateUser a.env.hashPassword (tables s a) ctx id body))
  | .deleteUser ctx id => (none,edited s a (handleDeleteUser (tables s a) ctx id))
  | .setupTOTP id secret => (none,edited s a (handleSetupTOTP s a id secret))
  | .confirmTOTP id code hashedCodes => (none,edited s a (handleConfirmTOTP s a id code hashedCodes))
  | .disableTOTP id => (none,edited s a (handleDisableTOTP s a id))

def step : Option State :=
  if s.db.users.any fun u => u.id=a.newID then none else some (respond s a).2

end

end BetterDesk.Api.Providers
