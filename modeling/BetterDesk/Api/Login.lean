import BetterDesk.Api.Credentials

/-! # Password logins (api/login_auth.go, api/auth_handlers.go) -/

namespace BetterDesk.Api
open Auth Db

structure LoginEnv where
  verifyPassword : String → String → Bool                -- the hash, the password
  needsRehash : String → Bool
  hashPassword : String → Option String
  randomSecret : String
  ldapEnabled : Bool
  ldapAuthenticate : String → String → Option Role       -- the mapped role, if authenticated
  validateTOTP : String → String → Bool                  -- the secret, the code
  consumeRecoveryCode : String → String → Option String  -- what is left of the codes

def provider (u : User) : String := if u.authProvider="" then authProviderLocal else u.authProvider

inductive PasswordLogin
  | ok (user : User)
  | invalid
  | oidc
  | internal

def provisionLDAP (env : LoginEnv) (db : Store) (newID : ℕ) (username : String) (role : Role) :
    PasswordLogin × Store := match env.hashPassword env.randomSecret with
  | none => (.internal,db)
  | some unusable =>
    let role := if role="" then roleViewer else role
    match db.createUser ⟨newID,username,unusable,role,false,authProviderLDAP,"",false,""⟩ with
    | .error _ => (.internal,db)
    | .ok db => match (db.getUser username).row with
      | none => (.internal,db)
      | some user => (.ok user,db)

def syncLDAP (db : Store) (user : User) (role : Role) : User × Store :=
  let changed:=(role≠"" ∧ role≠user.role) ∨ user.authProvider≠authProviderLDAP
  let user:={user with
    role := if role≠"" then role else user.role
    authProvider := authProviderLDAP}
  if changed then
    match db.updateUser user with
    | .error _ => (user,db)
    | .ok db => (user,db)
  else (user,db)

def localLogin (env : LoginEnv) (db : Store) (user : User) (password : String) : PasswordLogin × Store :=
  if provider user≠authProviderLocal ∨ env.verifyPassword user.passwordHash password=false then
    (.invalid,db)
  else if env.needsRehash user.passwordHash then
    match env.hashPassword password with
    | none => (.ok user,db)
    | some hash =>
      let user:={user with passwordHash := hash}
      match db.updateUser user with
      | .error _ => (.ok user,db)
      | .ok db => (.ok user,db)
  else (.ok user,db)

def authenticatePasswordLogin (env : LoginEnv) (db : Store) (newID : ℕ) (username password : String) :
    PasswordLogin × Store := match db.getUser username with
  | .error _ => (.internal,db)
  | .ok none =>
    if env.ldapEnabled then
      match env.ldapAuthenticate username password with
      | none => (.invalid,db)
      | some role => provisionLDAP env db newID username role
    else (.invalid,db)
  | .ok (some user) =>
    if provider user=authProviderOIDC then (.oidc,db)
    else if env.ldapEnabled ∧ provider user=authProviderLDAP then
      match env.ldapAuthenticate username password with
      | none => (.invalid,db)
      | some role =>
        let (user,db):=syncLDAP db user role
        (.ok user,db)
    else localLogin env db user password

def partialTokenTTL : ℤ := 300

def issueToken (now ttl : ℤ) (username : String) (role : Role) : Claims :=
  ⟨username,role,"",jwtAudience,jwtIssuer,now,now+ttl⟩

inductive LoginReply
  | token (claims : Claims)
  | partialToken (claims : Claims)

def handleLogin (env : LoginEnv) (db : Store) (newID : ℕ) (expiry now : ℤ) (username password : String) :
    Except ℕ LoginReply × Store := if username="" ∨ password="" then (.error 400,db)
  else match authenticatePasswordLogin env db newID username password with
    | (.internal,db) => (.error 500,db)
    | (.oidc,db) => (.error 401,db)
    | (.invalid,db) => (.error 401,db)
    | (.ok user,db) =>
      if user.totpEnabled then
        (.ok (.partialToken (issueToken now partialTokenTTL user.username twoFactorPending)),db)
      else (.ok (.token (issueToken now expiry user.username user.role)),db)

/-- `claims` is what the partial token validates to. -/
def handleLogin2FA (env : LoginEnv) (db : Store) (expiry now : ℤ) (claims : Option Claims)
    (code : String) : Except ℕ Claims × Store := match claims with
  | none => (.error 401,db)
  | some claims =>
    if claims.role≠twoFactorPending then (.error 400,db)
    else match (db.getUser claims.sub).row with
      | none => (.error 401,db)
      | some user =>
        let token:=issueToken now expiry user.username user.role
        if env.validateTOTP user.totpSecret code then (.ok token,db)
        else if user.totpRecoveryCodes="" then (.error 401,db)
        else match env.consumeRecoveryCode user.totpRecoveryCodes code with
          | none => (.error 401,db)
          | some left =>
            match db.updateUser {user with totpRecoveryCodes := left} with
            | .error _ => (.error 500,db)
            | .ok db => (.ok token,db)

def passwordSession (env : LoginEnv) (db : Store) (newID : ℕ) (expiry now : ℤ)
    (username password code : String) : Option String :=
  match handleLogin env db newID expiry now username password with
  | (.error _,_) => none
  | (.ok (.token claims),_) => some claims.sub
  | (.ok (.partialToken claims),db) =>
    match handleLogin2FA env db expiry now (some claims) code with
    | (.error _,_) => none
    | (.ok claims,_) => some claims.sub

variable {username password : String} {user : User} {db : Store} {env : LoginEnv}

theorem getUser_updateUser {db' : Store} {user' : User}
    (hu : (db.getUser username).row=some user) (hid : user'.id=user.id) (hw : db.updateUser user'=.ok db') :
    (db'.getUser username).row=some {user'.stored with username := username} := by
  obtain ⟨_,rfl⟩:=Store.ask_ok hw
  obtain ⟨_,hname⟩:=Store.getUser_row hu
  unfold Store.getUser Store.ask at hu ⊢
  split at hu
  · cases hu
  · rename_i hf
    rw [if_neg hf]
    have hfind : db.users.find? (fun u => u.username==username)=some user := hu
    show ((db.users.map _).find? _)=_
    rw [List.find?_map]
    have hp : (fun u : User => u.username==username) ∘
        (fun v => if v.id=user'.id then {user'.stored with username := v.username} else v) =
        fun u : User => u.username==username := by
      funext v
      simp only [Function.comp_apply]
      split <;> rfl
    rw [hp,hfind,Option.map_some,if_pos hid.symm,hname]

def providerTakes (env : LoginEnv) (user : User) (username password : String) : Bool :=
  provider user==authProviderLocal||(provider user==authProviderLDAP&&env.ldapEnabled &&
    (env.ldapAuthenticate username password).isSome)

/-- The account logs in with `user`'s data, however its row was rewritten. -/
structure LoggedIn (db : Store) (username : String) (user user' : User) : Prop where
  name : user'.username=username
  totpEnabled : user'.totpEnabled=user.totpEnabled
  row : ∃ stored, (db.getUser username).row=some stored ∧ stored.totpSecret=user.totpSecret

theorem LoggedIn.same (hu : (db.getUser username).row=some user) : LoggedIn db username user user :=
  ⟨(Store.getUser_row hu).2,rfl,user,hu,rfl⟩

theorem LoggedIn.updated {db' : Store} {user' : User}
    (hu : (db.getUser username).row=some user) (hid : user'.id=user.id)
    (hname : user'.username=user.username) (htotp : user'.totpEnabled=user.totpEnabled)
    (hsecret : user'.totpSecret=user.totpSecret) (hw : db.updateUser user'=.ok db') :
    LoggedIn db' username user user' :=
  ⟨hname.trans (Store.getUser_row hu).2,htotp,_,getUser_updateUser hu hid hw,hsecret⟩

theorem syncLDAP_loggedIn {role : Role} (hu : (db.getUser username).row=some user) :
    LoggedIn (syncLDAP db user role).2 username user (syncLDAP db user role).1 := by
  have hsame : LoggedIn db username user
      {user with role := if role≠"" then role else user.role,authProvider := authProviderLDAP} :=
    ⟨(Store.getUser_row hu).2,rfl,user,hu,rfl⟩
  unfold syncLDAP
  dsimp only
  split
  · split
    · exact hsame
    · rename_i hw
      exact .updated hu rfl rfl rfl rfl hw
  · exact hsame

theorem localLogin_loggedIn (hu : (db.getUser username).row=some user) (hp : provider user=authProviderLocal)
    (hv : env.verifyPassword user.passwordHash password=true) :
    ∃ user' db', localLogin env db user password=(.ok user',db') ∧ LoggedIn db' username user user' := by
  unfold localLogin
  rw [if_neg (by simp [hp,hv])]
  split
  · split
    · exact ⟨user,db,rfl,.same hu⟩
    · rename_i hash _
      dsimp only
      split
      · exact ⟨_,db,rfl,(Store.getUser_row hu).2,rfl,user,hu,rfl⟩
      · rename_i hw
        exact ⟨_,_,rfl,.updated hu rfl rfl rfl rfl hw⟩
  · exact ⟨user,db,rfl,.same hu⟩

theorem authenticate_loggedIn (newID : ℕ) (hu : (db.getUser username).row=some user)
    (hp : providerTakes env user username password=true)
    (hv : env.verifyPassword user.passwordHash password=true) :
    ∃ user' db', authenticatePasswordLogin env db newID username password=(.ok user',db') ∧
      LoggedIn db' username user user' := by
  unfold authenticatePasswordLogin
  cases hq : db.getUser username with
  | error _ =>
    rw [hq] at hu
    cases hu
  | ok found =>
    have hfound : found=some user := by
      rw [hq] at hu
      exact hu
    subst hfound
    dsimp only
    simp only [providerTakes,Bool.or_eq_true,Bool.and_eq_true,beq_iff_eq] at hp
    rcases hp with hlocal | ⟨⟨hldap,henabled⟩,hsome⟩
    · rw [if_neg (by rw [hlocal]; decide),if_neg (by rw [hlocal]; exact fun h => absurd h.2 (by decide))]
      exact localLogin_loggedIn hu hlocal hv
    · obtain ⟨role,hrole⟩:=Option.isSome_iff_exists.mp hsome
      rw [if_neg (by rw [hldap]; decide),if_pos ⟨henabled,hldap⟩,hrole]
      exact ⟨_,_,rfl,syncLDAP_loggedIn hu⟩

theorem authenticate_refused (newID : ℕ) (hu : (db.getUser username).row=some user)
    (hp : providerTakes env user username password=false) :
    ∃ r db', authenticatePasswordLogin env db newID username password=(r,db') ∧ ∀ user', r ≠ .ok user' := by
  unfold authenticatePasswordLogin
  cases hq : db.getUser username with
  | error _ =>
    rw [hq] at hu
    cases hu
  | ok found =>
    have hfound : found=some user := by
      rw [hq] at hu
      exact hu
    subst hfound
    dsimp only
    simp only [providerTakes,Bool.or_eq_false_iff,Bool.and_eq_false_iff,beq_eq_false_iff_ne] at hp
    split
    · exact ⟨.oidc,db,rfl,fun _ => by simp⟩
    · split
      · rename_i hldap
        have hnone : env.ldapAuthenticate username password=none := by
          rcases hp.2 with (hne | hoff) | hnone
          · exact absurd hldap.2 hne
          · rw [hldap.1] at hoff
            cases hoff
          · simpa using hnone
        rw [hnone]
        exact ⟨.invalid,db,rfl,fun _ => by simp⟩
      · unfold localLogin
        rw [if_pos (Or.inl hp.1)]
        exact ⟨.invalid,db,rfl,fun _ => by simp⟩

theorem passwordSession_some {newID : ℕ} {expiry now : ℤ} {code : String} (hu : (db.getUser username).row=some user)
    (hp : providerTakes env user username password=true)
    (hv : env.verifyPassword user.passwordHash password=true) (hne : username≠"" ∧ password≠"")
    (hcode : user.totpEnabled=true → env.validateTOTP user.totpSecret code=true) :
    passwordSession env db newID expiry now username password code=some username := by
  obtain ⟨user',db',hauth,hin⟩:=authenticate_loggedIn newID hu hp hv
  unfold passwordSession handleLogin
  rw [if_neg (by simp [hne]),hauth]
  dsimp only
  cases ht : user'.totpEnabled with
  | false =>
    simp [issueToken,hin.name]
  | true =>
    obtain ⟨stored,hstored,hsecret⟩:=hin.row
    have hvalid : env.validateTOTP stored.totpSecret code=true := by
      rw [hsecret]
      exact hcode (hin.totpEnabled.symm.trans ht)
    have hname:=(Store.getUser_row hstored).2
    simp [handleLogin2FA,issueToken,hin.name,hstored,hvalid,hname]

theorem passwordSession_none {newID : ℕ} {expiry now : ℤ} {code : String} (hu : (db.getUser username).row=some user)
    (hp : providerTakes env user username password=false) :
    passwordSession env db newID expiry now username password code=none := by
  obtain ⟨r,db',hauth,hno⟩:=authenticate_refused newID hu hp
  unfold passwordSession handleLogin
  by_cases hempty : username="" ∨ password=""
  · rw [if_pos hempty]
  · rw [if_neg hempty,hauth]
    cases r with
    | ok user' => exact absurd rfl (hno user')
    | invalid | oidc | internal => rfl

theorem provider_stored (u : User) (username : String) : provider {u.stored with username := username}=provider u := by
  unfold provider User.stored
  dsimp only
  by_cases h : u.authProvider=""
  · rw [if_pos h,if_neg (by decide)]
  · rw [if_neg h]
    exact if_neg h

end BetterDesk.Api
