import BetterDesk.Api.Login

/-! # Credentials of the CDAP gateway (cdap/auth.go) -/

namespace BetterDesk.Cdap
open Auth Db Text Api

/-- `authUserPassword`: the user name and the role. The provider of the account
is not looked at. -/
def authUserPassword (env : LoginEnv) (db : Store) (username password totpCode : String) :
    Option (String × Role) := if username="" ∨ password="" then none
  else match (db.getUser username).row with
    | none => none
    | some user =>
      if env.verifyPassword user.passwordHash password=false then none
      else if user.totpEnabled ∧ (totpCode="" ∨ env.validateTOTP user.totpSecret totpCode=false) then
        none
      else some (user.username,user.role)

/-- `authAPIKey`; the expiry of the key is not looked at. -/
def authAPIKey (s : Server) (key : HeaderValue) : Option (String × Role) :=
  if key.bytes=[] then none
  else match (s.db.getAPIKeyByHash (s.sha256Hex key.bytes)).row with
    | none => none
    | some k => some ("apikey:" ++ k.name,k.role)

def PasswordParity (env : LoginEnv) (db : Store) (newID : ℕ) (expiry now : ℤ)
    (username password totpCode : String) : Prop :=
  ∀ user role, authUserPassword env db username password totpCode=some (user,role) →
    passwordSession env db newID expiry now username password totpCode=some user

def rowMatches (env : LoginEnv) (user : User) (password totpCode : String) : Bool :=
  env.verifyPassword user.passwordHash password &&
    (!user.totpEnabled||(totpCode != ""&&env.validateTOTP user.totpSecret totpCode))

theorem authUserPassword_some {env : LoginEnv} {db : Store} {username password totpCode name : String}
    {role : Role} (h : authUserPassword env db username password totpCode=some (name,role)) :
    username≠"" ∧ password≠"" ∧ name=username ∧ ∃ user, (db.getUser username).row=some user ∧
      rowMatches env user password totpCode=true := by
  unfold authUserPassword at h
  split at h
  · cases h
  · rename_i hne
    rw [not_or] at hne
    split at h
    · cases h
    · rename_i user hu
      split at h
      · cases h
      · rename_i hv
        split at h
        · cases h
        · rename_i htotp
          cases h
          refine ⟨hne.1,hne.2,(Store.getUser_row hu).2,user,hu,?_⟩
          cases ht : user.totpEnabled with
          | false => simpa [rowMatches,ht] using hv
          | true =>
            simp only [ht,true_and,not_or] at htotp
            simpa [rowMatches,ht,htotp.1] using And.intro hv htotp.2

theorem authUserPassword_of_matches {env : LoginEnv} {db : Store} {username password totpCode : String}
    {user : User} (hne : username≠"" ∧ password≠"") (hu : (db.getUser username).row=some user)
    (hm : rowMatches env user password totpCode=true) :
    authUserPassword env db username password totpCode=some (username,user.role) := by
  simp only [rowMatches,Bool.and_eq_true,Bool.or_eq_true,Bool.not_eq_true',bne_iff_ne] at hm
  have hno : ¬ (user.totpEnabled=true ∧
      (totpCode="" ∨ env.validateTOTP user.totpSecret totpCode=false)) := by
    rintro ⟨ht,hbad⟩
    rcases hm.2 with hoff | ⟨hcode,hvalid⟩
    · rw [ht] at hoff
      cases hoff
    · rcases hbad with hempty | hwrong
      · exact hcode hempty
      · rw [hvalid] at hwrong
        cases hwrong
  simp only [authUserPassword,if_neg (show ¬ (username="" ∨ password="") by simp [hne]),hu,hm.1,
    Bool.true_eq_false,if_false,if_neg hno,(Store.getUser_row hu).2]

theorem password_parity_iff (env : LoginEnv) (db : Store) (newID : ℕ) (expiry now : ℤ)
    (username password totpCode : String) : PasswordParity env db newID expiry now username password totpCode ↔
      username="" ∨ password="" ∨ ∀ user, (db.getUser username).row=some user →
        rowMatches env user password totpCode=true → providerTakes env user username password=true := by
  constructor
  · intro h
    by_cases hname : username=""
    · exact Or.inl hname
    by_cases hpass : password=""
    · exact Or.inr (Or.inl hpass)
    refine Or.inr (Or.inr fun user hu hm => ?_)
    by_contra hp
    have hsession:=h _ _ (authUserPassword_of_matches ⟨hname,hpass⟩ hu hm)
    rw [passwordSession_none hu (by simpa using hp)] at hsession
    cases hsession
  · intro h name role hcdap
    obtain ⟨hname,hpass,rfl,user,hu,hm⟩:=authUserPassword_some hcdap
    have hp:=(h.resolve_left hname).resolve_left hpass user hu hm
    simp only [rowMatches,Bool.and_eq_true,Bool.or_eq_true,Bool.not_eq_true'] at hm
    refine passwordSession_some hu hp hm.1 ⟨hname,hpass⟩ fun ht => ?_
    rcases hm.2 with hoff | hcode
    · rw [ht] at hoff
      cases hoff
    · exact hcode.2

def keyRequest (key : HeaderValue) : Request := ⟨.empty,key,.empty,false⟩

/-- The REST API accepts the request as `username`. -/
def RestAccepts (s : Server) (now : ℤ) (r : Request) (username : String) : Prop :=
  ∃ c, credential s now r=some c ∧ c.principal.1=username ∧ isDeviceRole c.principal.2=false

def KeyParity (s : Server) (now : ℤ) (key : HeaderValue) : Prop :=
  ∀ name role, authAPIKey s key=some (name,role) → RestAccepts s now (keyRequest key) name

def keyUsable (now : ℤ) (k : APIKey) : Bool :=
  !isDeviceRole k.role&&!(k.expiresAt.any fun exp => decide (exp<now))

theorem keyRequest_credential {s : Server} {now : ℤ} {key : HeaderValue} {k : APIKey}
    (hne : key.bytes≠[]) (hk : (s.db.getAPIKeyByHash (s.sha256Hex key.bytes)).row=some k) :
    credential s now (keyRequest key) =
      if (k.expiresAt.any fun exp => decide (exp<now)) then none else some (.apiKey k) := by
  have hb : bearerToken (keyRequest key)=none := by simp [bearerToken,keyRequest]
  have hkey : (keyRequest key).xAPIKey=key := rfl
  simp only [credential,hb,apiKeyCredential,hkey,if_neg hne,hk]
  cases k.expiresAt with
  | none => rfl
  | some exp => simp

theorem key_parity_iff (s : Server) (now : ℤ) (key : HeaderValue) : KeyParity s now key ↔ key.bytes=[] ∨
      ∀ k, (s.db.getAPIKeyByHash (s.sha256Hex key.bytes)).row=some k → keyUsable now k=true := by
  by_cases hne : key.bytes=[]
  · refine ⟨fun _ => Or.inl hne,fun _ name role h => ?_⟩
    simp [authAPIKey,hne] at h
  · simp only [hne,false_or,KeyParity,authAPIKey,if_false]
    cases hk : (s.db.getAPIKeyByHash (s.sha256Hex key.bytes)).row with
    | none => simp
    | some k =>
      simp only [Option.some.injEq,Prod.mk.injEq,forall_eq',RestAccepts,keyRequest_credential hne hk]
      cases hexp : k.expiresAt.any fun exp => decide (exp<now) with
      | true => simp [keyUsable,hexp]
      | false => simp [keyUsable,hexp,Credential.principal]

end BetterDesk.Cdap
