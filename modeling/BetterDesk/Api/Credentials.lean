import BetterDesk.Auth.Jwt
import BetterDesk.Db.Store

/-! # Credentials of a request (api/auth_handlers.go, api/client_sessions.go) -/

namespace BetterDesk.Api
open Auth Db Text List

/-- A header value as net/http lets it through: tabs, and no other control
byte. -/
structure HeaderValue where
  bytes : Bytes
  valid : ∀ b∈bytes,b=9 ∨ (32≤b ∧ b≠127)

def HeaderValue.empty : HeaderValue := ⟨[],forall_mem_nil _⟩

@[simp] theorem HeaderValue.empty_bytes : HeaderValue.empty.bytes=[] := rfl

structure Request where
  authorization : HeaderValue
  xAPIKey : HeaderValue
  xForwardedProto : HeaderValue
  tls : Bool

structure Server where
  db : Store
  jwtManager : Option JWTManager
  sha256Hex : Bytes → String
  forceHTTPS : Bool

structure Ctx where
  role : Role
  username : String
  orgID : OrgID
  deriving DecidableEq

def twoFactorPending : Role := "__2fa_pending__"

def isHex (b : UInt8) : Bool := (48≤b&&b≤57)||(97≤b&&b≤102)

def isOpaqueClientToken (token : Bytes) : Bool :=
  token.length==64&&(token.map asciiLower).all isHex

/-- `authenticateClientSession`; moving the expiry on has no effect here. -/
def authenticateClientSession (s : Server) (now : ℤ) (token : Bytes) : Option User :=
  if isOpaqueClientToken token then do
    let sess ← (s.db.getClientSessionByTokenHash now (s.sha256Hex token)).row
    (s.db.getUserByID sess.userID).row
  else none

inductive Credential
  | session (user : User)
  | token (claims : Claims)
  | apiKey (key : APIKey)

def Credential.principal : Credential → String × Role
  | .session user => (user.username,user.role)
  | .token claims => (claims.sub,claims.role)
  | .apiKey key => ("apikey:" ++ key.name,key.role)

def Credential.orgID : Credential → OrgID
  | .token claims => claims.orgID
  | _ => ""

def bearerScheme : Bytes := lit "Bearer "

/-- The bearer token as `authenticateRequest` reads it: any case of the scheme,
white space around the token dropped. -/
def bearerToken (r : Request) : Option Bytes :=
  let bearer:=r.authorization.bytes
  if 7<bearer.length ∧ equalFold (bearer.take 7) bearerScheme=true then
    some (trimSpace (bearer.drop 7))
  else none

def apiKeyCredential (s : Server) (now : ℤ) (r : Request) : Option Credential :=
  if r.xAPIKey.bytes=[] then none
  else match (s.db.getAPIKeyByHash (s.sha256Hex r.xAPIKey.bytes)).row with
    | none => none
    | some k => match k.expiresAt with
      | some exp => if exp<now then none else some (.apiKey k)
      | none => some (.apiKey k)

/-- `authenticateRequest`: a client session or a token, then the API key. -/
def credential (s : Server) (now : ℤ) (r : Request) : Option Credential :=
  match bearerToken r with
  | some token =>
    if isOpaqueClientToken token then (authenticateClientSession s now token).map .session
    else match s.jwtManager.bind fun m => m.validate now token with
      | some claims =>
        if claims.role≠twoFactorPending then some (.token claims) else apiKeyCredential s now r
      | none => apiKeyCredential s now r
  | none => apiKeyCredential s now r

def authenticateRequest (s : Server) (now : ℤ) (r : Request) : Option (String × Role) :=
  (credential s now r).map Credential.principal

/-- `extractOrgIDFromRequest`: the scheme in this one case, nothing trimmed. -/
def extractOrgIDFromRequest (s : Server) (now : ℤ) (r : Request) : OrgID :=
  match s.jwtManager with
  | none => ""
  | some m =>
    let bearer:=r.authorization.bytes
    if bearer.length≤7 ∨ bearer.take 7≠bearerScheme then ""
    else match m.validate now (bearer.drop 7) with
      | none => ""
      | some claims => claims.orgID

def authMiddleware (s : Server) (now now' : ℤ) (r : Request) : Except ℕ Ctx :=
  if s.forceHTTPS ∧ ¬ r.tls ∧ r.xForwardedProto.bytes≠lit "https" then .error 403
  else match authenticateRequest s now r with
    | none => .error 401
    | some (username,role) =>
      if isDeviceRole role then .error 403
      else .ok ⟨role,username,extractOrgIDFromRequest s now' r⟩

def plainBearer (r : Request) : Prop :=
  r.authorization.bytes.take 7=bearerScheme ∧
    trimSpace (r.authorization.bytes.drop 7)=r.authorization.bytes.drop 7

instance (r : Request) : Decidable (plainBearer r) := by
  unfold plainBearer
  infer_instance

theorem spaceRunes_bytes : ∀ q∈spaceRunes,q≠[] ∧ ∀ b∈q,Base64.value b=none ∧ b≠dot := by
  decide +kernel

variable {s : Server} {r : Request} {now now' : ℤ} {claims : Claims} {m : JWTManager} {token scheme : Bytes}

theorem verify_untrimmed {t : Bytes} (hv : ∀ b∈t,b=9 ∨ (32≤b ∧ b≠127)) (h : trimSpace t≠t) : m.verify t=none := by
  cases hver : m.verify t with
  | none => rfl
  | some claims =>
    exfalso
    rcases trimSpace_ne h with ⟨q,hq,hpre⟩ | ⟨q,hq,hsuf⟩
    · obtain ⟨hne,hbytes⟩:=spaceRunes_bytes q hq
      obtain ⟨b,q',rfl⟩:=exists_cons_of_ne_nil hne
      obtain ⟨rest,rfl⟩:=hpre
      obtain ⟨ha,hd⟩:=hbytes b mem_cons_self
      have hb:=hv b mem_cons_self
      rcases JWTManager.verify_head hver with hb' | rfl | rfl | hb'
      · exact hb' ha
      · exact absurd hb (by decide)
      · exact absurd hb (by decide)
      · exact hd hb'
    · obtain ⟨hne,hbytes⟩:=spaceRunes_bytes q hq
      obtain ⟨q',b,rfl⟩:=eq_nil_or_concat q |>.resolve_left hne
      obtain ⟨rest,rfl⟩:=hsuf
      rw [concat_eq_append] at hver hbytes
      obtain ⟨ha,hd⟩:=hbytes b (mem_append_right _ mem_cons_self)
      rw [← append_assoc] at hver
      rcases JWTManager.verify_last hver with hb' | hb'
      · exact hb' ha
      · exact hd hb'

theorem verify_opaqueToken {t : Bytes} (h : isOpaqueClientToken t=true) : m.verify t=none := by
  cases hver : m.verify t with
  | none => rfl
  | some claims =>
    exfalso
    obtain ⟨header,payload,rfl,_⟩:=JWTManager.verify_split hver
    simp only [isOpaqueClientToken,Bool.and_eq_true,all_eq_true,mem_map] at h
    have hdot : isHex (asciiLower dot)=true := h.2 _ ⟨dot,by simp,rfl⟩
    revert hdot
    decide

theorem extractOrgID_plain
    (hm : s.jwtManager=some m) (hlen : 7<r.authorization.bytes.length) (hp : plainBearer r) :
    extractOrgIDFromRequest s now r =
      match m.validate now (trimSpace (r.authorization.bytes.drop 7)) with
      | none => ""
      | some claims => claims.orgID := by
  have hno : ¬ (r.authorization.bytes.length≤7 ∨ r.authorization.bytes.take 7≠bearerScheme) := by
    simp only [not_or,not_not,hp.1,and_true]
    omega
  simp only [extractOrgIDFromRequest,hm,if_neg hno,hp.2]

theorem extractOrgID_not_plain (hp : ¬ plainBearer r) : extractOrgIDFromRequest s now r="" := by
  unfold extractOrgIDFromRequest
  cases s.jwtManager with
  | none => rfl
  | some m =>
    dsimp only
    split
    · rfl
    · rename_i hno
      simp only [not_or,not_not] at hno
      have hws : trimSpace (r.authorization.bytes.drop 7)≠r.authorization.bytes.drop 7 :=
        fun h => hp ⟨hno.2,h⟩
      have hnone : m.validate now (r.authorization.bytes.drop 7)=none := by
        rw [JWTManager.validate,verify_untrimmed
          (fun b hb => r.authorization.valid b (mem_of_mem_drop hb)) hws]
        rfl
      rw [hnone]

theorem apiKeyCredential_some {c : Credential} (h : apiKeyCredential s now r=some c) : ∃ k, c=.apiKey k := by
  unfold apiKeyCredential at h
  split at h
  · cases h
  · split at h
    · cases h
    · rename_i k _
      refine ⟨k,?_⟩
      split at h
      · split at h <;> cases h
        rfl
      · cases h
        rfl

theorem credential_cases {c : Credential} (h : credential s now r=some c) : (∃ k, c=.apiKey k) ∨
    7<r.authorization.bytes.length ∧ ((∃ user, c=.session user ∧
        isOpaqueClientToken (trimSpace (r.authorization.bytes.drop 7))=true) ∨
      ∃ m claims, c=.token claims ∧ s.jwtManager=some m ∧ claims.role≠twoFactorPending ∧
        m.validate now (trimSpace (r.authorization.bytes.drop 7))=some claims) := by
  unfold credential at h
  split at h
  · rename_i token hb
    unfold bearerToken at hb
    dsimp only at hb
    split at hb
    · rename_i hlen
      cases hb
      split at h
      · rename_i hop
        obtain ⟨user,_,hc⟩:=Option.map_eq_some_iff.mp h
        exact Or.inr ⟨hlen.1,Or.inl ⟨user,hc.symm,hop⟩⟩
      · split at h
        · rename_i claims hv
          obtain ⟨m,hm,hv⟩:=Option.bind_eq_some_iff.mp hv
          split at h
          · rename_i hrole
            cases h
            exact Or.inr ⟨hlen.1,Or.inr ⟨m,claims,rfl,hm,hrole,hv⟩⟩
          · exact Or.inl (apiKeyCredential_some h)
        · exact Or.inl (apiKeyCredential_some h)
    · cases hb
  · exact Or.inl (apiKeyCredential_some h)

theorem credential_of_token (hb : bearerToken r=some token) (ho : isOpaqueClientToken token=false)
    (hm : s.jwtManager=some m) (hv : m.verify token=some claims)
    (hc : JWTManager.current now claims=true) (hrole : claims.role≠twoFactorPending) :
    credential s now r=some (.token claims) := by
  have hval : m.validate now token=some claims := JWTManager.validate_eq_some.mpr ⟨hv,hc⟩
  simp [credential,hb,ho,hm,hval,if_pos hrole]

theorem authMiddleware_ok {ctx : Ctx}
    (h : authMiddleware s now now' r=.ok ctx) : ∃ c, credential s now r=some c ∧
      c.principal=(ctx.username,ctx.role) ∧ isDeviceRole ctx.role=false ∧
      ctx.orgID=extractOrgIDFromRequest s now' r := by
  unfold authMiddleware authenticateRequest at h
  split at h
  · cases h
  · split at h
    · cases h
    · rename_i username role ha
      obtain ⟨c,hc,hp⟩:=Option.map_eq_some_iff.mp ha
      split at h
      · cases h
      · rename_i hd
        cases h
        exact ⟨c,hc,hp,by simpa using hd,rfl⟩

theorem extractOrgID_token
    (h : credential s now r=some (.token claims)) : extractOrgIDFromRequest s now' r =
      if plainBearer r ∧ JWTManager.current now' claims=true then claims.orgID else "" := by
  rcases credential_cases h with ⟨k,hk⟩ | ⟨hlen,⟨user,hu,_⟩ | ⟨m,claims',hc,hm,_,hv⟩⟩
  · cases hk
  · cases hu
  · cases hc
    by_cases hp : plainBearer r
    · rw [extractOrgID_plain hm hlen hp,JWTManager.validate,(JWTManager.validate_eq_some.mp hv).1]
      cases hcur : JWTManager.current now' claims with
      | false => simp [Option.filter,hcur]
      | true => simp [Option.filter,hcur,hp]
    · rw [extractOrgID_not_plain hp,if_neg fun hn => hp hn.1]

theorem extractOrgID_session {user : User}
    (h : credential s now r=some (.session user)) : extractOrgIDFromRequest s now' r="" := by
  by_cases hp : plainBearer r
  · rcases credential_cases h with ⟨k,hk⟩ | ⟨hlen,⟨user',_,hop⟩ | ⟨_,_,hc,_⟩⟩
    · cases hk
    · cases hm : s.jwtManager with
      | none => simp only [extractOrgIDFromRequest,hm]
      | some m =>
        rw [extractOrgID_plain hm hlen hp,JWTManager.validate,verify_opaqueToken hop]
        rfl
    · cases hc
  · exact extractOrgID_not_plain hp

def ScopeMatches (s : Server) (now now' : ℤ) (r : Request) (c : Credential) : Prop :=
  extractOrgIDFromRequest s now' r=c.orgID ∧
    ∀ ctx, authMiddleware s now now' r=.ok ctx → ctx.orgID=c.orgID

def Credential.current (now : ℤ) : Credential → Bool
  | .token claims => JWTManager.current now claims
  | _ => true

theorem scope_of_accepted_token (s : Server) (now now' : ℤ) (r : Request) (c : Credential)
    (h : credential s now r=some c) (htoken : ∀ k, c ≠ .apiKey k) :
    ScopeMatches s now now' r c ↔ c.orgID="" ∨ plainBearer r ∧ c.current now'=true := by
  have hscope : ScopeMatches s now now' r c ↔ extractOrgIDFromRequest s now' r=c.orgID := by
    refine ⟨And.left,fun he => ⟨he,fun ctx hctx => ?_⟩⟩
    obtain ⟨_,_,_,_,hs⟩:=authMiddleware_ok hctx
    exact hs.trans he
  rw [hscope]
  cases c with
  | session user =>
    rw [extractOrgID_session h]
    exact ⟨fun _ => Or.inl rfl,fun _ => rfl⟩
  | apiKey k => exact absurd rfl (htoken k)
  | token claims =>
    rw [extractOrgID_token h]
    split
    · rename_i hp
      exact ⟨fun _ => Or.inr hp,fun _ => rfl⟩
    · rename_i hp
      exact ⟨fun he => Or.inl he.symm,fun he => (he.resolve_right hp).symm⟩

def bearerRequest (scheme token : Bytes)
    (h : ∀ b∈scheme++token, b=9 ∨ (32≤b ∧ b≠127)) : Request :=
  ⟨⟨scheme++token,h⟩,⟨[],by simp⟩,⟨[],by simp⟩,false⟩

theorem bearerRequest_token {h : ∀ b∈scheme++token, b=9 ∨ (32≤b ∧ b≠127)} (hlen : scheme.length=7)
    (hf : equalFold scheme bearerScheme=true) (htrim : trimSpace token=token)
    (hv : m.verify token=some claims) : bearerToken (bearerRequest scheme token h)=some token := by
  have hne : token≠[] := by
    rintro rfl
    obtain ⟨header,payload,htok,_⟩:=JWTManager.verify_split hv
    simp at htok
  have hmore : 7<(scheme++token).length := by
    have := length_pos_iff.mpr hne
    rw [length_append,hlen]
    omega
  simp only [bearerToken,bearerRequest,← hlen,take_left,drop_left]
  rw [hlen,if_pos ⟨hmore,hf⟩,htrim]

theorem bearerRequest_credential {h : ∀ b∈scheme++token, b=9 ∨ (32≤b ∧ b≠127)}
    (hlen : scheme.length=7) (hf : equalFold scheme bearerScheme=true)
    (htrim : trimSpace token=token) (ho : isOpaqueClientToken token=false)
    (hm : s.jwtManager=some m) (hv : m.verify token=some claims)
    (hc : JWTManager.current now claims=true) (hrole : claims.role≠twoFactorPending) :
    credential s now (bearerRequest scheme token h)=some (.token claims) :=
  credential_of_token (bearerRequest_token hlen hf htrim hv) ho hm hv hc hrole

theorem bearerRequest_plain {h : ∀ b∈scheme++token, b=9 ∨ (32≤b ∧ b≠127)} (hlen : scheme.length=7)
    (htrim : trimSpace token=token) : plainBearer (bearerRequest scheme token h) ↔ scheme=bearerScheme := by
  simp [plainBearer,bearerRequest,← hlen,htrim]

theorem authMiddleware_token (hs : s.forceHTTPS=false) (h : credential s now r=some (.token claims))
    (hd : isDeviceRole claims.role=false) : authMiddleware s now now' r =
      .ok ⟨claims.role,claims.sub,extractOrgIDFromRequest s now' r⟩ := by
  simp [authMiddleware,authenticateRequest,hs,h,Credential.principal,hd]

/-- A session of the member `eve` of organization `acme`, signed with the
secret "secret". -/
def acmeClaims : Claims := ⟨"eve","user","acme",jwtAudience,jwtIssuer,1000,87400⟩

def acmeToken : Bytes :=
  lit "eyJhbGciOiJIUzI1NiIsInR5cCI6IkpXVCJ9.eyJzdWIiOiJldmUiLCJyb2x" ++
    lit "lIjoidXNlciIsIm9yZ19pZCI6ImFjbWUiLCJhdWQiOiJiZXR0ZXJkZXNrLWF" ++
    lit "waSIsImlzcyI6ImJldHRlcmRlc2stc2VydmVyIiwiaWF0IjoxMDAwLCJuYmY" ++
  lit "iOjEwMDAsImV4cCI6ODc0MDAsImp0aSI6IjBmIn0.caJnM3QtJk_g1oLW0ZF" ++
    lit "HHEtogxc1defhSDWpQbDjisk"

def acmeManager : JWTManager where
  hmac _ := [113,162,103,51,116,45,38,79,224,214,130,214,209,145,71,28,75,104,131,
    23,53,117,231,225,72,53,169,65,176,227,138,201]
  unmarshalHeader b := if b=lit "\x7b\"alg\":\"HS256\",\"typ\":\"JWT\"\x7d" then some "HS256" else none
  unmarshalClaims b := if b =
    lit "\x7b\"sub\":\"eve\",\"role\":\"user\",\"org_id\":\"acme\",\"aud\":\"betterdesk" ++
    lit "-api\",\"iss\":\"betterdesk-server\",\"iat\":1000,\"nbf\":1000,\"exp\":" ++
    lit "87400,\"jti\":\"0f\"\x7d"
    then some acmeClaims else none

def acmeServer : Server := ⟨.empty,some acmeManager,fun _ => "",false⟩

theorem acmeToken_trimmed : trimSpace acmeToken=acmeToken := by decide +kernel

theorem acmeToken_verifies : acmeManager.verify acmeToken=some acmeClaims := by decide +kernel

def acmeRequest : Request := bearerRequest (lit "Bearer ") acmeToken (by decide +kernel)

theorem acmeRequest_credential (hm : s.jwtManager=some acmeManager) :
    credential s 2000 acmeRequest=some (.token acmeClaims) :=
  bearerRequest_credential rfl (by decide) acmeToken_trimmed (by decide +kernel) hm
    acmeToken_verifies (by decide) (by decide)

theorem acme_token_scope : ScopeMatches acmeServer 2000 2000 acmeRequest (.token acmeClaims) ↔
      "acme" = "" ∨ plainBearer acmeRequest ∧ (Credential.token acmeClaims).current 2000=true :=
  scope_of_accepted_token acmeServer 2000 2000 acmeRequest (.token acmeClaims)
    (acmeRequest_credential rfl) (by simp)

theorem lower_case_scheme_loses_scope : ¬ ∀ s now now' r c, credential s now r=some c → (∀ k, c ≠ .apiKey k) →
      ScopeMatches s now now' r c := by
  intro h
  have hlower : ∀ b∈lit "bearer " ++ acmeToken, b=9 ∨ (32≤b ∧ b≠127) := by decide +kernel
  have hacc : credential acmeServer 2000 (bearerRequest (lit "bearer ") acmeToken hlower) =
      some (.token acmeClaims) :=
    bearerRequest_credential rfl (by decide) acmeToken_trimmed (by decide +kernel) rfl
      acmeToken_verifies (by decide) (by decide)
  have hscope:=(h acmeServer 2000 2000 _ _ hacc (by simp)).1
  rw [extractOrgID_not_plain] at hscope
  · revert hscope
    decide
  · rw [bearerRequest_plain rfl acmeToken_trimmed]
    decide

end BetterDesk.Api
