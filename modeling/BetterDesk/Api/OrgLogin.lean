import BetterDesk.Api.Routes

/-! # Organization logins (api/org_handlers.go) -/

namespace BetterDesk.Api
open Auth Db Text List

structure OrgLoginBody where
  orgSlug : String
  orgID : OrgID
  username : String
  password : String

/-- The claims of the token, or the status of the refusal. `compareHash` is
bcrypt. -/
def handleOrgLogin (s : Server) (compareHash : String → String → Bool) (expiry now : ℤ)
    (body : OrgLoginBody) : Except ℕ Claims := do
  let username:=trimString body.username
  if username="" ∨ body.password="" then throw 400
  let orgID ←
    if body.orgID≠"" then pure body.orgID
    else if body.orgSlug≠"" then
      match (s.db.getOrganizationBySlug body.orgSlug).row with
      | none => throw 404
      | some org => pure org.id
    else throw 400
  match (s.db.getOrgUserByUsername orgID username).row with
  | none => throw 401
  | some user =>
    if compareHash user.passwordHash body.password=false then throw 401
    if s.jwtManager.isNone then throw 500
    pure ⟨user.username,user.role,orgID,jwtAudience,jwtIssuer,now,now+expiry⟩

theorem handleOrgLogin_claims {s : Server} {compareHash : String → String → Bool} {expiry now : ℤ}
    {body : OrgLoginBody} {claims : Claims} (h : handleOrgLogin s compareHash expiry now body=.ok claims) :
    validOrgRole claims.role=true ∧ claims.sub≠"" ∧ claims.orgID≠"" := by
  unfold handleOrgLogin at h
  dsimp only at h
  by_cases h1 : trimString body.username="" ∨ body.password=""
  · rw [if_pos h1] at h
    cases h
  · rw [if_neg h1] at h
    have finish : ∀ orgID, orgID≠"" →
        (match (s.db.getOrgUserByUsername orgID (trimString body.username)).row with
          | none => throw 401
          | some user => do
            if compareHash user.passwordHash body.password=false then throw 401
            if s.jwtManager.isNone then throw 500
            pure ⟨user.username,user.role,orgID,jwtAudience,jwtIssuer,now,now+expiry⟩ :
          Except ℕ Claims)=.ok claims →
        validOrgRole claims.role=true ∧ claims.sub≠"" ∧ claims.orgID≠"" := by
      intro orgID horg h
      cases hu : (s.db.getOrgUserByUsername orgID (trimString body.username)).row with
      | none =>
        rw [hu] at h
        cases h
      | some user =>
        rw [hu] at h
        dsimp only at h
        obtain ⟨_,_,hname⟩:=Store.getOrgUserByUsername_row hu
        split at h
        · cases h
        · split at h
          · cases h
          · cases h
            exact ⟨user.role_valid,by rw [hname]; exact fun he => h1 (Or.inl he),horg⟩
    by_cases h2 : body.orgID≠""
    · rw [if_pos h2] at h
      exact finish body.orgID h2 h
    · rw [if_neg h2] at h
      by_cases h3 : body.orgSlug≠""
      · rw [if_pos h3] at h
        cases ho : (s.db.getOrganizationBySlug body.orgSlug).row with
        | none =>
          rw [ho] at h
          cases h
        | some org =>
          rw [ho] at h
          exact finish org.id org.id_nonempty h
      · rw [if_neg h3] at h
        cases h

theorem unprivileged_of_orgRole {role : Role} (h : validOrgRole role=true) (ha : role≠roleAdmin)
    (ho : role≠roleOperator) : Unprivileged role := by
  rcases validOrgRole_cases h with rfl | rfl | rfl | rfl
  · exact unprivileged_owner
  · exact absurd rfl ha
  · exact absurd rfl ho
  · exact unprivileged_user

/-- What the route serves lies inside the organization: nothing but membership
is asked, of this organization, and the device belongs to it. -/
structure Route.Inside (db : Store) (params : String → String) (orgID : OrgID) (route : Route) :
    Prop where
  guards : ∀ g∈route.guards,g=.orgMembership "id" ∧ params "id" = orgID
  device : route.peerScope=true ∨ route.onPeer=true →
    ∃ d∈db.orgDevices,d.orgID=orgID ∧ d.deviceID=params "id"

def Confined (db : Store) (ctx : Ctx) (orgID : OrgID) (routes : List Route) : Prop :=
  ∀ route∈routes, ∀ params, route.admits db params ctx=true → route.Inside db params orgID

def guardedRoutes : List Route := apiRoutes.filter Route.guarded

theorem Unprivileged.confined {db : Store} {ctx : Ctx} {orgID : OrgID} (h : Unprivileged ctx.role)
    (horg : ctx.orgID=orgID) (hne : orgID≠"")
    (hmember : ∀ o, o≠"" → o≠orgID → (db.getOrgUserByUsername o ctx.username).row=none) :
    ∀ route∈apiRoutes, ∀ params, route.admits db params ctx=true →
      (∀ g∈route.guards,g=.orgMembership "id" ∧ params "id" = orgID) ∧ (route.peerScope=true →
        ∃ d∈db.orgDevices,d.orgID=orgID ∧ d.deviceID=params "id") := by
  intro route hroute params hadm
  simp only [Route.admits,Bool.and_eq_true,all_eq_true,Bool.or_eq_true] at hadm
  refine ⟨fun g hg => ?_,fun hs => ?_⟩
  · have hpass:=hadm.1 g hg
    have husual:=apiRoutes_guards route hroute g hg
    cases g with
    | role role =>
      rw [Guard.check,h.requireRole_fails (of_decide_eq_true husual)] at hpass
      cases hpass
    | permission perm =>
      rw [Guard.check,h.requirePermission_fails db perm] at hpass
      cases hpass
    | panelAdmin =>
      rw [Guard.check,h.requirePanelAdmin_fails] at hpass
      cases hpass
    | orgMembership param =>
      obtain rfl : param="id" := beq_iff_eq.mp husual
      refine ⟨rfl,?_⟩
      obtain ⟨htarget,hown | ⟨_,hdb⟩⟩:=(h.requireOrgMembership_iff db (params "id")).mp hpass
      · rw [← hown,horg]
      · by_contra hother
        rw [hmember _ htarget hother] at hdb
        cases hdb
  · have hscope : peerOrgScopeCheck db (params "id") ctx=true := by
      rcases hadm.2 with hn | hn
      · rw [hs] at hn
        cases hn
      · exact hn
    rcases (h.peerOrgScopeCheck_iff db (params "id")).mp hscope with ho | hrow
    · exact absurd (horg ▸ ho) hne
    · obtain ⟨d,hd⟩:=Option.isSome_iff_exists.mp hrow
      obtain ⟨hmem,hdo,hdd⟩:=Store.getOrgDevice_row hd
      exact ⟨d,hmem,hdo.trans horg,hdd⟩

theorem exists_foreign_device (db : Store) (orgID : OrgID) :
    ∃ peerID, ¬ ∃ d∈db.orgDevices,d.orgID=orgID ∧ d.deviceID=peerID := by
  obtain ⟨p,hp⟩:=exists_not_mem (db.orgDevices.map OrgDevice.deviceID)
  refine ⟨p,fun ⟨d,hd,_,hdp⟩ => hp ?_⟩
  rw [← hdp]
  exact mem_map_of_mem hd

def statusRoute : Route := ⟨"GET","/api/peers/:id/status",[],false⟩
def metricsRoute : Route := ⟨"GET","/api/peers/:id/metrics",[],true⟩
def configRoute : Route := ⟨"GET","/api/config/:key",[.permission permServerConfig],false⟩
def wolRoute : Route := ⟨"POST","/api/peers/:id/wol",[.role roleOperator],false⟩
def orgRoute : Route := ⟨"GET","/api/org/:id",[.orgMembership "id"],false⟩

theorem routes_registered : statusRoute∈apiRoutes ∧ metricsRoute∈guardedRoutes ∧
    configRoute∈guardedRoutes ∧ wolRoute∈guardedRoutes ∧ orgRoute∈guardedRoutes := by
  decide

theorem peer_routes_guards : ∀ route∈apiRoutes,route.onPeer=true → .orgMembership "id"∉route.guards := by
  decide +kernel

theorem not_confined (db : Store) (ctx : Ctx) (orgID : OrgID) : ¬ Confined db ctx orgID apiRoutes := by
  intro h
  obtain ⟨p,hp⟩:=exists_foreign_device db orgID
  exact hp ((h statusRoute routes_registered.1 (fun _ => p) rfl).device (Or.inr (by decide)))

theorem org_login_confinement (s₀ : Server) (compareHash : String → String → Bool) (expiry now₀ : ℤ)
    (body : OrgLoginBody) (claims : Claims) (hlogin : handleOrgLogin s₀ compareHash expiry now₀ body=.ok claims)
    (s : Server) (now now' : ℤ) (r : Request) (ctx : Ctx) (hcred : credential s now r=some (.token claims))
    (hctx : authMiddleware s now now' r=.ok ctx) : (Confined s.db ctx claims.orgID guardedRoutes ↔
      plainBearer r ∧ JWTManager.current now' claims=true ∧
      claims.role≠orgRoleAdmin ∧ claims.role≠orgRoleOperator ∧
      ∀ o, o≠"" → o≠claims.orgID → (s.db.getOrgUserByUsername o claims.sub).row=none) ∧
    ¬ Confined s.db ctx claims.orgID apiRoutes := by
  obtain ⟨hvalid,hsub,horg⟩:=handleOrgLogin_claims hlogin
  obtain ⟨c,hc,hprin,_,hscope⟩:=authMiddleware_ok hctx
  rw [hcred,Option.some.injEq] at hc
  subst hc
  obtain ⟨husername,hrole⟩:=Prod.mk.inj hprin
  rw [extractOrgID_token hcred] at hscope
  refine ⟨⟨fun hconf => ?_,fun hcond => ?_⟩,not_confined s.db ctx claims.orgID⟩
  · obtain ⟨_,hmetrics,hconfig,hwol,horgr⟩:=routes_registered
    have hadmin : claims.role≠orgRoleAdmin := by
      intro ha
      have hadm : configRoute.admits s.db (fun _ => "") ctx=true := by
        have hsuper : isSuperAdminRole ctx.role=true := by
          rw [← hrole,ha]
          decide
        simp [Route.admits,configRoute,Guard.check,requirePermission_super hsuper,Verdict.passes]
      exact absurd ((hconf configRoute hconfig _ hadm).guards (.permission permServerConfig)
        mem_cons_self).1 (by decide)
    have hoper : claims.role≠orgRoleOperator := by
      intro ha
      have hadm : wolRoute.admits s.db (fun _ => "") ctx=true := by
        simp [Route.admits,wolRoute,Guard.check,requireRole,← hrole,ha]
        decide
      exact absurd ((hconf wolRoute hwol _ hadm).guards (.role roleOperator) mem_cons_self).1
        (by decide)
    have hu : Unprivileged ctx.role := hrole ▸ unprivileged_of_orgRole hvalid hadmin hoper
    have hread : plainBearer r ∧ JWTManager.current now' claims=true := by
      by_contra hn
      rw [if_neg hn] at hscope
      obtain ⟨p,hp⟩:=exists_foreign_device s.db claims.orgID
      have hadm : metricsRoute.admits s.db (fun _ => p) ctx=true := by
        have hpeer:=(hu.peerOrgScopeCheck_iff s.db p).mpr (Or.inl hscope)
        simp [Route.admits,metricsRoute,hpeer]
      exact hp ((hconf metricsRoute hmetrics _ hadm).device (Or.inl rfl))
    refine ⟨hread.1,hread.2,hadmin,hoper,fun o ho hne => ?_⟩
    by_contra hrow
    have hadm : orgRoute.admits s.db (fun _ => o) ctx=true := by
      have hmem:=(hu.requireOrgMembership_iff s.db o).mpr
        ⟨ho,Or.inr ⟨husername ▸ hsub,husername ▸ Option.isSome_iff_ne_none.mpr hrow⟩⟩
      simp [Route.admits,orgRoute,Guard.check,hmem]
    exact hne ((hconf orgRoute horgr _ hadm).guards (.orgMembership "id") mem_cons_self).2
  · obtain ⟨hp,hcur,hadmin,hoper,hmember⟩:=hcond
    rw [if_pos ⟨hp,hcur⟩] at hscope
    have hu : Unprivileged ctx.role := hrole ▸ unprivileged_of_orgRole hvalid hadmin hoper
    intro route hroute params hadm
    obtain ⟨hmem,hguarded⟩:=mem_filter.mp hroute
    obtain ⟨hguards,hdevice⟩ := hu.confined hscope horg (husername ▸ hmember) route hmem params hadm
    refine ⟨hguards,fun hd => hdevice ?_⟩
    rcases hd with hd | hd
    · exact hd
    · -- no route on a device asks for membership, so this one has no guard but the scope check
      have hno:=peer_routes_guards route hmem hd
      have hempty : route.guards=[] := eq_nil_iff_forall_not_mem.mpr fun g hg =>
        hno ((hguards g hg).1 ▸ hg)
      simpa [Route.guarded,hempty] using hguarded

/-- The organization `acme` with a plain member, an administrator and one
device. -/
def acmeStore : Store where
  users := []
  organizations := []
  orgUsers := [⟨"1","acme",0,"eve","","","hash of swordfish","user",by decide⟩,
    ⟨"2","acme",0,"olga","","","hash of swordfish","admin",by decide⟩]
  orgInvitations := []
  orgDevices := [⟨"acme","office"⟩]
  rolePermissions := []
  apiKeys := []
  clientSessions := []
  fails _ := false

def swordfish (hash password : String) : Bool :=
  hash=="hash of swordfish"&&password=="swordfish"

theorem acme_member_confinement : (Confined acmeStore ⟨"user","eve","acme"⟩ "acme" guardedRoutes ↔
      plainBearer acmeRequest ∧ JWTManager.current 2000 acmeClaims=true ∧
      acmeClaims.role≠orgRoleAdmin ∧ acmeClaims.role≠orgRoleOperator ∧
      ∀ o, o≠"" → o≠"acme" → (acmeStore.getOrgUserByUsername o "eve").row=none) ∧
    ¬ Confined acmeStore ⟨"user","eve","acme"⟩ "acme" apiRoutes := by
  have hcred : credential ⟨acmeStore,some acmeManager,fun _ => "",false⟩ 2000 acmeRequest =
      some (.token acmeClaims) := acmeRequest_credential rfl
  have hplain : plainBearer acmeRequest := (bearerRequest_plain rfl acmeToken_trimmed).mpr rfl
  refine org_login_confinement ⟨acmeStore,some acmeManager,fun _ => "",false⟩ swordfish 86400 1000
    ⟨"","acme","eve","swordfish"⟩ acmeClaims (by decide)
    ⟨acmeStore,some acmeManager,fun _ => "",false⟩ 2000 2000 acmeRequest _ hcred ?_
  rw [authMiddleware_token rfl hcred (by decide),extractOrgID_token hcred,if_pos ⟨hplain,by decide⟩]
  rfl

/-- A session of the administrator `olga` of the same organization. -/
def olgaClaims : Claims := ⟨"olga","admin","acme",jwtAudience,jwtIssuer,1000,87400⟩

def olgaToken : Bytes :=
  lit "eyJhbGciOiJIUzI1NiIsInR5cCI6IkpXVCJ9.eyJzdWIiOiJvbGdhIiwicm9" ++
    lit "sZSI6ImFkbWluIiwib3JnX2lkIjoiYWNtZSIsImF1ZCI6ImJldHRlcmRlc2s" ++
    lit "tYXBpIiwiaXNzIjoiYmV0dGVyZGVzay1zZXJ2ZXIiLCJpYXQiOjEwMDAsIm5" ++
    lit "iZiI6MTAwMCwiZXhwIjo4NzQwMCwianRpIjoiMGYifQ.KOaha8xfjgpUm2ic" ++
    lit "zLTVKdJmWnrIL0lU7fEAE63mf_Y"

def olgaManager : JWTManager where
  hmac _ := [40,230,161,107,204,95,142,10,84,155,104,156,204,180,213,41,210,102,90,
    122,200,47,73,84,237,241,0,19,173,230,127,246]
  unmarshalHeader b := if b=lit "\x7b\"alg\":\"HS256\",\"typ\":\"JWT\"\x7d" then some "HS256" else none
  unmarshalClaims b := if b =
    lit "\x7b\"sub\":\"olga\",\"role\":\"admin\",\"org_id\":\"acme\",\"aud\":\"betterde" ++
    lit "sk-api\",\"iss\":\"betterdesk-server\",\"iat\":1000,\"nbf\":1000,\"exp" ++
    lit "\":87400,\"jti\":\"0f\"\x7d"
    then some olgaClaims else none

theorem org_admin_is_not_confined : ¬ ∀ s₀ compareHash expiry now₀ body claims,
      handleOrgLogin s₀ compareHash expiry now₀ body=.ok claims →
      ∀ s now now' r ctx, credential s now r=some (.token claims) →
        authMiddleware s now now' r=.ok ctx → Confined s.db ctx claims.orgID guardedRoutes := by
  intro h
  have hvalid : ∀ b∈lit "Bearer " ++ olgaToken, b=9 ∨ (32≤b ∧ b≠127) := by decide +kernel
  have hcred : credential ⟨acmeStore,some olgaManager,fun _ => "",false⟩ 2000
      (bearerRequest (lit "Bearer ") olgaToken hvalid)=some (.token olgaClaims) :=
    bearerRequest_credential rfl (by decide) (by decide +kernel) (by decide +kernel) rfl
      (by decide +kernel) (by decide) (by decide)
  have hconf:=h ⟨acmeStore,some olgaManager,fun _ => "",false⟩ swordfish 86400 1000
    ⟨"","acme","olga","swordfish"⟩ olgaClaims (by decide) _ 2000 2000 _ _ hcred
    (authMiddleware_token rfl hcred (by decide))
  have hadm : configRoute.admits acmeStore (fun _ => "") ⟨olgaClaims.role,olgaClaims.sub,
      extractOrgIDFromRequest ⟨acmeStore,some olgaManager,fun _ => "",false⟩ 2000
        (bearerRequest (lit "Bearer ") olgaToken hvalid)⟩=true := by
    have hsuper : isSuperAdminRole olgaClaims.role=true := by decide
    simp [Route.admits,configRoute,Guard.check,requirePermission_super,hsuper,Verdict.passes]
  exact absurd ((hconf configRoute routes_registered.2.2.1 _ hadm).guards
    (.permission permServerConfig) mem_cons_self).1 (by decide)

end BetterDesk.Api
