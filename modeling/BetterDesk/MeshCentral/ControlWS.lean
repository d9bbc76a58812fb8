import BetterDesk.Cdap.Auth
import BetterDesk.Api.Routes

/-! # The mesh control socket (meshcentral/control_ws.go) -/

namespace BetterDesk.MeshCentral
open Auth Db Text Api Cdap List

def comma : UInt8 := 44

/-- The text of the `x-meshauth` header up to its first comma. -/
def meshAuthToken (xMeshAuth : HeaderValue) : Bytes := xMeshAuth.bytes.takeWhile (· != comma)

/-- What follows `Bearer ` in the `Authorization` header. -/
def bearerText (authorization : HeaderValue) : Bytes :=
  if bearerScheme.isPrefixOf authorization.bytes then authorization.bytes.drop 7 else []

def validUser (s : Server) (now : ℤ) (token : Bytes) : Option Claims :=
  (s.jwtManager.bind fun m => m.validate now token).filter fun claims => claims.sub != ""

/-- The token `handleControlWS` accepts, with its claims; only the subject is
kept after that. -/
def controlCredential (s : Server) (now : ℤ) (xMeshAuth authorization : HeaderValue) :
    Option (Bytes × Claims) := match validUser s now (meshAuthToken xMeshAuth) with
  | some claims => some (meshAuthToken xMeshAuth,claims)
  | none => (validUser s now (bearerText authorization)).map fun claims => (bearerText authorization,claims)

structure MeshAgent where
  peerID : PeerID
  meshNodeID : String

/-- The connected agents, and for each peer the node id stored in the
configuration, empty where there is none. -/
structure MeshGateway where
  agents : List MeshAgent
  nodes : List (PeerID × String)

structure ControlMessage where
  action : String
  nodeid : String
  cmds : String
  forced : Option ℤ
  actiontype : Option ℤ
  type : String

inductive MeshCommand
  | runCommand (peerID : PeerID) (cmds : String) (shell : Bool)
  | powerAction (peerID : PeerID) (actionType : ℤ) (forced : Bool)
  deriving DecidableEq

def MeshCommand.peerID : MeshCommand → PeerID
  | runCommand peerID .. | powerAction peerID .. => peerID

def peerIDFromNode (g : MeshGateway) (nodeKey : String) : PeerID :=
  let raw:=trimPrefix nodeKey "node//"
  match g.agents.find? fun a => a.meshNodeID==raw with
  | some a => if a.peerID≠"" then a.peerID else stored raw
  | none => stored raw
where
  stored (raw : String) : PeerID :=
    match g.nodes.find? fun n => n.2==raw||n.2==nodeKey with
    | some n => n.1
    | none => ""

def powerActionType (msg : ControlMessage) : ℤ :=
  let actionType:=msg.actiontype.getD 0
  if actionType≠0 then actionType
  else
    let type:=lowerString msg.type
    if type="wake" ∨ type="wakeup" ∨ type="on" then 6
    else if type="sleep" then 2
    else if type="off" ∨ type="poweroff" then 3
    else if type="reset" then 4
    else 0

def controlCommand (g : MeshGateway) (msg : ControlMessage) : Option MeshCommand :=
  let peerID:=peerIDFromNode g msg.nodeid
  if peerID="" then none
  else if msg.action="runcommands" then some (.runCommand peerID msg.cmds true)
  else if msg.action="devicepower" then
    let actionType:=powerActionType msg
    if 0<actionType then some (.powerAction peerID actionType (msg.forced==some 1)) else none
  else none

/-- `SendRunCommand` and `SendPowerAction` reach connected agents only. -/
def MeshGateway.isConnected (g : MeshGateway) (peerID : PeerID) : Bool :=
  g.agents.any fun a => a.peerID==peerID

def executed (g : MeshGateway) (msgs : List ControlMessage) : List MeshCommand :=
  (msgs.filterMap (controlCommand g)).filter fun c => g.isConnected c.peerID

def TokenParity (s : Server) (now : ℤ) (xMeshAuth authorization : HeaderValue) : Prop :=
  ∀ token claims, controlCredential s now xMeshAuth authorization=some (token,claims) →
    ∃ h, RestAccepts s now (bearerRequest bearerScheme token h) claims.sub

def roleUsable (role : Role) : Bool := role != twoFactorPending&&!isDeviceRole role

theorem controlCredential_some {s : Server} {now : ℤ} {xMeshAuth authorization : HeaderValue}
    {token : Bytes} {claims : Claims}
    (h : controlCredential s now xMeshAuth authorization=some (token,claims)) :
    (∀ b∈token,b=9 ∨ (32≤b ∧ b≠127)) ∧ ∃ m, s.jwtManager=some m ∧ m.validate now token=some claims := by
  have hvalid : ∀ t, validUser s now t=some claims →
      ∃ m, s.jwtManager=some m ∧ m.validate now t=some claims := by
    intro t ht
    obtain ⟨ht,_⟩:=Option.filter_eq_some_iff.mp ht
    exact Option.bind_eq_some_iff.mp ht
  unfold controlCredential at h
  split at h
  · rename_i hu
    cases h
    exact ⟨fun b hb => xMeshAuth.valid b ((takeWhile_sublist _).mem hb),hvalid _ hu⟩
  · obtain ⟨c,hu,he⟩:=Option.map_eq_some_iff.mp h
    cases he
    refine ⟨fun b hb => ?_,hvalid _ hu⟩
    unfold bearerText at hb
    split at hb
    · exact authorization.valid b (mem_of_mem_drop hb)
    · cases hb

theorem rest_accepts_token_iff {s : Server} {now : ℤ} {m : JWTManager} {token : Bytes} {claims : Claims}
    (hm : s.jwtManager=some m) (hv : m.validate now token=some claims)
    (h : ∀ b∈bearerScheme++token, b=9 ∨ (32≤b ∧ b≠127)) :
    RestAccepts s now (bearerRequest bearerScheme token h) claims.sub ↔ roleUsable claims.role=true := by
  obtain ⟨hverify,hcurrent⟩:=JWTManager.validate_eq_some.mp hv
  have htrim : trimSpace token=token := by
    by_contra hne
    rw [verify_untrimmed (fun b hb => h b (mem_append_right _ hb)) hne] at hverify
    cases hverify
  have hopaque : isOpaqueClientToken token=false := by
    by_contra hop
    rw [verify_opaqueToken (by simpa using hop)] at hverify
    cases hverify
  have hcred : credential s now (bearerRequest bearerScheme token h) =
      if claims.role≠twoFactorPending then some (.token claims) else none := by
    have hkey : apiKeyCredential s now (bearerRequest bearerScheme token h)=none := rfl
    have htoken : bearerToken (bearerRequest bearerScheme token h)=some token :=
      bearerRequest_token rfl (by decide) htrim hverify
    simp [credential,htoken, hopaque,hm,hv,hkey]
  unfold RestAccepts
  rw [hcred]
  by_cases hrole : claims.role=twoFactorPending
  · simp [roleUsable,hrole]
  · simp [roleUsable,hrole,Credential.principal]

theorem bearerScheme_valid : ∀ b∈bearerScheme,b=9 ∨ (32≤b ∧ b≠127) := by decide +kernel

theorem token_parity_iff (s : Server) (now : ℤ) (xMeshAuth authorization : HeaderValue) :
    TokenParity s now xMeshAuth authorization ↔
      ∀ token claims, controlCredential s now xMeshAuth authorization=some (token,claims) →
        roleUsable claims.role=true := by
  refine forall_congr' fun token => forall_congr' fun claims => ?_
  refine ⟨fun hp hc => ?_,fun hp hc => ?_⟩
  · obtain ⟨h,hrest⟩:=hp hc
    obtain ⟨_,m,hm,hv⟩:=controlCredential_some hc
    exact (rest_accepts_token_iff hm hv h).mp hrest
  · obtain ⟨hbytes,m,hm,hv⟩:=controlCredential_some hc
    have h : ∀ b∈bearerScheme++token, b=9 ∨ (32≤b ∧ b≠127) := by
      intro b hb
      rcases mem_append.mp hb with hb | hb
      · exact bearerScheme_valid b hb
      · exact hbytes b hb
    exact ⟨h,(rest_accepts_token_iff hm hv h).mpr (hp hc)⟩

def execRoute : Route := ⟨"POST","/api/mesh/devices/:id/exec",[.role roleOperator],false⟩

def powerRoute : Route := ⟨"POST","/api/mesh/devices/:id/power",[.permission permMeshPower],false⟩

example : execRoute∈apiRoutes ∧ powerRoute∈apiRoutes := by decide

def MeshCommand.route : MeshCommand → Route
  | runCommand .. => execRoute
  | powerAction .. => powerRoute

def restCtx (claims : Claims) : Ctx := ⟨claims.role,claims.sub,claims.orgID⟩

def CommandParity (s : Server) (g : MeshGateway) (now : ℤ) (xMeshAuth authorization : HeaderValue)
    (msgs : List ControlMessage) : Prop :=
  ∀ token claims, controlCredential s now xMeshAuth authorization=some (token,claims) →
    ∀ c∈executed g msgs, c.route.admits s.db (fun _ => c.peerID) (restCtx claims)=true

def commandAllowed (db : Store) (ctx : Ctx) : MeshCommand → Bool
  | .runCommand .. => hasPermission ctx.role roleOperator
  | .powerAction .. => (requirePermission db permMeshPower ctx).passes

theorem route_admits_iff (db : Store) (ctx : Ctx) (c : MeshCommand) :
    c.route.admits db (fun _ => c.peerID) ctx=commandAllowed db ctx c := by
  cases c with
  | runCommand peerID cmds shell =>
    simp only [MeshCommand.route,execRoute, Route.admits,all_cons,all_nil,Guard.check,
      requireRole,commandAllowed,Bool.not_false,Bool.true_or,Bool.and_true]
    split <;> simp_all [Verdict.passes]
  | powerAction peerID actionType forced =>
    simp [MeshCommand.route,powerRoute,Route.admits,Guard.check,commandAllowed]

def powerWords : List String := ["wake","wakeup","on","sleep","off","poweroff","reset"]

/-- The message names a power action, by number or, without one, by word. -/
def NamesPower (msg : ControlMessage) : Prop :=
  0 < msg.actiontype.getD 0 ∨ msg.actiontype.getD 0=0 ∧ lowerString msg.type∈powerWords

/-- The role is enough for what the message has done to a connected agent. -/
def RoleSuffices (db : Store) (g : MeshGateway) (ctx : Ctx) (msg : ControlMessage) : Prop :=
  peerIDFromNode g msg.nodeid≠"" → g.isConnected (peerIDFromNode g msg.nodeid)=true →
    (msg.action="runcommands" → hasPermission ctx.role roleOperator=true) ∧
    (msg.action="devicepower" → NamesPower msg → (requirePermission db permMeshPower ctx).passes=true)

theorem powerActionType_pos {msg : ControlMessage} : 0<powerActionType msg ↔ NamesPower msg := by
  unfold powerActionType NamesPower
  by_cases ha : msg.actiontype.getD 0=0
  · simp only [ha,ne_eq,not_true_eq_false,if_false,lt_irrefl,false_or,true_and,powerWords]
    split
    · rename_i h
      rcases h with h | h | h <;> simp [h]
    · split
      · simp [*]
      · split
        · rename_i h
          rcases h with h | h <;> simp [h]
        · split
          · simp [*]
          · simp_all
  · simp [ha]

theorem controlCommand_allowed_iff {db : Store} {g : MeshGateway} {ctx : Ctx} {msg : ControlMessage} :
    (∀ c, controlCommand g msg=some c → g.isConnected c.peerID=true → commandAllowed db ctx c=true) ↔
      RoleSuffices db g ctx msg := by
  unfold controlCommand RoleSuffices
  by_cases hpeer : peerIDFromNode g msg.nodeid=""
  · simp [hpeer]
  by_cases hrun : msg.action="runcommands"
  · simp [hpeer,hrun,commandAllowed,MeshCommand.peerID]
  by_cases hpower : msg.action="devicepower"
  · by_cases hpos : 0<powerActionType msg
    · simp [hpeer,hpower,hpos,powerActionType_pos.mp hpos,commandAllowed,MeshCommand.peerID]
    · simp [hpeer,hpower,hpos,mt powerActionType_pos.mpr hpos]
  · simp [hpeer,hrun,hpower]

theorem command_parity_iff (s : Server) (g : MeshGateway) (now : ℤ) (xMeshAuth authorization : HeaderValue)
    (msgs : List ControlMessage) : CommandParity s g now xMeshAuth authorization msgs ↔
      ∀ token claims, controlCredential s now xMeshAuth authorization=some (token,claims) →
        ∀ msg∈msgs,RoleSuffices s.db g (restCtx claims) msg := by
  refine forall_congr' fun token => forall_congr' fun claims => imp_congr_right fun _ => ?_
  simp only [route_admits_iff,executed,mem_filter,mem_filterMap,← controlCommand_allowed_iff]
  exact ⟨fun h msg hmsg c hc hcon => h c ⟨⟨msg,hmsg,hc⟩,hcon⟩,
    fun h c ⟨⟨msg,hmsg,hc⟩,hcon⟩ => h msg hmsg c hc hcon⟩

/-- The two gateways take no credential that the REST API refuses, and execute
no command it would refuse, exactly where their missing checks do not matter. -/
theorem credential_parity_iff (env : LoginEnv) (s : Server) (g : MeshGateway) (newID : ℕ) (expiry now : ℤ)
    (username password totpCode : String) (key xMeshAuth authorization : HeaderValue)
    (msgs : List ControlMessage) : (PasswordParity env s.db newID expiry now username password totpCode ↔
      username="" ∨ password="" ∨ ∀ user, (s.db.getUser username).row=some user →
        rowMatches env user password totpCode=true → providerTakes env user username password=true) ∧
    (KeyParity s now key ↔ key.bytes=[] ∨
      ∀ k, (s.db.getAPIKeyByHash (s.sha256Hex key.bytes)).row=some k → keyUsable now k=true) ∧
    (TokenParity s now xMeshAuth authorization ↔
      ∀ token claims, controlCredential s now xMeshAuth authorization=some (token,claims) →
        roleUsable claims.role=true) ∧ (CommandParity s g now xMeshAuth authorization msgs ↔
      ∀ token claims, controlCredential s now xMeshAuth authorization=some (token,claims) →
        ∀ msg∈msgs,RoleSuffices s.db g (restCtx claims) msg) :=
  ⟨password_parity_iff env s.db newID expiry now username password totpCode,key_parity_iff s now key,
    token_parity_iff s now xMeshAuth authorization,
    command_parity_iff s g now xMeshAuth authorization msgs⟩

/-- Half a login of `alice`, signed with the secret "secret". -/
def pendingToken : Bytes :=
  lit "eyJhbGciOiJIUzI1NiIsInR5cCI6IkpXVCJ9.eyJzdWIiOiJhbGljZSIsInJ" ++
    lit "vbGUiOiJfXzJmYV9wZW5kaW5nX18iLCJhdWQiOiJiZXR0ZXJkZXNrLWFwaSI" ++
    lit "sImlzcyI6ImJldHRlcmRlc2stc2VydmVyIiwiaWF0IjoxMDAwLCJuYmYiOjE" ++
    lit "wMDAsImV4cCI6MTMwMCwianRpIjoiMGYifQ.YrWMf3EvxUYBGilLxB-cnWzM" ++
    lit "7RYV9nJzdWvSFp3yyX4"

def pendingClaims : Claims := ⟨"alice",twoFactorPending,"",jwtAudience,jwtIssuer,1000,1300⟩

def pendingManager : JWTManager where
  hmac _ := [98,181,140,127,113,47,197,70,1,26,41,75,196,31,156,157,108,204,237,22,
    21,246,114,115,117,107,210,22,157,242,201,126]
  unmarshalHeader b := if b=lit "\x7b\"alg\":\"HS256\",\"typ\":\"JWT\"\x7d" then some "HS256" else none
  unmarshalClaims b := if b =
    lit "\x7b\"sub\":\"alice\",\"role\":\"__2fa_pending__\",\"aud\":\"betterdesk-api\"" ++
    lit ",\"iss\":\"betterdesk-server\",\"iat\":1000,\"nbf\":1000,\"exp\":1300,\"jti\":\"0f\"\x7d"
    then some pendingClaims else none

/-- `bob` was bound to single sign-on and kept his local hash; key `k` expired
at 500. -/
def gatewayServer : Server where
  db := {Store.empty with
    users := [⟨1,"bob","hash of hunter2",roleAdmin,false,authProviderOIDC,"",false,""⟩]
    apiKeys := [⟨1,"sha256 of k","old",roleViewer,some 500⟩]}
  jwtManager := some pendingManager
  sha256Hex b := if b=lit "k" then "sha256 of k" else ""
  forceHTTPS := false

def gatewayEnv : LoginEnv where
  verifyPassword hash password := hash=="hash of " ++ password
  needsRehash _ := false
  hashPassword password := some ("hash of " ++ password)
  randomSecret := "0123456789abcdef"
  ldapEnabled := false
  ldapAuthenticate _ _ := none
  validateTOTP _ _ := false
  consumeRecoveryCode _ _ := none

def pendingHeader : HeaderValue := ⟨pendingToken,by decide +kernel⟩

def noHeader : HeaderValue := .empty

def oneAgent : MeshGateway := ⟨[⟨"office","abc"⟩],[]⟩

def shutdownMessage : ControlMessage := ⟨"runcommands","node//abc","shutdown /s",none,none,""⟩

/-- An account of another provider, an expired key, half a login, and a command
for which half a login is enough. -/
theorem gateways_accept_more : ¬ PasswordParity gatewayEnv gatewayServer.db 2 86400 1000 "bob" "hunter2" "" ∧
    ¬ KeyParity gatewayServer 1000 ⟨lit "k",by decide +kernel⟩ ∧
    ¬ TokenParity gatewayServer 1000 pendingHeader noHeader ∧
    ¬ CommandParity gatewayServer oneAgent 1000 pendingHeader noHeader [shutdownMessage] := by
  have hcred : controlCredential gatewayServer 1000 pendingHeader noHeader =
      some (pendingToken,pendingClaims) := by decide +kernel
  refine ⟨fun h => ?_,fun h => ?_,fun h => ?_,fun h => ?_⟩
  · have hcdap:=h "bob" roleAdmin (by decide)
    revert hcdap
    decide
  · rw [key_parity_iff] at h
    have hkey:=(h.resolve_left (by decide)) ⟨1,"sha256 of k","old",roleViewer,some 500⟩ (by decide)
    revert hkey
    decide
  · have hrole:=(token_parity_iff ..).mp h _ _ hcred
    revert hrole
    decide
  · have hrole := ((command_parity_iff ..).mp h _ _ hcred shutdownMessage (by simp) (by decide)
      (by decide)).1 rfl
    revert hrole
    decide

end BetterDesk.MeshCentral
