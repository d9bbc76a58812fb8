import BetterDesk.Api.Guards
import BetterDesk.Lib.Table

/-! # Remote targets (api/remote_target_handlers.go, db/remote_targets_sqlite.go) -/

namespace BetterDesk.RemoteTarget.Tenancy
open Text Auth Db Api

structure Row where
  id : String
  orgID : OrgID
  name : String
  protocol : String
  platform : String
  host : String
  port : ℤ
  username : String
  credentialMode : String
  credentialCiphertext : String
  credentialNonce : String
  credentialKeyID : String
  tlsMode : String
  certFingerprint : String
  enabled : Bool
  createdBy : String

structure RemoteTargetRequest where
  orgID : OrgID
  name : String
  protocol : String
  platform : String
  host : String
  port : ℤ
  username : String
  credentialMode : String
  tlsMode : String
  certFingerprint : String
  enabled : Option Bool

structure RemoteTargetCredentialRequest where
  username : String
  password : String

structure CaseMap where
  lower : Char → Char
  ascii : ∀ c : Char, c.toNat<128 → lower c=c.toLower
  idem : ∀ c, lower (lower c)=lower c
  space : ∀ c, isSpace (lower c)=isSpace c

def CaseMap.toLower (u : CaseMap) (s : String) : String := String.ofList (s.toList.map u.lower)

inductive Query
  | getRemoteTarget
  | listRemoteTargets
  | createRemoteTarget
  | updateRemoteTarget
  | deleteRemoteTarget

/-- What a request meets outside: `lookupIP` asks the DNS, `certMatches` the target itself. -/
structure Env where
  parseIP : String → Bool
  lookupIP : String → List String
  blockedIP : String → Bool            -- loopback, link-local, unspecified, multicast, metadata
  certMatches : String → ℤ → String → String → Bool
  gateway : Bool                       -- configured, valid and reachable
  vaultSeal : Option (String → Option (String × String × String))
  fails : Query → Bool

variable (u : CaseMap)

def reject (bad : Bool) (message : String) : Except String Unit :=
  if bad then .error message else .ok ()

def oneOf (s : String) (l : List String) (otherwise : String) : Except String String :=
  if s∈l then .ok s else .error otherwise

def orDefault (s default : String) : String := if s="" then default else s

def lowered (s : String) : String := u.toLower (trimString s)

def validateRemoteTargetRequest (env : Env) (body : RemoteTargetRequest) :
    Except String RemoteTargetRequest := do
  let name:=trimString body.name
  let host:=trimString body.host
  let certFingerprint:=lowered u body.certFingerprint
  reject (name=""||160<name.utf8ByteSize)
    "name is required and must be at most 160 characters"
  let protocol ← oneOf (lowered u body.protocol) ["rdp","vnc"] "protocol must be rdp or vnc"
  reject (host=""||253<host.utf8ByteSize ||
    host.toList.any fun c => c∈['\r', '\n', '\t', ' ', '/', '\\']) "invalid host"
  reject (!env.parseIP host && ':'∈host.toList) "invalid host"
  reject (body.port<1||65535<body.port) "port must be between 1 and 65535"
  let credentialMode ← oneOf (orDefault (lowered u body.credentialMode) "prompt")
    ["saved","prompt","none"] "credential_mode must be saved, prompt, or none"
  let tlsMode ← oneOf (orDefault (lowered u body.tlsMode) "preferred")
    ["required","preferred","disabled"] "tls_mode must be required, preferred, or disabled"
  reject (certFingerprint≠""&&128<certFingerprint.utf8ByteSize)
    "certificate fingerprint is too long"
  pure {body with
    orgID := trimString body.orgID
    name := name
    protocol := protocol
    platform := trimString body.platform
    host := host
    username := trimString body.username
    credentialMode := credentialMode
    tlsMode := tlsMode
    certFingerprint := certFingerprint}

def isFingerprintDigit (c : Char) : Bool := ('a' ≤ c&&c ≤ 'f')||('0' ≤ c&&c ≤ '9')

/-- `remoteTargetFingerprintPattern`: digits, with pairs or more of them after
separators. -/
def matchesFingerprint (s : String) : Bool :=
  match s.toList.splitOnP fun c => c = ':'||c = ' '||c = '-' with
  | [] => false
  | first::rest => 32≤first.length&&first.length≤128&&first.all isFingerprintDigit &&
      rest.all fun group => 2≤group.length&&group.all isFingerprintDigit

def normalizeFingerprint (s : String) : String :=
  u.toLower (String.ofList (s.toList.filter fun c => !isSpace c))

def resolveRemoteTargetHost (env : Env) (host : String) : Option String :=
  let clean:=trimString (u.toLower host)
  if clean∈["","localhost","metadata.google.internal","metadata.goog"] then none
  else match env.lookupIP clean with
    | [] => none
    | ip::rest => if (ip::rest).any env.blockedIP then none else some ip

abbrev Targets := List Row

def getRemoteTarget (targets : Targets) (id : String) : Option Row := targets.find? fun t => t.id=id

def updateRemoteTarget (targets : Targets) (target : Row) : Targets :=
  targets.map fun t => if t.id=target.id then target else t

inductive Request
  | list (orgID : OrgID) (includeDisabled : Bool)
  | get (id : String)
  | create (newID : String) (body : Option RemoteTargetRequest)
  | update (id : String) (body : Option RemoteTargetRequest)
  | delete (id : String)
  | credentialStatus (id : String)
  | setCredentials (id : String) (body : Option RemoteTargetCredentialRequest)
  | clearCredentials (id : String)
  | acceptCertificate (id : String) (fingerprint : Option String)
  | tunnel (id : String)

def Request.permission : Request → Permission
  | list .. | get _ | credentialStatus _ => permRemoteTargetView
  | create .. | update .. | setCredentials .. | clearCredentials _ => permRemoteTargetEdit
  | delete _ => permRemoteTargetDelete
  | acceptCertificate .. | tunnel _ => permRemoteTargetConnect

/-- `shown` are the rows that the answer tells about, `connected` the target of a
tunnel with the address it is pinned to. -/
structure Reply where
  status : ℕ
  shown : List Row
  connected : Option Row
  targets : Targets

def refuse (targets : Targets) (status : ℕ) : Reply := ⟨status,[],none,targets⟩

def withTarget (env : Env) (targets : Targets) (id : String) (k : Row → Reply) : Reply :=
  if env.fails .getRemoteTarget then refuse targets 500
  else match getRemoteTarget targets id with
    | none => refuse targets 404
    | some target => k target

def store (env : Env) (targets : Targets) (target : Row) (shown : List Row) : Reply :=
  if env.fails .updateRemoteTarget then refuse targets 500
  else ⟨200,shown,none,updateRemoteTarget targets target⟩

def handleListRemoteTargets (env : Env) (targets : Targets) (orgID : OrgID)
    (includeDisabled : Bool) : Reply := if env.fails .listRemoteTargets then refuse targets 500
  else ⟨200,targets.filter fun t => t.orgID=trimString orgID&&(includeDisabled||t.enabled),
    none,targets⟩

def handleGetRemoteTarget (env : Env) (targets : Targets) (id : String) : Reply :=
  withTarget env targets id fun target => ⟨200,[target],none,targets⟩

def newTarget (newID createdBy : String) (b : RemoteTargetRequest) : Row where
  id := "rt_" ++ newID
  orgID := b.orgID
  name := b.name
  protocol := b.protocol
  platform := b.platform
  host := b.host
  port := b.port
  username := b.username
  credentialMode := b.credentialMode
  credentialCiphertext := ""
  credentialNonce := ""
  credentialKeyID := ""
  tlsMode := b.tlsMode
  certFingerprint := b.certFingerprint
  enabled := b.enabled.getD true
  createdBy := createdBy

def handleCreateRemoteTarget (env : Env) (targets : Targets) (username newID : String)
    (body : Option RemoteTargetRequest) : Reply := match body with
  | none => refuse targets 400
  | some body => match validateRemoteTargetRequest u env body with
    | .error _ => refuse targets 400
    | .ok b =>
      let target:=newTarget newID username b
      if env.fails .createRemoteTarget ∨ (getRemoteTarget targets target.id).isSome then
        refuse targets 500
      else ⟨201,[target],none,targets++[target]⟩

def mergeUpdate (body : RemoteTargetRequest) (target : Row) : RemoteTargetRequest :=
  { body with
    name := orDefault body.name target.name
    protocol := orDefault body.protocol target.protocol
    host := orDefault body.host target.host
    port := if body.port=0 then target.port else body.port
    credentialMode := orDefault body.credentialMode target.credentialMode
    tlsMode := orDefault body.tlsMode target.tlsMode
    username := orDefault body.username target.username
    orgID := orDefault body.orgID target.orgID
    certFingerprint := orDefault body.certFingerprint target.certFingerprint}

def updatedTarget (target : Row) (b : RemoteTargetRequest) : Row := {target with
  orgID := b.orgID
  name := b.name
  protocol := b.protocol
  platform := b.platform
  host := b.host
  port := b.port
  username := b.username
  credentialMode := b.credentialMode
  tlsMode := b.tlsMode
  certFingerprint := b.certFingerprint
  enabled := b.enabled.getD target.enabled}

def handleUpdateRemoteTarget (env : Env) (targets : Targets) (id : String)
    (body : Option RemoteTargetRequest) : Reply :=
  withTarget env targets id fun target => match body with
    | none => refuse targets 400
    | some body => match validateRemoteTargetRequest u env (mergeUpdate body target) with
      | .error _ => refuse targets 400
      | .ok b => store env targets (updatedTarget target b) [updatedTarget target b]

def handleDeleteRemoteTarget (env : Env) (targets : Targets) (id : String) : Reply :=
  if env.fails .deleteRemoteTarget ∨ (getRemoteTarget targets id).isNone then refuse targets 404
  else ⟨200,[],none,targets.filter fun t => t.id≠id⟩

def handleGetRemoteTargetCredentialStatus (env : Env) (targets : Targets) (id : String) : Reply :=
  withTarget env targets id fun target => ⟨200,[target],none,targets⟩

def handleSetRemoteTargetCredentials (env : Env) (targets : Targets) (id : String)
    (body : Option RemoteTargetCredentialRequest) : Reply := match env.vaultSeal with
  | none => refuse targets 503
  | some sealValue => withTarget env targets id fun target => match body with
    | none => refuse targets 400
    | some body =>
      let username:=trimString body.username
      if 256<username.utf8ByteSize ∨ 4096<body.password.utf8ByteSize then refuse targets 400
      else if body.password="" then refuse targets 400
      else match sealValue body.password with
        | none => refuse targets 500
        | some (nonce,ciphertext,keyID) => store env targets {target with
            username := username
            credentialMode := "saved"
            credentialNonce := nonce
            credentialCiphertext := ciphertext
            credentialKeyID := keyID} []

def handleClearRemoteTargetCredentials (env : Env) (targets : Targets) (id : String) : Reply :=
  withTarget env targets id fun target => store env targets {target with
    credentialMode := "prompt"
    credentialCiphertext := ""
    credentialNonce := ""
    credentialKeyID := ""} []

def handleAcceptRemoteTargetCertificate (env : Env) (targets : Targets) (id : String)
    (fingerprint : Option String) : Reply :=
  withTarget env targets id fun target => match fingerprint with
    | none => refuse targets 400
    | some f =>
      if matchesFingerprint (normalizeFingerprint u f)=false then refuse targets 400
      else store env targets {target with certFingerprint := normalizeFingerprint u f} []

def handleRemoteTargetTunnel (env : Env) (targets : Targets) (id : String) : Reply :=
  match (if env.fails .getRemoteTarget then none else getRemoteTarget targets (trimString id)).filter
    Row.enabled with
  | none => refuse targets 404
  | some target => match resolveRemoteTargetHost u env target.host with
    | none => refuse targets 502
    | some host =>
      if target.certFingerprint≠"" ∧
          env.certMatches host target.port target.host target.certFingerprint=false then
        refuse targets 502
      else if env.gateway=false then refuse targets 503
      else ⟨101,[],some {target with host := host},targets⟩

def Request.handle (env : Env) (targets : Targets) (username : String) : Request → Reply
  | list orgID includeDisabled => handleListRemoteTargets env targets orgID includeDisabled
  | get id => handleGetRemoteTarget env targets id
  | create newID body => handleCreateRemoteTarget u env targets username newID body
  | update id body => handleUpdateRemoteTarget u env targets id body
  | delete id => handleDeleteRemoteTarget env targets id
  | credentialStatus id => handleGetRemoteTargetCredentialStatus env targets id
  | setCredentials id body => handleSetRemoteTargetCredentials env targets id body
  | clearCredentials id => handleClearRemoteTargetCredentials env targets id
  | acceptCertificate id fingerprint =>
    handleAcceptRemoteTargetCertificate u env targets id fingerprint
  | tunnel id => handleRemoteTargetTunnel u env targets id

/-- A request of some caller, with the permissions in force and the world outside. -/
structure Action where
  ctx : Ctx
  db : Store
  env : Env
  request : Request

def Action.reply (a : Action) (targets : Targets) : Reply :=
  match requirePermission a.db a.request.permission a.ctx with
  | .error status => refuse targets status
  | .ok () => a.request.handle u a.env targets a.ctx.username

def step (targets : Targets) (a : Action) : Option Targets := some (a.reply u targets).targets

end BetterDesk.RemoteTarget.Tenancy
