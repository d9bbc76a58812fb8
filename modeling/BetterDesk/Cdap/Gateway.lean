import BetterDesk.Cdap.Auth
import BetterDesk.Cdap.Manifest
import BetterDesk.Cdap.Messages
import BetterDesk.Enrollment.Store
import BetterDesk.Signal.PeerRows

/-! # Connections of the CDAP gateway (cdap/gateway.go, cdap/auth.go, cdap/handler.go) -/

namespace BetterDesk.Cdap
open Db Text Auth Api Function
open Enrollment (DeviceToken TokenHash)
open Signal (IP PeerTable Dialect)

/-- The row that a connection authenticated with. The gateway does not keep it. -/
inductive Credential
  | user (row : User)
  | apiKey (row : APIKey)
  | deviceToken (row : DeviceToken)

/-- The statements of `handleRegister`, once the message is read. -/
inductive RegisterStep
  | isPeerBanned
  | upsertPeer
  | setConfig
  | replace               -- `devices.LoadAndDelete`, and the old connection is closed
  | store                 -- `devices.Store`
  | updatePeerStatus
  | confirm               -- the `registered` message
  deriving DecidableEq

inductive Stage
  | authenticated
  | registering (m : Manifest) (next : RegisterStep)
  | running
  | left
  deriving DecidableEq

/-- `wrote`: the connection has written the row of its ID. The gateway does not keep it. -/
structure DeviceConn where
  id : PeerID
  username : String
  role : Role
  clientIP : Option IP
  manifest : Option Manifest
  heartbeatInterval : ℤ         -- seconds
  lastHeartbeat : ℕ
  isOpen : Bool
  stage : Stage
  credential : Credential
  wrote : Bool

/-- The statements of `removeDevice`. -/
inductive RemovalStep
  | unregister
  | deleteManifest
  | clearPending
  | endSessions (k : SessionKind)
  | setOffline
  deriving DecidableEq

def removalSteps : List RemovalStep :=
  [.unregister,.deleteManifest,.clearPending]++SessionKind.all.map .endSessions++[.setOffline]

/-- A call of `removeDevice` that has not returned. -/
structure Removal where
  conn : ConnID
  rest : List RemovalStep

structure Gateway where
  conns : ConnID → Option DeviceConn
  devices : PeerID → Option ConnID
  manifests : PeerID → Option Manifest        -- the entries `cdap_manifest_<ID>`
  registry : Registry
  peers : PeerTable
  server : Server
  tokens : TokenHash → Option DeviceToken
  removals : List Removal
  now : ℕ

def Gateway.fresh (peers : PeerTable) (server : Server) (tokens : TokenHash → Option DeviceToken) (now : ℕ) :
    Gateway := ⟨fun _ => none,fun _ => none,fun _ => none,.empty,peers,server,tokens,[],now⟩

structure Host where
  env : LoginEnv
  dialect : Dialect

structure AuthPayload where
  method : String
  username : String
  password : String
  totpCode : String
  key : Bytes
  token : Bytes
  deviceID : PeerID

/-- The row behind `authUserPassword`. -/
def userRow (env : LoginEnv) (db : Db.Store) (p : AuthPayload) : Option User :=
  if p.username="" ∨ p.password="" then none
  else (db.getUser p.username).row.filter fun user => rowMatches env user p.password p.totpCode

/-- The row behind `authAPIKey`. -/
def apiKeyRow (s : Server) (key : Bytes) : Option APIKey :=
  if key=[] then none else (s.db.getAPIKeyByHash (s.sha256Hex key)).row

namespace Gateway
variable (g : Gateway)

/-- `GetPeer` does not see soft-deleted rows. -/
def livePeer (id : PeerID) : Option Signal.PeerRow := (g.peers id).filter fun row => !row.softDeleted

/-- The row behind `authDeviceToken`: an active token bound to the very device that claims it,
and the device enrolled. -/
def deviceTokenRow (p : AuthPayload) : Option DeviceToken :=
  if p.token=[] ∨ p.deviceID="" then none
  else
    let hash:=g.server.sha256Hex p.token
    ((g.tokens hash).filter fun t => t.usable g.now).filter fun t =>
      t.status=.active ∧ t.peerID≠"" ∧ t.peerID=p.deviceID ∧
        (g.livePeer p.deviceID).any fun row => !row.disabled&&!row.banned

def authenticate (env : LoginEnv) (p : AuthPayload) : Option (String × Role × Credential) :=
  if p.method="user_password" then
    (userRow env g.server.db p).map fun u => (u.username,u.role,.user u)
  else if p.method="api_key" then
    (apiKeyRow g.server p.key).map fun k => ("apikey:" ++ k.name,k.role,.apiKey k)
  else if p.method="device_token" then
    (g.deviceTokenRow p).map fun t => ("device:" ++ p.deviceID,roleDevice,.deviceToken t)
  else none

/-- The use that `authDeviceToken` records. -/
def incrementTokenUse (hash : TokenHash) : TokenHash → Option DeviceToken :=
  update g.tokens hash ((g.tokens hash).map fun t => {t with useCount := t.useCount+1})

def newConn (p : AuthPayload) (clientIP : Option IP) (who : String × Role × Credential) : DeviceConn where
  id := p.deviceID
  username := who.1
  role := who.2.1
  clientIP := clientIP
  manifest := none
  heartbeatInterval := 15
  lastHeartbeat := g.now
  isOpen := true
  stage := .authenticated
  credential := who.2.2
  wrote := false

def handleAuth (env : LoginEnv) (c : ConnID) (p : AuthPayload) (clientIP : Option IP) (sent : Bool) :
    Option Gateway := if (g.conns c).isSome then none
  else (g.authenticate env p).map fun who =>
    let tokens := if p.method="device_token" then g.incrementTokenUse (g.server.sha256Hex p.token) else g.tokens
    let conns := if sent then update g.conns c (some (g.newConn p clientIP who)) else g.conns
    { g with
      tokens := tokens
      conns := conns}

def modifyConn (c : ConnID) (f : DeviceConn → DeviceConn) : Gateway :=
  {g with conns := update g.conns c ((g.conns c).map f)}

def setStage (c : ConnID) (stage : Stage) : Gateway := g.modifyConn c fun dc => {dc with stage := stage}

def close (c : ConnID) : Gateway := g.modifyConn c fun dc => {dc with isOpen := false}

/-- `removeDevice` is called; without an ID it returns at once. -/
def startRemoval (c : ConnID) : Gateway := match g.conns c with
  | none => g
  | some dc => if dc.id="" then g else {g with removals := g.removals++[⟨c,removalSteps⟩]}

/-- `runConnection` returns, after an error or from the message loop. -/
def leave (c : ConnID) : Gateway := (g.setStage c .left).startRemoval c

/-- The `register` message is read; `none` is any that cannot be used. -/
def readRegister (c : ConnID) (dc : DeviceConn) (m : Option Manifest) : Gateway :=
  match m.bind fun m => (validateManifest m).toOption with
  | none => g.leave c
  | some m =>
    if dc.id="" then g.leave c
    else g.modifyConn c fun dc => {dc with
      manifest := some m
      heartbeatInterval := m.heartbeatInterval
      stage := .registering m .isPeerBanned}

/-- The record that goes to `UpsertPeer`. -/
def registerPeer (dc : DeviceConn) (m : Manifest) : Signal.Peer where
  id := dc.id
  uuid := []
  pk := none
  ip := dc.clientIP
  user := dc.username
  hostname := m.device.name
  os := m.bridge.protocol
  version := m.bridge.version
  status := Signal.statusOnline
  natType := 0
  lastOnline := some g.now
  disabled := false
  note := ""
  tags := ",".intercalate m.device.tags
  heartbeatSeq := 0
  deviceType := m.device.type
  linkedPeerID := m.device.linkedPeerID
  displayName := ""

def upsertPeer (dialect : Dialect) (c : ConnID) (dc : DeviceConn) (m : Manifest) : Gateway :=
  {g with peers := g.peers.upsertPeer dialect g.now (g.registerPeer dc m)}.modifyConn c fun dc => {dc with
    stage := .registering m .setConfig
    wrote := true}

def setConfig (c : ConnID) (dc : DeviceConn) (m : Manifest) (fails : Bool) : Gateway :=
  let manifests := if fails then g.manifests else update g.manifests dc.id (some m)
  {g with manifests := manifests}.setStage c (.registering m .replace)

def replace (c : ConnID) (dc : DeviceConn) (m : Manifest) : Gateway :=
  let g' := match g.devices dc.id with
    | none => g
    | some old => {g with devices := update g.devices dc.id none}.close old
  g'.setStage c (.registering m .store)

def store (c : ConnID) (dc : DeviceConn) (m : Manifest) : Gateway :=
  {g with devices := update g.devices dc.id (some c)}.setStage c (.registering m .updatePeerStatus)

def updatePeerStatus (dc : DeviceConn) (status : String) (fails : Bool) : Gateway :=
  {g with peers := if fails then g.peers else g.peers.updatePeerStatus g.now dc.id status dc.clientIP}

/-- The next statement of `handleRegister`; `fails`: the call returns an error. -/
def handleRegister (dialect : Dialect) (c : ConnID) (dc : DeviceConn) (m : Manifest) (fails : Bool) :
    RegisterStep → Gateway
  | .isPeerBanned =>
    -- an error counts as not banned
    if !fails&&(g.peers dc.id).any Signal.PeerRow.banned then g.leave c
    else g.setStage c (.registering m .upsertPeer)
  | .upsertPeer => if fails then g.leave c else g.upsertPeer dialect c dc m
  | .setConfig => g.setConfig c dc m fails
  | .replace => g.replace c dc m
  | .store => g.store c dc m
  | .updatePeerStatus => (g.updatePeerStatus dc Signal.statusOnline fails).setStage c (.registering m .confirm)
  | .confirm => if fails then g.leave c else g.setStage c .running

def statusOffline : String := "OFFLINE"

/-- One statement of `removeDevice`; `fails`: the call returns an error, which is only logged. -/
def removeStep (dc : DeviceConn) (fails : Bool) : RemovalStep → Gateway
  | .unregister => {g with devices := update g.devices dc.id none}
  | .deleteManifest => {g with manifests := if fails then g.manifests else update g.manifests dc.id none}
  | .clearPending => {g with registry := g.registry.clearPending dc.id}
  | .endSessions k => {g with registry := g.registry.cleanupSessions k dc.id (lit "device disconnected")}
  | .setOffline => g.updatePeerStatus dc statusOffline fails

/-- The statement of the `i`-th call that comes next. -/
def nextRemoval (i : ℕ) : Option (DeviceConn × RemovalStep × Removal) := match g.removals[i]? with
  | some ⟨c,s::rest⟩ => (g.conns c).map fun dc => (dc,s,⟨c,rest⟩)
  | _ => none

def remove (i : ℕ) (fails : Bool) : Option Gateway :=
  (g.nextRemoval i).map fun next =>
    { (g.removeStep next.1 fails next.2.1) with removals := g.removals.set i next.2.2}

def stale (dc : DeviceConn) : Bool :=
  max (3*dc.heartbeatInterval) 60*1000000000<(g.now : ℤ)-dc.lastHeartbeat

/-- The connection of the ID is closed and removed, by the monitor or by `SendRevoke`. -/
def drop (deviceID : PeerID) (ok : DeviceConn → Bool) : Option Gateway :=
  (g.devices deviceID).bind fun c => (g.conns c).bind fun dc =>
    if ok dc then some ((g.close c).startRemoval c) else none

def connAt (c : ConnID) (stage : Stage → Bool) : Option DeviceConn := (g.conns c).filter fun dc => stage dc.stage

def supports (dc : DeviceConn) (k : SessionKind) : Bool := dc.manifest.all fun m => k.capability∈m.capabilities

end Gateway

inductive Action
  | authenticate (c : ConnID) (p : AuthPayload) (clientIP : Option IP) (sent : Bool)
  | readRegister (c : ConnID) (m : Option Manifest)
  | register (c : ConnID) (fails : Bool)
  | message (c : ConnID) (m : DeviceMessage)
  | heartbeat (c : ConnID) (fails : Bool)
  | leave (c : ConnID)
  | disconnect (c : ConnID)
  | monitor (deviceID : PeerID)
  | revoke (deviceID : PeerID)
  | remove (i : ℕ) (fails : Bool)
  | startSession (k : SessionKind) (deviceID : PeerID) (username : String) (browser : ℕ)
  | endSession (k : SessionKind) (p : EndPayload)
  | sendCommand (deviceID : PeerID) (id : CommandID)
  | expireCommand (id : CommandID)
  | elsewhere (peers : PeerTable) (server : Server) (tokens : TokenHash → Option DeviceToken) (elapsed : ℕ)

namespace Gateway

/-- One step. `elsewhere`: time passes and the other parts of the server write their tables. -/
def step (host : Host) (g : Gateway) : Action → Option Gateway
  | .authenticate c p clientIP sent => g.handleAuth host.env c p clientIP sent
  | .readRegister c m => (g.connAt c fun s => s=.authenticated).map fun dc => g.readRegister c dc m
  | .register c fails => (g.conns c).bind fun dc => match dc.stage with
    | .registering m next => some (g.handleRegister host.dialect c dc m fails next)
    | _ => none
  | .message c m => (g.connAt c fun s => s=.running).map fun dc =>
    {g with registry := g.registry.handleMessage dc.id m}
  | .heartbeat c fails => (g.connAt c fun s => s=.running).map fun dc =>
    (g.updatePeerStatus dc Signal.statusOnline fails).modifyConn c fun dc => {dc with lastHeartbeat := g.now}
  | .leave c => (g.connAt c fun s => s=.authenticated||s=.running).map fun _ => g.leave c
  | .disconnect c => (g.conns c).map fun _ => g.close c
  | .monitor deviceID => g.drop deviceID g.stale
  | .revoke deviceID => g.drop deviceID fun _ => true
  | .remove i fails => g.remove i fails
  | .startSession k deviceID username browser =>
    (g.devices deviceID).bind fun c => ((g.conns c).filter fun dc => supports dc k).map fun _ =>
      {g with registry := g.registry.startSession k deviceID username browser c g.now}
  | .endSession k p => some {g with registry := g.registry.endSession k p}
  | .sendCommand deviceID id => (g.devices deviceID).map fun _ =>
    {g with registry := g.registry.sendCommand id deviceID g.now}
  | .expireCommand id => some {g with registry := (g.registry.resolvePendingCommand id).2}
  | .elsewhere peers server tokens elapsed => some {g with
      peers := peers
      server := server
      tokens := tokens
      now := g.now+elapsed}

end Gateway

theorem userRow_authUserPassword (env : LoginEnv) (db : Db.Store) (p : AuthPayload) :
    authUserPassword env db p.username p.password p.totpCode =
      (userRow env db p).map fun u => (u.username,u.role) := by
  by_cases hne : p.username="" ∨ p.password=""
  · simp [authUserPassword,userRow,hne]
  · simp only [userRow,if_neg hne]
    cases hu : (db.getUser p.username).row with
    | none => simp [authUserPassword,hne,hu]
    | some u =>
      cases hm : rowMatches env u p.password p.totpCode with
      | true =>
        rw [not_or] at hne
        rw [authUserPassword_of_matches hne hu hm]
        simp [Option.filter,hm,(Store.getUser_row hu).2]
      | false =>
        simp only [Option.filter,hm,Bool.false_eq_true,if_false,Option.map_none]
        cases ha : authUserPassword env db p.username p.password p.totpCode with
        | none => rfl
        | some who =>
          obtain ⟨name,role⟩:=who
          obtain ⟨-,-,-,u',hu',hm'⟩:=authUserPassword_some ha
          rw [hu] at hu'
          cases hu'
          rw [hm] at hm'
          cases hm'

theorem apiKeyRow_authAPIKey (s : Server) (key : HeaderValue) :
    authAPIKey s key=(apiKeyRow s key.bytes).map fun k => ("apikey:" ++ k.name,k.role) := by
  unfold authAPIKey apiKeyRow
  split
  · rfl
  · cases (s.db.getAPIKeyByHash (s.sha256Hex key.bytes)).row <;> rfl

end BetterDesk.Cdap
