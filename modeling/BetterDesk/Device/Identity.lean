import BetterDesk.Signal.Devices

/-! # What a device says it is (api/client_api_handlers.go, api/connection_mode_handlers.go,
api/telemetry_handlers.go) -/

namespace BetterDesk.Device
open Db Text Signal Function

structure VerifiedDeviceIdentity where
  productSKU : String
  connMode : String
  capabilities : List String
  schema : ℤ

def VerifiedDeviceIdentity.none : VerifiedDeviceIdentity := ⟨"","",[],0⟩

structure ClientTelemetrySnapshot where
  kind : String
  data : VerifiedDeviceIdentity

/-- The snapshots of `telemetry` and of its command results, in their order. -/
abbrev Telemetry := List ClientTelemetrySnapshot

inductive Sealed (α : Type)
  | absent
  | rejected
  | opened (content : α)

structure ClientHeartbeat where
  id : PeerID
  uuid : String
  productSKU : String
  connMode : String
  capabilities : List String
  telemetrySchema : ℤ
  telemetry : Telemetry
  telemetryEnvelope : Sealed Telemetry

structure ClientSysinfo where
  id : PeerID
  uuid : String
  productSKU : String
  connMode : String

inductive Message
  | heartbeat (body : ClientHeartbeat) (betterDeskEnvelope : Sealed ClientHeartbeat)
  | sysinfo (body : ClientSysinfo)

def Message.authenticated : Message → Bool
  | heartbeat _ (.opened _) => true
  | _ => false

/-- The queries, told apart by the place that asks them. A snapshot that is too
large is not saved either. -/
inductive Query
  | getPeer
  | rememberedSnapshot
  | verifiedIdentity
  | saveIdentity
  | saveVerifiedIdentity
  | saveTelemetrySnapshot (i : ℕ)
  | updatePeerFields

structure Env where
  allowed : Bool          -- by the rate limit
  fails : Query → Bool

structure Devices where
  peers : PeerID → Option Row
  snapshots : PeerID → String → Option VerifiedDeviceIdentity

def verifiedIdentityKind : String := "identity_verified"

namespace Devices
variable (env : Env) (s : Devices)

def getPeer (id : PeerID) : Option Row := (s.peers id).filter fun row => !row.softDeleted

def setSnapshot (id : PeerID) (kind : String) (data : VerifiedDeviceIdentity) : Devices :=
  {s with snapshots := update s.snapshots id (update (s.snapshots id) kind (some data))}

/-- `UpdatePeerFields` with the device type. -/
def setDeviceType (id : PeerID) (deviceType : String) : Devices :=
  {s with peers := update s.peers id ((s.peers id).map fun row =>
      if row.softDeleted then row else {row with deviceType := deviceType})}

def identity (id : PeerID) : VerifiedDeviceIdentity :=
  (s.snapshots id verifiedIdentityKind).getD .none

def verifiedIdentity (id : PeerID) : VerifiedDeviceIdentity :=
  if env.fails .verifiedIdentity then .none else s.identity id

end Devices

def supportClass : String := "betterdesk-support"
def desktopClass : String := "betterdesk-desktop"
def incomingOnly : String := "incoming-only"

def classifyBetterDeskDevice (productSKU connMode : String) : String :=
  if productSKU=supportClass then supportClass
  else if productSKU=desktopClass then "betterdesk"
  else if connMode=incomingOnly then supportClass
  else if productSKU="" then ""
  else "betterdesk"

def hasConnectionModeCapability (capabilities : List String) : Bool :=
  capabilities.any fun c => c="connection-mode.remote-control"

def connectionModeEligibility (identity : VerifiedDeviceIdentity) (row : Row) : Bool × Bool :=
  if identity.productSKU=supportClass then (false,true)
  else if identity.productSKU="" ∧
      (identity.connMode=incomingOnly ∨ equalFoldString row.deviceType supportClass=true) then (false,true)
  else if identity.productSKU=desktopClass ∧ hasConnectionModeCapability identity.capabilities=true then
    (true,false)
  else (false,false)

def passiveTypes : List String := ["os_agent","support-agent","support_agent"]
def passiveTags : List String := ["support-agent","support_agent"]

def isTagSeparator (c : Char) : Bool := c = ','||c = ';'||c = ' '||c = '\t'||c = '\n'

def isPassiveSupportPeer (row : Row) : Bool :=
  lowerString (trimString row.deviceType)∈passiveTypes ||
    (((lowerString row.tags).toList.splitOnP fun c => isTagSeparator c||c = '|').filter
      fun field => field≠[]).any fun field => String.ofList field∈passiveTags

def classOf (env : Env) (s : Devices) (id : PeerID) (productSKU connMode : String) (trusted : Bool) :
    Option String := let deviceType:=classifyBetterDeskDevice productSKU connMode
  if deviceType="" then none
  else if trusted=false ∧ deviceType=supportClass ∧
      (s.verifiedIdentity env id).productSKU=desktopClass then none
  else if env.fails .updatePeerFields then none
  else some deviceType

def classifyPeerFromClient (env : Env) (s : Devices) (id : PeerID) (productSKU connMode : String)
    (trusted : Bool) : Devices := match classOf env s id productSKU connMode trusted with
  | none => s
  | some deviceType => s.setDeviceType id deviceType

def ClientHeartbeat.identity (body : ClientHeartbeat) : VerifiedDeviceIdentity :=
  ⟨body.productSKU,body.connMode,body.capabilities,body.telemetrySchema⟩

def ClientHeartbeat.silent (body : ClientHeartbeat) : Bool :=
  body.productSKU=""&&body.connMode=""&&body.capabilities=[]

def saveUnless (failed : Bool) (s : Devices) (id : PeerID) (kind : String)
    (data : VerifiedDeviceIdentity) : Devices := if failed then s else s.setSnapshot id kind data

def rememberVerifiedIdentity (env : Env) (s : Devices) (id : PeerID) (body : ClientHeartbeat) : Devices :=
  if body.silent then s
  else
    let s:=saveUnless (env.fails .saveIdentity) s id "identity" body.identity
    let s:=saveUnless (env.fails .saveVerifiedIdentity) s id verifiedIdentityKind body.identity
    classifyPeerFromClient env s id body.productSKU body.connMode true

def rememberUnverifiedIdentity (env : Env) (s : Devices) (id : PeerID) (body : ClientHeartbeat) : Devices :=
  if env.fails .rememberedSnapshot=false ∧ (s.snapshots id verifiedIdentityKind).isSome then s
  else if body.silent then s
  else
    let s:=saveUnless (env.fails .saveIdentity) s id "identity" body.identity
    classifyPeerFromClient env s id body.productSKU body.connMode false

def isSnapshotKind (kind : String) : Bool := trimString kind≠""&&kind.utf8ByteSize≤32

def saveClientTelemetry (env : Env) (id : PeerID) : ℕ → Devices → Telemetry → Devices
  | _, s, [] => s
  | i, s, snapshot::rest => saveClientTelemetry env id (i+1)
      (saveUnless (env.fails (.saveTelemetrySnapshot i)||!isSnapshotKind snapshot.kind) s id
        snapshot.kind snapshot.data) rest

def ClientHeartbeat.readTelemetry (body : ClientHeartbeat) : Telemetry :=
  match body.telemetryEnvelope with
  | .absent => body.telemetry
  | .rejected => []
  | .opened content => content

def Message.deviceID : Message → PeerID
  | heartbeat body _ => if body.id="" then body.uuid else body.id
  | sysinfo body => if body.id="" then body.uuid else body.id

def accepted (env : Env) (s : Devices) (m : Message) : Option Row :=
  if env.allowed=false ∨ m.deviceID="" ∨ isValidPeerID m.deviceID=false then none
  else if env.fails .getPeer then none
  else (s.getPeer m.deviceID).filter fun row => !row.banned

def handleClientHeartbeat (env : Env) (s : Devices) (id : PeerID) (body : ClientHeartbeat)
    (betterDeskEnvelope : Sealed ClientHeartbeat) : Devices := match betterDeskEnvelope with
  | .rejected => s
  | .opened inner =>
    if inner.id≠"" ∧ inner.id≠id then s
    else saveClientTelemetry env id 0 (rememberVerifiedIdentity env s id inner) inner.readTelemetry
  | .absent => saveClientTelemetry env id 0 (rememberUnverifiedIdentity env s id body) body.readTelemetry

def Message.handle (env : Env) (s : Devices) (m : Message) : Devices :=
  match accepted env s m with
  | none => s
  | some _ => match m with
    | heartbeat body envelope => handleClientHeartbeat env s m.deviceID body envelope
    | sysinfo body => classifyPeerFromClient env s m.deviceID body.productSKU body.connMode false

structure Action where
  env : Env
  message : Message

def step (s : Devices) (a : Action) : Option Devices := some (a.message.handle a.env s)

end BetterDesk.Device
