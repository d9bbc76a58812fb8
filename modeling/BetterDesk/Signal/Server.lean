import BetterDesk.Lib.SyncMap
import BetterDesk.Relay.Authorization
import BetterDesk.Policy.Network
import BetterDesk.Billing.Service
import Mathlib.Algebra.Order.Ring.Nat

/-! # The state of the signal server (signal/server.go, peer/map.go) -/

namespace BetterDesk.Signal
open Db Text

inductive IP
  | v4 (value : ℕ)
  | v6 (value : ℕ)
  deriving DecidableEq

structure Addr where
  ip : IP
  port : ℕ
  deriving DecidableEq

/-- `net.IPNet`: the addresses that share the first bits of one. -/
structure IPNet where
  base : IP
  hostBits : ℕ
  deriving DecidableEq

namespace IP

def within (ip : IP) (network : IPNet) : Bool := match ip, network.base with
  | v4 a, v4 b => a/2^network.hostBits=b/2^network.hostBits
  | v6 a, v6 b => a/2^network.hostBits=b/2^network.hostBits
  | _, _ => false

def isLoopback : IP → Bool
  | v4 a => a/2^24=127
  | v6 a => a=1

def isUnspecified : IP → Bool
  | v4 a => a=0
  | v6 a => a=0

def isLinkLocalUnicast : IP → Bool
  | v4 a => a/2^16=169*256+254
  | v6 a => a/2^118=0x3FA

def privateRanges : List IPNet :=
  [⟨v4 (10*2^24),24⟩,⟨v4 ((172*256+16)*2^16),20⟩,⟨v4 ((192*256+168)*2^16),16⟩,⟨v6 (0xFC*2^120),121⟩]

def isPrivateIP (ip : IP) : Bool :=
  privateRanges.any ip.within||ip.isLoopback||ip.isLinkLocalUnicast

end IP

structure Row where
  uuid : Bytes
  pk : Bytes
  ip : Option IP
  deviceType : String
  tags : String
  banned : Bool
  disabled : Bool
  softDeleted : Bool
  deriving DecidableEq

structure ClientSession where
  tokenHash : String
  userID : ℕ
  clientID : String
  clientUUID : Bytes
  expiresAt : ℕ
  revoked : Bool

inductive PeerIDState
  | missing
  | active
  | softDeleted
  deriving DecidableEq

inductive Query
  | isPeerBanned (id : PeerID)
  | isPeerSoftDeleted (id : PeerID)
  | getPeer (id : PeerID)
  | getPeerIDState (id : PeerID)
  | getPendingDevice (id : PeerID)
  | getRejectedDevice (id : PeerID)
  | setPendingDevice (id : PeerID)
  | isRenamedPeerID (id : PeerID)
  | getLatestRenameTarget (id : PeerID)
  | getDeviceTokenByPeerID (id : PeerID)
  | getClientSessionByTokenHash (hash : String)
  | getActiveClientSessionByClient (id : PeerID)
  | revokeClientSessionsForDevice (id : PeerID)
  | getUserByID (id : ℕ)
  | upsertPeer (id : PeerID)
  | changePeerID (old new : PeerID)
  deriving DecidableEq

/-- `renames` is the history, the latest change first. -/
structure Tables where
  peers : PeerID → Option Row
  pending : PeerID → Bool
  rejected : PeerID → Bool
  renames : List (PeerID × PeerID)
  deviceTokens : PeerID → Bool       -- a pending or active token of the device
  sessions : List ClientSession
  users : ℕ → Option Auth.Role

structure Database extends Tables where
  fails : Query → Bool

namespace Database
variable (db : Database)

def ask {α : Type} (q : Query) (value : α) : Answer α := if db.fails q then .error () else .ok value

theorem ask_ok {α : Type} {q : Query} {value v : α} : db.ask q value=.ok v ↔ db.fails q=false ∧ value=v := by
  unfold ask
  split
  · rename_i h
    simp [h]
  · rename_i h
    simp [h]

theorem ask_failed {α : Type} {q : Query} (value : α) (h : db.fails q=true) :
    db.ask q value=.error () := if_pos h

def isPeerBanned (id : PeerID) : Answer Bool :=
  db.ask (.isPeerBanned id) ((db.peers id).any Row.banned)

def isPeerSoftDeleted (id : PeerID) : Answer Bool :=
  db.ask (.isPeerSoftDeleted id) ((db.peers id).any Row.softDeleted)

def getPeer (id : PeerID) : Answer (Option Row) :=
  db.ask (.getPeer id) ((db.peers id).filter fun row => !row.softDeleted)

def getPeerIDState (id : PeerID) : Answer PeerIDState :=
  db.ask (.getPeerIDState id) <| match db.peers id with
    | none => .missing
    | some row => if row.softDeleted then .softDeleted else .active

/-- `GetConfig("pending_device_" + id)` is not empty. -/
def getPendingDevice (id : PeerID) : Answer Bool := db.ask (.getPendingDevice id) (db.pending id)

def getRejectedDevice (id : PeerID) : Answer Bool := db.ask (.getRejectedDevice id) (db.rejected id)

def isRenamedPeerID (id : PeerID) : Answer Bool :=
  db.ask (.isRenamedPeerID id) ((db.renames.any fun r => r.1=id)&&(db.peers id).isNone)

def getLatestRenameTarget (id : PeerID) : Answer PeerID :=
  db.ask (.getLatestRenameTarget id) (((db.renames.find? fun r => r.1=id).map Prod.snd).getD "")

def getDeviceTokenByPeerID (id : PeerID) : Answer Bool :=
  db.ask (.getDeviceTokenByPeerID id) (db.deviceTokens id)

def getClientSessionByTokenHash (hash : String) (now : ℕ) : Answer (Option ClientSession) :=
  db.ask (.getClientSessionByTokenHash hash)
    (db.sessions.find? fun c => c.tokenHash=hash&&!c.revoked&&now<c.expiresAt)

/-- The newest session of the client; `sessions` has it first. -/
def getActiveClientSessionByClient (id : PeerID) (uuid : Bytes) (now : ℕ) :
    Answer (Option ClientSession) := db.ask (.getActiveClientSessionByClient id)
    (if trimString id="" ∧ trimSpace uuid=[] then none
    else db.sessions.find? fun c => !c.revoked&&now<c.expiresAt &&
      ((trimString id≠""&&c.clientID=trimString id) ||
        (trimSpace uuid≠[]&&c.clientUUID=trimSpace uuid)))

def getUserByID (id : ℕ) : Answer (Option Auth.Role) := db.ask (.getUserByID id) (db.users id)

end Database

inductive ConnType
  | udp
  | tcp
  | ws
  deriving DecidableEq

structure Entry where
  id : PeerID
  uuid : Bytes
  pk : Bytes
  ip : Option Addr              -- the last known address
  udpAddr : Option Addr
  natType : ℕ
  connType : ConnType
  wsConn : Option Addr          -- the WebSocket connection bound to the peer
  lastReg : ℕ
  banned : Bool
  deriving DecidableEq

/-- `config.RegTimeout`, in seconds as all times here. -/
def regTimeout : ℕ := 30

def Entry.isExpired (e : Entry) (now : ℕ) : Bool := regTimeout<now-e.lastReg

abbrev PeerMap := List Entry

namespace PeerMap
variable (m : PeerMap)

def get (id : PeerID) : Option Entry := m.find? fun e => e.id=id

def put (e : Entry) : PeerMap := e::m.filter fun e' => e'.id≠e.id

def remove (id : PeerID) : PeerMap := m.filter fun e => e.id≠id

def rename (oldID newID : PeerID) : PeerMap :=
  if oldID=newID ∨ (get m newID).isSome then m
  else m.map fun e => if e.id=oldID then {e with id := newID} else e

def setPKIfEmpty (id : PeerID) (pk : Bytes) : PeerMap :=
  m.map fun e => if e.id=id ∧ e.pk=[] then {e with pk := pk} else e

def findByAddr (addr : Addr) : Option Entry :=
  m.find? fun e => e.udpAddr=some addr||e.ip=some addr

/-- `peerEntryMatchesIP`. -/
def matchesIP (e : Entry) (ip : IP) : Bool := e.udpAddr.any (·.ip=ip)||e.ip.any (·.ip=ip)

def findAllByIP (ip : IP) : List Entry := m.filter fun e => matchesIP e ip

def countByIP (ip : IP) : ℕ := (findAllByIP m ip).length

def findByIP (ip : IP) : Option Entry :=
  (m.find? fun e => e.udpAddr.any (·.ip=ip)).or
    (m.find? fun e => e.udpAddr.isNone&&e.ip.any (·.ip=ip))

end PeerMap

structure ConnectionSettings where
  operatorOnlyOutbound : Bool
  loggedInOnlyInitiator : Bool
  allowSharedNATInitiator : Bool
  alwaysUseRelay : Bool
  sameNATRelay : Bool
  p2pFirst : Bool

structure Config where
  enrollmentMode : String
  connection : ConnectionSettings
  allowLegacyOutbound : Bool
  panelSignalProxies : List IPNet
  relayServers : List Bytes
  relayPort : ℕ
  blockedIPs : List IPNet
  blockedIDs : List PeerID

namespace Config
variable (cfg : Config)

def mode : String := if cfg.enrollmentMode="" then "open" else cfg.enrollmentMode

def ipIsPanelSignalProxy (ip : IP) : Bool := cfg.panelSignalProxies.any ip.within

def isIPBlocked (ip : IP) : Bool := cfg.blockedIPs.any ip.within

def isIDBlocked (id : PeerID) : Bool := id∈cfg.blockedIDs

end Config

/-- `peerIDRegexp`. -/
def isValidPeerID (id : PeerID) : Bool :=
  6 ≤ id.length&&id.length≤16 &&
    id.toList.all fun c => ('A' ≤ c&&c ≤ 'Z')||('a' ≤ c&&c ≤ 'z')||('0' ≤ c&&c ≤ '9') ||
      c = '_'||c = '-'

structure SignedPk where
  id : PeerID
  pk : Bytes
  deriving DecidableEq

inductive PunchHoleFailure
  | idNotExist
  | offline
  deriving DecidableEq

/-- `natType` is absent from a response that is marked local. -/
structure PunchHoleResponse where
  failure : Option PunchHoleFailure
  socketAddr : Option Addr
  pk : Option SignedPk
  relayServer : Bytes
  natType : Option ℕ
  deriving DecidableEq

structure RelayResponse where
  refuseReason : String
  socketAddr : Option Addr
  uuid : Relay.UUID
  relayServer : Bytes
  pk : Option SignedPk
  deriving DecidableEq

inductive Msg
  | punchHole (socketAddr : Addr) (relayServer : Bytes) (natType : ℕ) (udpPort : ℤ) (forceRelay : Bool)
  | fetchLocalAddr (socketAddr : Addr) (relayServer : Bytes)
  | requestRelay (socketAddr : Addr) (uuid : Relay.UUID) (id : PeerID) (relayServer : Bytes)
  | punchHoleResponse (r : PunchHoleResponse)
  | relayResponse (r : RelayResponse)
  deriving DecidableEq

structure PendingUUID where
  uuid : Relay.UUID
  targetID : PeerID
  initiatorID : PeerID
  correlationAddr : Addr
  advertisedAddr : Addr
  createdAt : ℕ
  deriving DecidableEq

structure PendingPunch where
  fallback : PunchHoleResponse
  overUDP : Bool
  createdAt : ℕ

structure PendingLAN where
  targetID : PeerID
  initiatorID : PeerID
  initiatorAddr : Addr
  initiatorTransport : ConnType
  relayServer : Bytes
  fallback : PunchHoleResponse
  createdAt : ℕ

abbrev PendingKey := PeerID × Addr

structure HostIP where
  text : Bytes
  ip : IP

/-- `tcpPunchConns` has the ID that RegisterPk bound to a connection, empty before. -/
structure Server where
  cfg : Config
  now : ℕ
  db : Database
  peers : PeerMap
  tcpPunchConns : SyncMap Addr PeerID
  wsPunchConns : Addr → Bool
  registry : Relay.Registry
  authorizations : List Relay.Issue
  billing : Option Billing.Service
  networkPolicy : Policy.NetworkResolver
  pendingRelayUUIDs : SyncMap PendingKey PendingUUID
  pendingRelayByUUID : SyncMap Relay.UUID PendingUUID
  pendingRelayByAdvertised : SyncMap PendingKey PendingUUID
  pendingPunches : SyncMap Addr PendingPunch
  pendingLANs : SyncMap PendingKey PendingLAN
  localIP : Option Bytes
  lanIP : Option HostIP
  lanNet : Option IPNet
  sha256Hex : Bytes → String
  addrString : Addr → Bytes
  fresh : ℕ → Relay.UUID
  freshUsed : ℕ
  delivers : Addr → Bool

def Server.empty : Server where
  cfg := ⟨"open",⟨false,false,false,false,true,true⟩,false,[],[],21117,[],[]⟩
  now := 0
  db := ⟨⟨fun _ => none,fun _ => false,fun _ => false,[],fun _ => false,[],fun _ => none⟩,
    fun _ => false⟩
  peers := []
  tcpPunchConns := []
  wsPunchConns _ := false
  registry := .empty
  authorizations := []
  billing := none
  networkPolicy := ⟨⟨fun _ => .ok "",fun _ => .ok .none⟩,fun _ => none,fun _ => none⟩
  pendingRelayUUIDs := []
  pendingRelayByUUID := []
  pendingRelayByAdvertised := []
  pendingPunches := []
  pendingLANs := []
  localIP := none
  lanIP := none
  lanNet := none
  sha256Hex _ := ""
  addrString _ := []
  fresh n := toString n
  freshUsed := 0
  delivers _ := true

end BetterDesk.Signal
