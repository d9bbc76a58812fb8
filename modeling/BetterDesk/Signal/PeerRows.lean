import BetterDesk.Signal.KeyHistory

/-! # The rows of the peers table (db/sqlite.go, db/postgres.go) -/

namespace BetterDesk.Signal
open Db Text

inductive Dialect
  | sqlite
  | postgres
  deriving DecidableEq

/-- A row without its ID, which is the key. A time is `none` where the column is empty. -/
structure PeerRow where
  uuid : Bytes
  pk : Option Bytes
  ip : Option IP
  user : String
  hostname : String
  os : String
  version : String
  status : String
  natType : ℤ
  lastOnline : Option ℕ
  createdAt : Option ℕ
  disabled : Bool
  banned : Bool
  banReason : String
  bannedAt : Option ℕ
  softDeleted : Bool
  deletedAt : Option ℕ
  note : String
  tags : String
  heartbeatSeq : ℤ
  deviceType : String
  linkedPeerID : PeerID
  displayName : String
  guid : String

/-- What `UpsertPeer` is given: the columns of `db.Peer` that one of the dialects writes. -/
structure Peer where
  id : PeerID
  uuid : Bytes
  pk : Option Bytes
  ip : Option IP
  user : String
  hostname : String
  os : String
  version : String
  status : String
  natType : ℤ
  lastOnline : Option ℕ
  disabled : Bool
  note : String
  tags : String
  heartbeatSeq : ℤ
  deviceType : String
  linkedPeerID : PeerID
  displayName : String

abbrev PeerTable := PeerID → Option PeerRow

/-- `COALESCE(NULLIF(excluded, ''), stored)`. -/
def unlessEmpty (excluded stored : String) : String := if excluded="" then stored else excluded

def PeerRow.merge (row : PeerRow) (p : Peer) : PeerRow := {row with
  uuid := if p.uuid=[] then row.uuid else p.uuid
  pk := p.pk.or row.pk
  ip := p.ip
  user := unlessEmpty p.user row.user
  hostname := unlessEmpty p.hostname row.hostname
  os := unlessEmpty p.os row.os
  version := unlessEmpty p.version row.version
  status := p.status
  natType := p.natType
  lastOnline := p.lastOnline
  disabled := p.disabled
  note := unlessEmpty p.note row.note
  tags := unlessEmpty p.tags row.tags
  heartbeatSeq := p.heartbeatSeq}

def PeerRow.onConflict (dialect : Dialect) (row : PeerRow) (p : Peer) : PeerRow := match dialect with
  | .postgres => row.merge p
  | .sqlite => {row.merge p with
      deviceType := unlessEmpty p.deviceType row.deviceType
      linkedPeerID := unlessEmpty p.linkedPeerID row.linkedPeerID
      displayName := unlessEmpty p.displayName row.displayName}

def Peer.inserted (dialect : Dialect) (now : ℕ) (p : Peer) : PeerRow where
  uuid := p.uuid
  pk := p.pk
  ip := p.ip
  user := p.user
  hostname := p.hostname
  os := p.os
  version := p.version
  status := p.status
  natType := p.natType
  lastOnline := p.lastOnline
  createdAt := some now
  disabled := p.disabled
  banned := false
  banReason := ""
  bannedAt := none
  softDeleted := false
  deletedAt := none
  note := p.note
  tags := p.tags
  heartbeatSeq := p.heartbeatSeq
  deviceType := if dialect=.sqlite then p.deviceType else ""
  linkedPeerID := if dialect=.sqlite then p.linkedPeerID else ""
  displayName := if dialect=.sqlite then p.displayName else ""
  guid := ""

def PeerTable.upsertPeer (peers : PeerTable) (dialect : Dialect) (now : ℕ) (p : Peer) : PeerTable :=
  Function.update peers p.id <| some <| match peers p.id with
    | some row => row.onConflict dialect p
    | none => p.inserted dialect now

def PeerTable.updatePeerStatus (peers : PeerTable) (now : ℕ) (id : PeerID) (status : String) (ip : Option IP) :
    PeerTable := match (peers id).filter fun row => !row.softDeleted with
  | none => peers
  | some row => Function.update peers id (some {row with status := status,ip := ip,lastOnline := some now})

def statusOnline : String := "ONLINE"

/-- The record that `processRegisterPk` hands to `UpsertPeer`: four fields are set. -/
def registrationPeer (id : PeerID) (e : Entry) : Peer where
  id := id
  uuid := hexEncode e.uuid
  pk := if e.pk=[] then none else some e.pk
  ip := none
  user := ""
  hostname := ""
  os := ""
  version := ""
  status := statusOnline
  natType := 0
  lastOnline := none
  disabled := false
  note := ""
  tags := ""
  heartbeatSeq := 0
  deviceType := ""
  linkedPeerID := ""
  displayName := ""

inductive PeerWrite
  | upsert (p : Peer)
  | status (id : PeerID) (ip : IP)

def PeerWrite.perform (dialect : Dialect) (now : ℕ) (peers : PeerTable) : PeerWrite → PeerTable
  | upsert p => peers.upsertPeer dialect now p
  | status id ip => peers.updatePeerStatus now id statusOnline (some ip)

namespace Server
variable (s : Server) (env : Environment)

/-- The entry that a registration of `id` is compared with. -/
def claimedEntry (id : PeerID) (existing : Option Row) : Entry :=
  hydrate existing ((s.peers.get id).getD ⟨id,[],[],none,none,0,.udp,none,s.now,false⟩)

def claimWrite (id : PeerID) (existing : Option Row) (m : RegisterPk) (addr : Addr) : Option PeerWrite :=
  let e:=s.claimedEntry id existing
  if uuidMismatch e m then none
  else if pkMismatch e m then none
  else if s.db.fails (.upsertPeer id) then none
  else some (.upsert (registrationPeer id (s.registered e m addr)))

/-- A change of the ID is written by `ChangePeerID`, which is neither of the two. -/
def registerPkWrite (m : RegisterPk) (addr : Addr) : Option PeerWrite :=
  match s.refusedRegistration m addr with
  | some _ => none
  | none =>
    if m.oldID≠"" then none
    else match s.resolveRegistrationPeerID m.id addr.ip m.uuid m.pk with
      | none => none
      | some id =>
        if m.noRegisterDevice then none
        else match s.admitRegistration id with
          | (.error _,_) => none
          | (.ok existing,s) => s.claimWrite id existing m addr

def statusWrite (id : PeerID) (ip : IP) : Option PeerWrite :=
  if env.writesStatus then some (.status id ip) else none

def unbanned (id : PeerID) (existing : Entry) : Bool := !existing.banned&&s.db.isPeerBanned id=.ok false

def newPeerWrite (id : PeerID) (addr : Addr) : Option PeerWrite :=
  if s.rejectIfPeerSoftDeleted id then none
  else if s.enrollmentPermitted id&&s.db.isPeerBanned id=.ok false then statusWrite env id addr.ip
  else none

def registerPeerWrite (transport : ConnType) (id : PeerID) (addr : Addr) : Option PeerWrite :=
  match s.registrationID id addr with
  | none => none
  | some id =>
    if !s.knownPeer id&&!env.allowsNew then none
    else match s.peers.get id with
      | some existing =>
        -- only the WebSocket handler asks whether the row of a live peer is soft-deleted
        if s.unbanned id existing&&!(transport=.ws&&s.rejectIfPeerSoftDeleted id) then
          statusWrite env id addr.ip
        else none
      | none => s.newPeerWrite env id addr

/-- The last `UpsertPeer` or `UpdatePeerStatus` of the handling. -/
def peerWrite : KeyAction → Option PeerWrite
  | .registerPeer id raddr => (s.underEnv env).registerPeerWrite env .udp id raddr
  | .registerPeerWS id addr => (s.underEnv env).registerPeerWrite env .ws id addr
  | .registerPk _ m addr => (s.underEnv env).registerPkWrite m addr
  | _ => none

end Server

def PeerRow.brief (row : PeerRow) : Row :=
  ⟨row.uuid,row.pk.getD [],row.ip,row.deviceType,row.tags,row.banned,row.disabled,row.softDeleted⟩

def Mirrors (peers : PeerTable) (db : Database) : Prop := ∀ id, db.peers id=(peers id).map PeerRow.brief

structure StoredServer where
  server : Server
  peers : PeerTable
  mirrors : Mirrors peers server.db

def StoredServer.after (x : StoredServer) (dialect : Dialect) (env : Environment) (a : KeyAction) : PeerTable :=
  match x.server.peerWrite env a with
  | none => x.peers
  | some w => w.perform dialect x.server.now x.peers

end BetterDesk.Signal
