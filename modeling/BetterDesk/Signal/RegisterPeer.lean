import BetterDesk.Signal.RegisterPk

/-! # Heartbeats and the peer map over time (signal/handler.go, signal/ws.go, peer/map.go) -/

namespace BetterDesk.Signal
open Db Text

/-- What the surroundings answer while one message is handled: the lookups that
fail, the rate limit for a device that is not known, and whether `UpdatePeerStatus`
is called (a live UDP peer is written at most once a minute) and succeeds. -/
structure Environment where
  fails : Query → Bool
  allowsNew : Bool
  writesStatus : Bool

namespace PeerMap
variable (m : PeerMap)

def updateHeartbeat (id : PeerID) (addr : Addr) (now : ℕ) : PeerMap :=
  m.map fun e => if e.id=id then {e with
    lastReg := now
    udpAddr := some addr
    ip := some addr
    connType := if e.connType=.ws then .ws else .udp} else e

def updateHeartbeatWS (id : PeerID) (addr : Addr) (now : ℕ) : PeerMap :=
  m.map fun e => if e.id=id then {e with lastReg := now,connType := .ws,ip := some addr} else e

def touchWSHeartbeat (conn : Addr) (now : ℕ) : PeerMap :=
  match m.find? fun e => e.wsConn=some conn with
  | none => m
  | some e => put m {e with lastReg := now}

def cleanExpired (now : ℕ) : PeerMap := m.filter fun e => !e.isExpired now

end PeerMap

namespace Server
variable (s : Server) (env : Environment)

def updatePeerStatus (id : PeerID) (ip : IP) : Server :=
  if env.writesStatus then
    match (s.db.peers id).filter fun row => !row.softDeleted with
    | none => s
    | some row => { s with db := {s.db with
        peers := Function.update s.db.peers id (some {row with ip := some ip})}}
  else s

def rejectIfPeerSoftDeleted (id : PeerID) : Bool := s.db.isPeerSoftDeleted id=.ok true

def retainPendingSignalPeer (id : PeerID) (addr : Addr) (udpAddr : Option Addr) (connType : ConnType) : Server :=
  {s with peers := s.peers.put ⟨id,[],[],some addr,udpAddr,0,connType,none,s.now,false⟩}

def registrationID (id : PeerID) (addr : Addr) : Option PeerID :=
  if id="" ∨ isValidPeerID id=false ∨ s.cfg.isIPBlocked addr.ip ∨ s.cfg.isIDBlocked id then none
  else s.resolveRegistrationPeerID id addr.ip [] []

def storedRow (id : PeerID) : Option Row := match s.db.getPeer id with
  | .ok row => row
  | .error _ => none

def knownPeer (id : PeerID) : Bool := (s.peers.get id).isSome||(s.storedRow id).isSome

def heartbeatPeer (id : PeerID) (existing : Entry) (raddr : Addr) : Option Bool × Server :=
  if existing.banned then (none,s.revokeBannedPeerAccess id none)
  else match s.db.isPeerBanned id with
    | .error _ => (none,s)
    | .ok true => (none,s.revokeBannedPeerAccess id none)
    | .ok false =>
      let s:={s with peers := s.peers.updateHeartbeat id raddr s.now}
      let (pk,s):=s.peerPublicKey id (some existing)
      (some (pk=[]),s.updatePeerStatus env id raddr.ip)

def newPeer (id : PeerID) (raddr : Addr) : Option Bool × Server :=
  if s.rejectIfPeerSoftDeleted id then (none,s)
  else match s.checkEnrollmentPermission id with
    | (false,s) =>
      if s.isPendingEnrollment id then (some false,s.retainPendingSignalPeer id raddr (some raddr) .udp)
      else (none,s)
    | (true,s) => match s.db.isPeerBanned id with
      | .error _ => (none,s)
      | .ok true => (none,s.revokeBannedPeerAccess id none)
      | .ok false =>
        let entry : Entry := hydrate (s.storedRow id) ⟨id,[],[],some raddr,some raddr,0,.udp,none,s.now,false⟩
        let s:={s with peers := s.peers.put entry}
        (some (entry.pk=[]),s.updatePeerStatus env id raddr.ip)

def handleRegisterPeer (id : PeerID) (raddr : Addr) : Option Bool × Server :=
  match s.registrationID id raddr with
  | none => (none,s)
  | some id =>
    if !s.knownPeer id&&!env.allowsNew then (none,s)
    else match s.peers.get id with
      | some existing => s.heartbeatPeer env id existing raddr
      | none => s.newPeer env id raddr

def heartbeatPeerWS (id : PeerID) (existing : Entry) (addr : Addr) : Option Bool × Server :=
  if existing.banned then (none,s.revokeBannedPeerAccess id none)
  else if s.rejectIfPeerSoftDeleted id then (none,s)
  else match s.db.isPeerBanned id with
    | .error _ => (none,s)
    | .ok true => (none,s.revokeBannedPeerAccess id none)
    | .ok false =>
      let s:={s with peers := s.peers.updateHeartbeatWS id addr s.now}
      (some (existing.pk=[]),s.updatePeerStatus env id addr.ip)

def newPeerWS (id : PeerID) (addr : Addr) : Option Bool × Server :=
  if s.rejectIfPeerSoftDeleted id then (none,s)
  else match s.checkEnrollmentPermission id with
    | (false,s) =>
      if s.isPendingEnrollment id then (some false,s.retainPendingSignalPeer id addr none .ws)
      else (none,s)
    | (true,s) => match s.db.isPeerBanned id with
      | .error _ => (none,s)
      | .ok true => (none,s.revokeBannedPeerAccess id none)
      | .ok false =>
        let s:={s with peers := s.peers.put ⟨id,[],[],some addr,none,0,.ws,none,s.now,false⟩}
        (some true,s.updatePeerStatus env id addr.ip)

def handleRegisterPeerWS (id : PeerID) (addr : Addr) : Option Bool × Server :=
  match s.registrationID id addr with
  | none => (none,s)
  | some id =>
    if !s.knownPeer id&&!env.allowsNew then (none,s)
    else match s.peers.get id with
      | some existing => s.heartbeatPeerWS env id existing addr
      | none => s.newPeerWS env id addr

/-- The loop of a WebSocket binds the connection to the ID that the message has. -/
def registerPeerWS (id : PeerID) (addr : Addr) : Server :=
  match s.handleRegisterPeerWS env id addr with
  | (none,s) => s
  | (some _,s) => {s.bindPeerWSConn id addr with wsPunchConns := Function.update s.wsPunchConns addr true}

def cleanup : Server := {s with peers := s.peers.cleanExpired s.now}

def restart : Server :=
  { s with
    peers := []
    tcpPunchConns := []
    wsPunchConns := fun _ => false
    registry := .empty
    authorizations := []
    pendingRelayUUIDs := []
    pendingRelayByUUID := []
    pendingRelayByAdvertised := []
    pendingPunches := []
    pendingLANs := []}

end Server

end BetterDesk.Signal
