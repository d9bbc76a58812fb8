import BetterDesk.Signal.Initiator
import BetterDesk.Signal.RelayAddr

/-! # Session requests (signal/handler.go, signal/server.go, signal/lan_exchange.go) -/

namespace BetterDesk.Signal
open Db Text

inductive Dest
  | udp (addr : Addr)
  | conn (addr : Addr)
  deriving DecidableEq

inductive Sent
  | request (targetID : PeerID) (dest : Dest) (msg : Msg)
  | answer (dest : Dest) (msg : Msg)
  | panic                                   -- a slice out of bounds, nothing more is sent
  deriving DecidableEq

structure Turn where
  server : Server
  sent : List Sent

structure PunchHoleRequest where
  id : PeerID
  token : Bytes
  natType : ℕ
  udpPort : ℤ
  forceRelay : Bool

structure RequestRelay where
  id : PeerID
  uuid : Relay.UUID
  relayServer : Bytes
  token : Bytes

def encodePeerSocketAddr (entry : Entry) : Option Addr := entry.udpAddr.or entry.ip

def encodeRelayResponsePeerSocketAddr (entry : Option Entry) : Option Addr := do
  let e ← entry
  if e.connType ≠ .ws then encodePeerSocketAddr e
  else
    let addr ← encodePeerSocketAddr e
    pure ⟨addr.ip,0⟩

def relayAdvertisedAddr (correlationAddr : Addr) (initiatorType : ConnType) : Addr :=
  if initiatorType=.ws then ⟨correlationAddr.ip,0⟩ else correlationAddr

def ensurePunchHoleSocketAddr (phr : PunchHoleResponse) (relayServer : Bytes) : PunchHoleResponse :=
  if phr.socketAddr.isSome then phr else ⟨some .offline,none,none,relayServer,none⟩

def signIdPk (id : PeerID) (pk : Bytes) : Option SignedPk := if pk=[] then none else some ⟨id,pk⟩

def symmetric : ℕ := 2

def panelWebRemoteInitiatorID : PeerID := "panel-web-remote"
def sharedNATInitiatorID : PeerID := "shared-nat-initiator"
def legacyOutboundInitiatorPrefix : String := "legacy-controller-"

def isLegacyOutboundInitiator (id : PeerID) : Bool := hasPrefix id legacyOutboundInitiatorPrefix

namespace Server
variable (s : Server)

def initiatorID : Initiator → PeerID
  | .device id => id
  | .panelWebRemote => panelWebRemoteInitiatorID
  | .sharedNAT => sharedNATInitiatorID
  | .legacyController addr => legacyOutboundInitiatorPrefix ++
      String.ofList ((s.sha256Hex (s.addrString addr)).toList.take 16)
  | .sessionUser userID => "session-user-" ++ toString userID

def mergePending (old : Option PendingUUID) (entry : PendingUUID) : PendingUUID := match old with
  | none => entry
  | some o => {entry with
      uuid := if entry.uuid="" then o.uuid else entry.uuid
      initiatorID := if entry.initiatorID="" then o.initiatorID else entry.initiatorID
      targetID := if entry.targetID="" then o.targetID else entry.targetID}

def dropUUID (m : SyncMap Relay.UUID PendingUUID) (old : Option PendingUUID) (entry : PendingUUID) :
    SyncMap Relay.UUID PendingUUID := match old with
  | none => m
  | some o => if o.uuid≠"" ∧ o.uuid≠entry.uuid then m.delete o.uuid else m

def dropAdvertised (m : SyncMap PendingKey PendingUUID) (old : Option PendingUUID)
    (entry : PendingUUID) : SyncMap PendingKey PendingUUID := match old with
  | none => m
  | some o => if o.advertisedAddr≠entry.advertisedAddr then m.delete (o.targetID,o.advertisedAddr)
      else m

def indexUUID (m : SyncMap Relay.UUID PendingUUID) (entry : PendingUUID) :
    SyncMap Relay.UUID PendingUUID := if entry.uuid="" then m else m.store entry.uuid entry

def storePendingRelay (targetID : PeerID) (correlationAddr advertisedAddr : Addr)
    (uuid : Relay.UUID) (initiatorID : PeerID) : Server := if targetID="" ∧ uuid="" then s
  else
    let key : PendingKey := (targetID,correlationAddr)
    let old:=s.pendingRelayUUIDs.load key
    let entry:=mergePending old ⟨uuid,targetID,initiatorID,correlationAddr,advertisedAddr,s.now⟩
    { s with
      pendingRelayUUIDs := s.pendingRelayUUIDs.store key entry
      pendingRelayByUUID := indexUUID (dropUUID s.pendingRelayByUUID old entry) entry
      pendingRelayByAdvertised := (dropAdvertised s.pendingRelayByAdvertised old entry).store
        (entry.targetID,entry.advertisedAddr) entry}

def storePendingUUID (targetID : PeerID) (initiatorAddr : Addr) (uuid : Relay.UUID)
    (initiatorID : PeerID) : Server :=
  s.storePendingRelay targetID initiatorAddr initiatorAddr uuid initiatorID

def newUUID : Relay.UUID × Server := (s.fresh s.freshUsed,{s with freshUsed := s.freshUsed+1})

def relayUUID (uuid : Relay.UUID) : Relay.UUID × Server := if uuid="" then s.newUUID else (uuid,s)

def authorizeRelayTicket (relayUUID : Relay.UUID) (initiatorID targetID : PeerID) : Bool × Server :=
  let r:=s.registry.authorize s.now relayUUID initiatorID targetID
  (r.1,{s with
    registry := r.2
    authorizations := if r.1 then ⟨relayUUID,initiatorID,targetID⟩::s.authorizations
      else s.authorizations})

def tcpPunchConnForPeer (id : PeerID) : Option Addr :=
  if id="" then none else (s.tcpPunchConns.find? fun c => c.2=id).map Prod.fst

/-- Where `sendToPeer` gets a message across, if anywhere. -/
def sendToPeer (id : PeerID) : Option Dest := do
  let entry ← s.peers.get id
  if entry.connType=.ws then
    let addr ← entry.wsConn
    if s.delivers addr then some (.conn addr) else none
  else match entry.udpAddr with
    | some addr => if s.delivers addr then some (.udp addr) else none
    | none =>
      let addr ← s.tcpPunchConnForPeer id
      if s.delivers addr then some (.conn addr) else none

def sendUDP (addr : Addr) : Option Dest := if s.delivers addr then some (.udp addr) else none

def livingWSAt (ip : IP) : List Entry :=
  (s.peers.findAllByIP ip).filter fun e => e.connType=.ws&&e.wsConn.isSome

/-- The connection with this address, or that of the only WebSocket peer there. -/
def forwardToInitiator (addr : Addr) : Option Dest :=
  if (s.tcpPunchConns.load addr).isSome&&s.delivers addr then some (.conn addr)
  else if s.wsPunchConns addr then if s.delivers addr then some (.conn addr) else none
  else match s.livingWSAt addr.ip with
    | [e] => (e.wsConn.filter s.delivers).map Dest.conn
    | _ => none

inductive Refusal
  | unauthorized
  | offline
  | unavailable

def admitRequest (raddr : Addr) (token : Bytes) (udpPort : ℤ) (targetID : PeerID) :
    Except Refusal (Initiator × Entry) × Server :=
  match s.requireAuthorizedInitiator raddr token udpPort with
  | (none,s) => (.error .unauthorized,s)
  | (some i,s) => match (s.peers.get targetID).filter fun e => !e.isExpired s.now with
    | none => (.error .offline,s)
    | some target =>
      if target.banned||!s.targetAcceptsInboundSession targetID then (.error .unavailable,s)
      else (.ok (i,target),s)

def billingDenies (targetID : PeerID) : Bool :=
  s.billing.any fun b => !(b.checkConnection targetID).allowed

def signedTargetKey (targetID : PeerID) (target : Option Entry) : Option SignedPk × Server :=
  let r:=s.peerPublicKey targetID target
  (signIdPk targetID r.1,r.2)

def punchRefused : Refusal → Bytes → PunchHoleResponse
  | .unauthorized, _ => ⟨some .idNotExist,none,none,[],none⟩
  | .offline, relayServer => ⟨some .offline,none,none,relayServer,none⟩
  | .unavailable, _ => ⟨some .offline,none,none,[],none⟩

/-- How a hole is punched: the relay to fall back on, and whether to go there at
once. -/
structure Route where
  relayServer : Bytes
  sameNetwork : Bool
  forced : Bool

def forcesRelay (m : PunchHoleRequest) (hairpin : Bool) (initiatorID targetID : PeerID) :
    Bool × Server := if m.forceRelay||s.cfg.connection.alwaysUseRelay||hairpin ||
    isLegacyOutboundInitiator initiatorID then (true,s)
  else
    let r:=s.shouldForceRelayForPeers [initiatorID,targetID]
    (r.1||r.2.requiresRelayOnlyCompatibility targetID,r.2)

def routePunch (m : PunchHoleRequest) (target : Entry) (raddr : Addr) (initiatorID : PeerID) :
    Route × Server := let sel:=s.selectPeerRelayServer s.getRelayServer raddr target.udpAddr
  let p:=s.applyNetworkRelayPolicy sel.relay [initiatorID,m.id]
  let s:=p.2.storePendingUUID m.id raddr "" initiatorID
  let f:=s.forcesRelay m sel.samePublicIP initiatorID m.id
  (⟨p.1,sel.sameLAN,f.1⟩,f.2)

def sendRelayResponse (m : PunchHoleRequest) (target : Entry) (raddr : Addr) (relayServer : Bytes)
    (initiatorID : PeerID) : Turn := let u:=s.newUUID
  match u.2.authorizeRelayTicket u.1 initiatorID target.id with
  | (false,s) => ⟨s,[.answer (.udp raddr)
      (.relayResponse ⟨"Relay authorization rejected",none,"",relayServer,none⟩)]⟩
  | (true,s) =>
    let k:=s.signedTargetKey target.id (some target)
    let answer:=Sent.answer (.udp raddr) (.relayResponse ⟨"",none,u.1,relayServer,k.1⟩)
    match target.udpAddr with
    | none => ⟨k.2,[answer]⟩
    | some addr => ⟨k.2.storePendingUUID target.id raddr u.1 initiatorID,answer ::
        ((s.sendUDP addr).map fun dest =>
          .request target.id dest (.requestRelay raddr u.1 m.id relayServer)).toList⟩

def lanFallbackResponse (targetID : PeerID) (target : Entry) (relayServer : Bytes) :
    PunchHoleResponse × Server := let k:=s.signedTargetKey targetID (some target)
  (ensurePunchHoleSocketAddr
    ⟨none,encodePeerSocketAddr target,k.1,relayServer,some symmetric⟩ relayServer,k.2)

def lanExchange (targetID : PeerID) (target : Entry) (initiatorID : PeerID) (raddr : Addr)
    (transport : ConnType) (relayServer : Bytes) (answerTo : Dest) : Turn :=
  let f:=s.lanFallbackResponse targetID target relayServer
  let key : PendingKey := (targetID,raddr)
  match f.2.sendToPeer targetID with
  | some dest =>
    let p : PendingLAN := ⟨targetID,initiatorID,raddr,transport,relayServer,f.1,s.now⟩
    ⟨{f.2 with pendingLANs := f.2.pendingLANs.store key p},
      [.request targetID dest (.fetchLocalAddr raddr relayServer)]⟩
  | none => ⟨{f.2 with pendingLANs := f.2.pendingLANs.delete key},
      [.answer answerTo (.punchHoleResponse f.1)]⟩

def punchResponse (target : Entry) (route : Route) (pk : Option SignedPk) : PunchHoleResponse :=
  ensurePunchHoleSocketAddr ⟨none,encodePeerSocketAddr target,pk,route.relayServer,
    if route.sameNetwork then none else some target.natType⟩ route.relayServer

def answerPunch (m : PunchHoleRequest) (target : Entry) (route : Route) (raddr : Addr)
    (overUDP : Bool) : List Sent × Server := let k:=s.signedTargetKey m.id (some target)
  let phr:=punchResponse target route k.1
  if s.cfg.connection.p2pFirst&&!route.sameNetwork&&phr.socketAddr.isSome then
    ([],{k.2 with pendingPunches := k.2.pendingPunches.store raddr ⟨phr,overUDP,s.now⟩})
  else ([.answer (if overUDP then .udp raddr else .conn raddr) (.punchHoleResponse phr)],k.2)

def handlePunchHoleRequest (m : PunchHoleRequest) (raddr : Addr) : Turn :=
  if m.id="" then ⟨s,[]⟩
  else match s.admitRequest raddr m.token m.udpPort m.id with
    | (.error r,s') => ⟨s',[.answer (.udp raddr)
        (.punchHoleResponse (punchRefused r s.getRelayServer))]⟩
    | (.ok (i,target),s) =>
      if s.billingDenies m.id then
        ⟨s,[.answer (.udp raddr) (.punchHoleResponse (punchRefused .unavailable []))]⟩
      else
        let initiatorID:=s.initiatorID i
        let (route,s):=s.routePunch m target raddr initiatorID
        if route.forced then s.sendRelayResponse m target raddr route.relayServer initiatorID
        else if route.sameNetwork&&target.connType ≠ .ws then
          s.lanExchange m.id target initiatorID raddr .udp route.relayServer (.udp raddr)
        else
          let dest := match target.udpAddr with
            | some addr => s.sendUDP addr
            | none => s.sendToPeer m.id
          let punch : Msg := .punchHole raddr route.relayServer m.natType m.udpPort m.forceRelay
          let (answers,s):=s.answerPunch m target route raddr true
          ⟨s,(dest.map fun dest => Sent.request m.id dest punch).toList++answers⟩

/-- Over TCP, and over a WebSocket with the hint `.ws`. -/
def handlePunchHoleRequestTCP (m : PunchHoleRequest) (raddr : Addr) (hint : ConnType) : Turn :=
  if m.id="" then ⟨s,[]⟩
  else match s.admitRequest raddr m.token m.udpPort m.id with
    | (.error r,s') => ⟨s',[.answer (.conn raddr)
        (.punchHoleResponse (punchRefused r s.getRelayServer))]⟩
    | (.ok (i,target),s) =>
      let initiatorID:=s.initiatorID i
      let (route,s):=s.routePunch m target raddr initiatorID
      if route.forced then
        let (phr,s):=s.lanFallbackResponse m.id target route.relayServer
        ⟨s,[.answer (.conn raddr) (.punchHoleResponse phr)]⟩
      else if route.sameNetwork&&hint ≠ .ws&&target.connType ≠ .ws then
        s.lanExchange m.id target initiatorID raddr .tcp route.relayServer (.conn raddr)
      else
        let punch : Msg := .punchHole (relayAdvertisedAddr raddr hint) route.relayServer m.natType
          m.udpPort m.forceRelay
        let dest:=s.sendToPeer m.id
        let (answers,s):=s.answerPunch m target route raddr false
        ⟨s,(dest.map fun dest => Sent.request m.id dest punch).toList++answers⟩

def relayRefuseReason : Refusal → String
  | .unauthorized => "Not authorized"
  | .offline => "Target offline"
  | .unavailable => "Target offline"

def relayRefused (reason : String) (relayServer : Bytes) : Msg :=
  .relayResponse ⟨reason,none,"",relayServer,none⟩

def requestedRelay (m : RequestRelay) : Bytes :=
  if m.relayServer=[] then s.getRelayServer else m.relayServer

def answerRelay (target : Entry) (uuid : Relay.UUID) (relayServer : Bytes) (dest : Dest) :
    List Sent × Server := let k:=s.signedTargetKey target.id (some target)
  if uuid.utf8ByteSize<8 then ([.panic],k.2)
  else ([.answer dest (.relayResponse
    ⟨"",encodeRelayResponsePeerSocketAddr (some target),uuid,relayServer,k.1⟩)],k.2)

/-- `CheckConnection`, and then `PrepareRelay` under the UUID of the session. -/
def prepareBilling (uuid : Relay.UUID) (targetID initiatorID : PeerID) : Except String Unit × Server :=
  match s.billing with
  | none => (.ok (),s)
  | some b =>
    if (b.checkConnection targetID).allowed=false then (.error "Billing suspended",s)
    else
      let r:=b.prepareRelay s.now uuid targetID initiatorID
      (if r.1 then .ok () else .error "Billing blocked",{s with billing := some r.2})

def handleRequestRelay (m : RequestRelay) (raddr : Addr) : Turn :=
  let (uuid,s):=s.relayUUID m.uuid
  let relayServer:=s.requestedRelay m
  match s.admitRequest raddr m.token 0 m.id with
  | (.error r,s) => ⟨s,[.answer (.udp raddr) (relayRefused (relayRefuseReason r) relayServer)]⟩
  | (.ok (i,target),s) =>
    let initiatorID:=s.initiatorID i
    match s.prepareBilling uuid m.id initiatorID with
    | (.error reason,s) => ⟨s,[.answer (.udp raddr) (relayRefused reason relayServer)]⟩
    | (.ok (),s) => match s.authorizeRelayTicket uuid initiatorID m.id with
      | (false,s) =>
        ⟨s,[.answer (.udp raddr) (relayRefused "Relay authorization rejected" relayServer)]⟩
      | (true,s) =>
        let sel:=s.selectPeerRelayServer relayServer raddr target.udpAddr
        let (relayServer,s):=s.applyNetworkRelayPolicy sel.relay [initiatorID,m.id]
        let s:=s.storePendingUUID m.id raddr uuid initiatorID
        let request:=(s.sendToPeer m.id).map fun dest =>
          Sent.request m.id dest (.requestRelay raddr uuid m.id relayServer)
        let (answers,s):=s.answerRelay target uuid relayServer (.udp raddr)
        ⟨s,request.toList++answers⟩

def initiatorType (initiatorID : PeerID) (hint : ConnType) : ConnType :=
  if hint=.ws then .ws else ((s.peers.get initiatorID).map Entry.connType).getD hint

def handleRequestRelayTCP (m : RequestRelay) (raddr : Addr) (hint : ConnType) : Turn :=
  let (uuid,s):=s.relayUUID m.uuid
  let relayServer:=s.requestedRelay m
  match s.admitRequest raddr m.token 0 m.id with
  | (.error r,s) => ⟨s,[.answer (.conn raddr) (relayRefused (relayRefuseReason r) relayServer)]⟩
  | (.ok (i,target),s) =>
    let initiatorID:=s.initiatorID i
    match s.authorizeRelayTicket uuid initiatorID m.id with
    | (false,s) =>
      ⟨s,[.answer (.conn raddr) (relayRefused "Relay authorization rejected" relayServer)]⟩
    | (true,s) =>
      let sel:=s.selectPeerRelayServer relayServer raddr target.udpAddr
      let advertised:=relayAdvertisedAddr raddr (s.initiatorType initiatorID hint)
      let s:=s.storePendingRelay m.id raddr advertised uuid initiatorID
      let request:=(s.sendToPeer m.id).map fun dest =>
        Sent.request m.id dest (.requestRelay advertised uuid m.id sel.relay)
      let (answers,s):=s.answerRelay target uuid sel.relay (.conn raddr)
      ⟨s,request.toList++answers⟩

end Server

end BetterDesk.Signal
