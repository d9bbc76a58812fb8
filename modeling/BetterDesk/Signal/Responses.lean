import BetterDesk.Signal.Sessions

/-! # What targets send back (signal/handler.go, signal/lan_exchange.go) -/

namespace BetterDesk.Signal
open Db Text

/-- An address that is missing or cannot be decoded is `none`. -/
structure RelayResponseIn where
  socketAddr : Option Addr
  id : PeerID
  uuid : Relay.UUID

structure PunchHoleSent where
  socketAddr : Option Addr
  id : PeerID
  relayServer : Bytes
  natType : ℕ

structure FetchLocalAddr where
  socketAddr : Option Addr
  relayServer : Bytes

structure LocalAddr where
  socketAddr : Option Addr
  localAddr : Option Addr
  id : PeerID

namespace Server
variable (s : Server)

def peerIDForAddr (raddr : Addr) : PeerID := match s.peers.findByAddr raddr with
  | some p => p.id
  | none => s.tcpSessionPeerID raddr

def relayResponseSourceMatchesTarget (targetID : PeerID) (sender : Addr) : Bool :=
  match s.peers.get targetID with
  | none => false
  | some target => (target.udpAddr.or target.ip).any (·.ip=sender.ip)

def peerAlone (ip : IP) : Option PeerID :=
  if 1 < s.peers.countByIP ip then none else (s.peers.findByIP ip).map Entry.id

def getPendingRelayByAdvertised (targetID : PeerID) (advertisedAddr : Addr) : Option PendingUUID :=
  if targetID≠"" then s.pendingRelayByAdvertised.load (targetID,advertisedAddr)
  else (s.pendingRelayByAdvertised.find? fun x => x.2.advertisedAddr=advertisedAddr).map Prod.snd

def pendingOf (rr : RelayResponseIn) (initiatorAddr : Addr) : Option PendingUUID :=
  let byUUID := if rr.uuid≠"" then s.pendingRelayByUUID.load rr.uuid else none
  let byPair := if rr.id≠"" then s.pendingRelayUUIDs.load (rr.id,initiatorAddr) else none
  let byAddr := if rr.id="" then
    (s.pendingRelayUUIDs.find? fun x =>
      x.1.2=initiatorAddr||x.2.advertisedAddr=initiatorAddr).map Prod.snd else none
  ((byUUID.or byPair).or (s.getPendingRelayByAdvertised rr.id initiatorAddr)).or byAddr

def refusesSource (rr : RelayResponseIn) (sender : Addr) : Bool :=
  let senderID:=s.peerIDForAddr sender
  rr.id≠""&&(if senderID≠"" then rr.id≠senderID
    else !s.relayResponseSourceMatchesTarget rr.id sender)

def resolveTarget (rr : RelayResponseIn) (pending : Option PendingUUID) (sender : Addr) : PeerID :=
  if rr.id≠"" then rr.id
  else
    let pendingID:=(pending.map PendingUUID.targetID).getD ""
    if pendingID≠"" then pendingID
    else if s.peerIDForAddr sender≠"" then s.peerIDForAddr sender
    else (s.peerAlone sender.ip).getD ""

/-- The initiator a response is for: of the pending session, of the exact
address, and then what the address suggests. -/
def resolveInitiator (pending : Option PendingUUID) (initiatorAddr : Addr) : PeerID :=
  let pendingID:=(pending.map PendingUUID.initiatorID).getD ""
  if pendingID≠"" then pendingID
  else if s.peerIDForAddr initiatorAddr≠"" then s.peerIDForAddr initiatorAddr
  else if s.cfg.ipIsPanelSignalProxy initiatorAddr.ip then panelWebRemoteInitiatorID
  else if s.cfg.connection.allowSharedNATInitiator&&1 < s.peers.countByIP initiatorAddr.ip then
    sharedNATInitiatorID
  else (s.peerAlone initiatorAddr.ip).getD ""

inductive RecoveredUUID
  | uuid (u : Relay.UUID)
  | panic                       -- a log line cuts a shorter UUID to 8 bytes

def recoverUUID (rr : RelayResponseIn) (pending : Option PendingUUID) (targetID : PeerID)
    (initiatorAddr : Addr) : RecoveredUUID × Server :=
  let pendingUUID:=(pending.map PendingUUID.uuid).getD ""
  if rr.uuid≠"" then (.uuid rr.uuid,s)
  else if pendingUUID≠"" then (.uuid pendingUUID,s)
  else
    let stored:=((s.pendingRelayUUIDs.load (targetID,initiatorAddr)).map PendingUUID.uuid).getD ""
    if stored="" then (.uuid s.newUUID.1,s.newUUID.2)
    else if stored.utf8ByteSize<8 then (.panic,s)
    else (.uuid stored,s)

/-- Where the response reaches the initiator: its connection, the exact address,
or its registered address where no other peer shares it. -/
def deliverRelayResponse (forwardAddr : Addr) (initiatorID : PeerID) : Option Dest :=
  ((s.forwardToInitiator forwardAddr).or (s.sendUDP forwardAddr)).or <| do
    let entry ← s.peers.get initiatorID
    let addr ← entry.udpAddr
    if 1 < s.peers.countByIP addr.ip ∧ addr≠forwardAddr then none else s.sendUDP addr

def handleRelayResponseForward (rr : RelayResponseIn) (sender : Addr) : Turn :=
  match rr.socketAddr with
  | none => ⟨s,[]⟩
  | some initiatorAddr =>
    if s.refusesSource rr sender then ⟨s,[]⟩
    else
      let pending:=s.pendingOf rr initiatorAddr
      let forwardAddr:=(pending.map PendingUUID.correlationAddr).getD initiatorAddr
      let targetID:=s.resolveTarget rr pending sender
      match s.recoverUUID rr pending targetID initiatorAddr with
      | (.panic,s) => ⟨s,[.panic]⟩
      | (.uuid uuid,s) =>
        let initiatorID:=s.resolveInitiator pending initiatorAddr
        if targetID="" ∨ initiatorID="" then ⟨s,[]⟩
        else match s.authorizeRelayTicket uuid initiatorID targetID with
          | (false,s) => ⟨s,[]⟩
          | (true,s) =>
            let target:=s.peers.get targetID
            let (pk,s):=s.signedTargetKey targetID target
            -- the relay that the target answers with is not looked at
            let sel:=s.selectPeerRelayServer s.getRelayServer sender (some initiatorAddr)
            let resp : Msg := .relayResponse ⟨"",encodeRelayResponsePeerSocketAddr target,uuid,
              sel.relay,if target.isSome then pk else none⟩
            ⟨s,((s.deliverRelayResponse forwardAddr initiatorID).map fun dest =>
              Sent.answer dest resp).toList⟩

def punchSender (phs : PunchHoleSent) (sender : Addr) : PeerID :=
  if phs.id≠"" then phs.id else (s.peerAlone sender.ip).getD ""

def deliverPunchHoleResponse (initiatorAddr : Addr) (viaUDP : Bool) : Option Dest :=
  (s.forwardToInitiator initiatorAddr).or <|
    if viaUDP then s.sendUDP initiatorAddr
    else do
      let entry ← s.peers.findByIP initiatorAddr.ip
      let addr ← entry.udpAddr
      s.sendUDP addr

def handlePunchHoleSent (phs : PunchHoleSent) (sender : Addr) (viaUDP : Bool) : Turn :=
  match phs.socketAddr with
  | none => ⟨s,[]⟩
  | some initiatorAddr =>
    let targetID:=s.punchSender phs sender
    let target:=s.peers.get targetID
    let (pk,s):=s.signedTargetKey targetID target
    let relayServer := if phs.relayServer=[] then s.getRelayServer else phs.relayServer
    let sel:=s.selectPeerRelayServer relayServer sender (some initiatorAddr)
    let resp : Msg := .punchHoleResponse ⟨none,some sender,if target.isSome then pk else none,
      sel.relay,if sel.sameLAN then none else some phs.natType⟩
    let s:={s with pendingPunches := s.pendingPunches.delete initiatorAddr}
    ⟨s,((s.deliverPunchHoleResponse initiatorAddr viaUDP).map fun dest =>
      Sent.answer dest resp).toList⟩

def handleFetchLocalAddr (m : FetchLocalAddr) (raddr : Addr) : Turn :=
  match m.socketAddr with
  | none => ⟨s,[]⟩
  | some targetAddr =>
    let fetch : Msg := .fetchLocalAddr raddr m.relayServer
    let found:=(s.peers.findByAddr targetAddr).filter fun e => e.connType ≠ .ws
    let sent:=found.bind fun e => (s.sendToPeer e.id).map fun dest => Sent.request e.id dest fetch
    let direct:=(s.sendUDP targetAddr).map fun dest =>
      Sent.request ((found.map Entry.id).getD "") dest fetch
    ⟨s,(sent.or direct).toList⟩

def isUsableLANEndpoint (addr : Addr) : Bool := 0<addr.port&&addr.ip.isPrivateIP

def deliverLANResponse (p : PendingLAN) (phr : PunchHoleResponse) : List Sent :=
  let conn := if p.initiatorTransport=.tcp then s.forwardToInitiator p.initiatorAddr else none
  ((conn.or (s.sendUDP p.initiatorAddr)).map fun dest =>
    Sent.answer dest (.punchHoleResponse phr)).toList

/-- The target must still be the one that was asked, and no policy of the two may
ask for the relay. -/
def completeLANAddr (m : LocalAddr) (sender : Addr) : Turn :=
  match m.socketAddr, m.localAddr.filter isUsableLANEndpoint with
  | some initiatorAddr, some localAddr =>
    let key : PendingKey := (m.id,initiatorAddr)
    match s.pendingLANs.load key with
    | none => ⟨s,[]⟩
    | some p =>
      if m.id="" then ⟨s,[]⟩
      else if p.targetID≠m.id ∨ 30 < s.now-p.createdAt then
        ⟨{s with pendingLANs := s.pendingLANs.delete key},[]⟩
      else if !s.relayResponseSourceMatchesTarget m.id sender ||
        !s.targetAcceptsInboundSession m.id then ⟨s,[]⟩
      else match (s.peers.get m.id).filter fun e => !e.banned with
        | none => ⟨s,[]⟩
        | some target =>
          let (forced,s):=s.shouldForceRelayForPeers [p.initiatorID,m.id]
          if forced||s.cfg.connection.alwaysUseRelay ||
            (s.cfg.connection.sameNATRelay&&isSamePublicIP sender.ip initiatorAddr.ip) then ⟨s,[]⟩
          else
            let s:={s with pendingLANs := s.pendingLANs.delete key}
            let (pk,s):=s.signedTargetKey m.id (some target)
            ⟨s,s.deliverLANResponse p ⟨none,some localAddr,pk,p.relayServer,none⟩⟩
  | _, _ => ⟨s,[]⟩

def firePunchFallback (addr : Addr) : Turn := match s.pendingPunches.load addr with
  | none => ⟨s,[]⟩
  | some p =>
    let dest := if p.overUDP then s.sendUDP addr else s.forwardToInitiator addr
    ⟨{s with pendingPunches := s.pendingPunches.delete addr},
      (dest.map fun dest => Sent.answer dest (.punchHoleResponse p.fallback)).toList⟩

def fireLANFallback (key : PendingKey) : Turn := match s.pendingLANs.load key with
  | none => ⟨s,[]⟩
  | some p => ⟨{s with pendingLANs := s.pendingLANs.delete key},s.deliverLANResponse p p.fallback⟩

end Server

end BetterDesk.Signal
