import BetterDesk.Signal.BillingGate

/-! # Relay addresses that are handed out -/

namespace BetterDesk.Signal
open Db Text List Option

def Msg.relay : Msg → Option Bytes
  | .punchHole _ relay _ _ _ => some relay
  | .fetchLocalAddr _ relay => some relay
  | .requestRelay _ _ _ relay => some relay
  | .punchHoleResponse r => if r.failure=none then some r.relayServer else none
  | .relayResponse r => if r.refuseReason="" then some r.relayServer else none

def Sent.relay : Sent → Option Bytes
  | .request _ _ msg => msg.relay
  | .answer _ msg => msg.relay
  | .panic => none

def Sent.told : Sent → Option Bytes
  | .request _ _ msg => msg.relay
  | _ => none

structure Session where
  targetID : PeerID
  initiatorID : PeerID
  addr : Addr
  deriving DecidableEq

structure Told where
  initiatorID : PeerID
  relay : Bytes

structure Watched where
  system : System
  told : PendingKey → Option Told

namespace Server
variable (s : Server)

def allowedRelays (id : PeerID) : List Bytes := s.networkPolicy.allowedFor s.now id

def allowsBoth (i d : PeerID) (relay : Bytes) : Bool :=
  Policy.allows (s.allowedRelays i) relay&&Policy.allows (s.allowedRelays d) relay

def punchSession (transport : ConnType) (m : PunchHoleRequest) (raddr : Addr) : Option Session :=
  match s.admitRequest raddr m.token m.udpPort m.id with
  | (.ok (i,_),s) => some ⟨m.id,s.initiatorID i,relayAdvertisedAddr raddr transport⟩
  | (.error _,_) => none

def relaySession (transport : ConnType) (m : RequestRelay) (raddr : Addr) : Option Session :=
  match (s.relayUUID m.uuid).2.admitRequest raddr m.token 0 m.id with
  | (.ok (i,_),s) => some ⟨m.id,s.initiatorID i,
      if transport=.udp then raddr
      else relayAdvertisedAddr raddr (s.initiatorType (s.initiatorID i) transport)⟩
  | (.error _,_) => none

def responseSession (rr : RelayResponseIn) (sender : Addr) : Option Session := do
  let addr ← rr.socketAddr
  let x ← (s.takenFor rr sender).filter fun x => s.accepts x.uuid x.initiatorID x.targetID
  pure ⟨x.targetID,x.initiatorID,((s.pendingOf rr addr).map PendingUUID.advertisedAddr).getD addr⟩

def opens : Action → Option Session
  | .punchHoleRequest transport m raddr => (s.arrive transport raddr).punchSession transport m raddr
  | .requestRelay transport m raddr => (s.arrive transport raddr).relaySession transport m raddr
  | _ => none

end Server

namespace Watched
variable (w : Watched)

def retold (a : Action) : PendingKey → Option Told := match w.system.server.opens a with
  | none => w.told
  | some k => Function.update w.told (k.targetID,k.addr)
      (((w.system.server.handle a).sent.findSome? Sent.told).map fun relay => ⟨k.initiatorID,relay⟩)

def watch (a : Action) : Option Watched := (step w.system a).map fun sys => ⟨sys,w.retold a⟩

def punchedSession (s : Server) (phs : PunchHoleSent) (sender : Addr) : Option Session := do
  let addr ← phs.socketAddr
  let t ← w.told (s.punchSender phs sender,addr)
  pure ⟨s.punchSender phs sender,t.initiatorID,addr⟩

def session : Action → Option Session
  | .relayResponse .udp _ _ => none
  | .relayResponse transport rr sender =>
    (w.system.server.arrive transport sender).responseSession rr sender
  | .punchHoleSent transport phs sender =>
    w.punchedSession (w.system.server.arrive transport sender) phs sender
  | a => w.system.server.opens a

/-- All that a step hands out in a session is what the target has been told, and the
lists of both devices admit it. -/
def PolicyKept (a : Action) : Prop := ∀ k, w.session a=some k →
  ∀ x∈(w.system.server.handle a).sent, ∀ relay, x.relay=some relay →
    w.system.server.allowsBoth k.initiatorID k.targetID relay=true ∧
      ∀ t, w.retold a (k.targetID,k.addr)=some t → relay=t.relay

def agrees (s : Server) (k : Session) (relay : Bytes) : Bool :=
  s.allowsBoth k.initiatorID k.targetID relay &&
    (w.told (k.targetID,k.addr)).all fun t => relay=t.relay

def punchInOrder (s : Server) (m : PunchHoleRequest) (raddr : Addr) : Bool :=
  match s.admitRequest raddr m.token m.udpPort m.id with
  | (.error _,_) => true
  | (.ok (i,target),s') =>
    Policy.settles (s.allowedRelays (s'.initiatorID i)) (s.allowedRelays m.id)
      (s.selectPeerRelayServer s.getRelayServer raddr target.udpAddr).relay

/-- Over UDP the lists have to settle, otherwise the address as it is has to do. -/
def relayInOrder (s : Server) (transport : ConnType) (m : RequestRelay) (raddr : Addr) : Bool :=
  match (s.relayUUID m.uuid).2.admitRequest raddr m.token 0 m.id with
  | (.error _,_) => true
  | (.ok (i,target),s') =>
    let relay:=(s.selectPeerRelayServer (s.requestedRelay m) raddr target.udpAddr).relay
    !s'.accepts (s.relayUUID m.uuid).1 (s'.initiatorID i) m.id ||
      if transport=.udp then
        Policy.settles (s.allowedRelays (s'.initiatorID i)) (s.allowedRelays m.id) relay
      else s.allowsBoth (s'.initiatorID i) m.id relay

def responseInOrder (s : Server) (rr : RelayResponseIn) (sender : Addr) : Bool :=
  (s.responseSession rr sender).all fun k =>
    w.agrees s k (s.selectPeerRelayServer s.getRelayServer sender rr.socketAddr).relay

def punchedInOrder (s : Server) (phs : PunchHoleSent) (sender : Addr) : Bool :=
  (w.punchedSession s phs sender).all fun k => w.agrees s k (s.selectPeerRelayServer
    (if phs.relayServer=[] then s.getRelayServer else phs.relayServer) sender phs.socketAddr).relay

def inOrder : Action → Bool
  | .punchHoleRequest transport m raddr =>
    punchInOrder (w.system.server.arrive transport raddr) m raddr
  | .requestRelay transport m raddr =>
    relayInOrder (w.system.server.arrive transport raddr) transport m raddr
  | .relayResponse .udp _ _ => true
  | .relayResponse transport rr sender =>
    w.responseInOrder (w.system.server.arrive transport sender) rr sender
  | .punchHoleSent transport phs sender =>
    w.punchedInOrder (w.system.server.arrive transport sender) phs sender
  | _ => true

end Watched

structure Hands (sent : List Sent) (relay : Bytes) : Prop where
  eq : ∀ x∈sent, ∀ r, x.relay=some r → r=relay

namespace Hands
variable {l l' : List Sent} {relay : Bytes}

theorem append (h : Hands l relay) (h' : Hands l' relay) : Hands (l++l') relay := by
  refine ⟨fun x hx => ?_⟩
  rcases mem_append.mp hx with hx | hx
  · exact h.eq x hx
  · exact h'.eq x hx

theorem nil (relay : Bytes) : Hands [] relay := ⟨fun _ hx => absurd hx not_mem_nil⟩

theorem single {x : Sent} (h : ∀ r, x.relay=some r → r=relay) : Hands [x] relay := by
  refine ⟨fun y hy => ?_⟩
  rw [mem_singleton.mp hy]
  exact h

theorem optional {dest : Option Dest} {f : Dest → Sent} (h : ∀ dest, Hands [f dest] relay) :
    Hands (dest.map f).toList relay := by
  cases dest with
  | none => exact nil relay
  | some dest => exact h dest

theorem request (d : PeerID) (dest : Dest) {msg : Msg} (h : msg.relay=some relay) : Hands [.request d dest msg] relay :=
  single fun r hr => by
    have hr : msg.relay=some r := hr
    rw [h] at hr
    exact (Option.some.inj hr).symm

theorem relayResponse (dest : Dest) (r : RelayResponse) : Hands [.answer dest (.relayResponse r)] r.relayServer := by
  refine single fun x hx => ?_
  simp only [Sent.relay,Msg.relay] at hx
  split at hx
  · exact (Option.some.inj hx).symm
  · cases hx

theorem punchHoleResponse (dest : Dest) (r : PunchHoleResponse) :
    Hands [.answer dest (.punchHoleResponse r)] r.relayServer := by
  refine single fun x hx => ?_
  simp only [Sent.relay,Msg.relay] at hx
  split at hx
  · exact (Option.some.inj hx).symm
  · cases hx

theorem told (h : Hands l relay) {r : Bytes} (ht : l.findSome? Sent.told=some r) : r=relay := by
  obtain ⟨x,hx,hr⟩:=exists_of_findSome?_eq_some ht
  refine h.eq x hx r ?_
  cases x with
  | request d dest msg => exact hr
  | answer | panic => cases hr

theorem silent (h : ∀ relay, Hands l relay) : ∀ x∈l,x.relay=none := by
  intro x hx
  cases hr : x.relay with
  | none => rfl
  | some r =>
    have hne:=(h (0::r)).eq x hx r hr
    exact absurd (congrArg List.length hne) (by rw [length_cons]; omega)

end Hands

theorem ensurePunchHoleSocketAddr_relay {r : PunchHoleResponse} {relay : Bytes}
    (hr : r.relayServer=relay) : (ensurePunchHoleSocketAddr r relay).relayServer=relay := by
  unfold ensurePunchHoleSocketAddr
  split
  · exact hr
  · rfl

namespace Server

structure SameRelays (s s' : Server) : Prop where
  cfg : s'.cfg=s.cfg
  localIP : s'.localIP=s.localIP
  lanIP : s'.lanIP=s.lanIP
  lanNet : s'.lanNet=s.lanNet
  now : s'.now=s.now
  networkPolicy : s'.networkPolicy=s.networkPolicy

namespace SameRelays
variable {s s' s'' : Server}

theorem trans (h : SameRelays s s') (h' : SameRelays s' s'') : SameRelays s s'' :=
  ⟨h'.cfg.trans h.cfg,h'.localIP.trans h.localIP,h'.lanIP.trans h.lanIP,h'.lanNet.trans h.lanNet,
    h'.now.trans h.now,h'.networkPolicy.trans h.networkPolicy⟩

theorem getRelayServer (h : SameRelays s s') : s'.getRelayServer=s.getRelayServer := by
  unfold Server.getRelayServer
  rw [h.cfg,h.localIP,h.lanIP]

theorem select (h : SameRelays s s') (relay : Bytes) (a : Addr) (b : Option Addr) :
    s'.selectPeerRelayServer relay a b=s.selectPeerRelayServer relay a b := by
  unfold selectPeerRelayServer getLANRelayServer
  rw [h.getRelayServer,h.cfg,h.lanIP,h.lanNet]

theorem allowedRelays (h : SameRelays s s') (id : PeerID) : s'.allowedRelays id=s.allowedRelays id := by
  unfold Server.allowedRelays
  rw [h.now,h.networkPolicy]

theorem allowsBoth (h : SameRelays s s') (i d : PeerID) (relay : Bytes) :
    s'.allowsBoth i d relay=s.allowsBoth i d relay := by
  unfold Server.allowsBoth
  rw [h.allowedRelays,h.allowedRelays]

end SameRelays

theorem Keeps.sameRelays {s s' : Server} (k : Keeps s s') : SameRelays s s' :=
  ⟨k.cfg,(congrArg Server.localIP k.rest :),(congrArg Server.lanIP k.rest :),
    (congrArg Server.lanNet k.rest :),(congrArg Server.now k.rest :),
    (congrArg Server.networkPolicy k.rest :)⟩

theorem arrive_sameRelays (s : Server) (transport : ConnType) (addr : Addr) :
    SameRelays s (s.arrive transport addr) := by
  cases transport with
  | udp | ws => exact ⟨rfl,rfl,rfl,rfl,rfl,rfl⟩
  | tcp =>
    unfold arrive openTCP
    dsimp only
    split <;> exact ⟨rfl,rfl,rfl,rfl,rfl,rfl⟩

theorem relayUUID_sameRelays (s : Server) (uuid : Relay.UUID) : SameRelays s (s.relayUUID uuid).2 := by
  unfold relayUUID
  split <;> exact ⟨rfl,rfl,rfl,rfl,rfl,rfl⟩

theorem peerPublicKey_sameRelays (s : Server) (id : PeerID) (entry : Option Entry) :
    SameRelays s (s.peerPublicKey id entry).2 := by
  unfold peerPublicKey
  split
  · exact ⟨rfl,rfl,rfl,rfl,rfl,rfl⟩
  · split
    · exact ⟨rfl,rfl,rfl,rfl,rfl,rfl⟩
    · split
      · split <;> exact ⟨rfl,rfl,rfl,rfl,rfl,rfl⟩
      · exact ⟨rfl,rfl,rfl,rfl,rfl,rfl⟩

theorem authorizeRelayTicket_sameRelays (s : Server) (uuid : Relay.UUID) (i d : PeerID) :
    SameRelays s (s.authorizeRelayTicket uuid i d).2 := ⟨rfl,rfl,rfl,rfl,rfl,rfl⟩

theorem applyNetworkRelayPolicy_allows {s : Server} {i d : PeerID} {defaultRelay : Bytes}
    (h : Policy.settles (s.allowedRelays i) (s.allowedRelays d) defaultRelay=true) :
    s.allowsBoth i d (s.applyNetworkRelayPolicy defaultRelay [i,d]).1=true := by
  have hpick : (s.applyNetworkRelayPolicy defaultRelay [i,d]).1 =
      Policy.pick (if s.allowedRelays i≠[] then s.allowedRelays i else s.allowedRelays d)
        defaultRelay := Policy.resolveRelay_pair s.now s.networkPolicy defaultRelay i d
  obtain ⟨hi,hd⟩:=Policy.allows_pick h
  rw [hpick,allowsBoth,hi,hd,Bool.and_self]

variable {s s' : Server}

theorem relayRefused_hands (dest : Dest) {reason : String} (hne : reason≠"")
    (default relay : Bytes) : Hands [.answer dest (relayRefused reason default)] relay :=
  Hands.single fun r hr => by
    simp only [relayRefused,Sent.relay,Msg.relay,if_neg hne,reduceCtorEq] at hr

theorem punchRefused_hands (dest : Dest) (r : Refusal) (default relay : Bytes) :
    Hands [.answer dest (.punchHoleResponse (punchRefused r default))] relay :=
  Hands.single fun x hx => by
    cases r <;> simp only [punchRefused,Sent.relay,Msg.relay,reduceCtorEq,if_false] at hx

theorem sendRelayResponse_hands (s : Server) (m : PunchHoleRequest) (target : Entry) (raddr : Addr)
    (relay : Bytes) (i : PeerID) : Hands (s.sendRelayResponse m target raddr relay i).sent relay := by
  unfold sendRelayResponse
  dsimp only
  split
  · exact relayRefused_hands _ (by decide) relay relay
  · split
    · exact Hands.relayResponse _ ⟨"",none,_,relay,_⟩
    · exact (Hands.relayResponse _ ⟨"",none,_,relay,_⟩).append
        (Hands.optional fun dest => Hands.request _ dest rfl)

theorem lanFallbackResponse_relay (s : Server) (d : PeerID) (target : Entry) (relay : Bytes) :
    (s.lanFallbackResponse d target relay).1.relayServer=relay :=
  ensurePunchHoleSocketAddr_relay rfl

theorem lanExchange_hands (s : Server) (d : PeerID) (target : Entry) (i : PeerID) (raddr : Addr)
    (transport : ConnType) (relay : Bytes) (answerTo : Dest) :
    Hands (s.lanExchange d target i raddr transport relay answerTo).sent relay := by
  have hf:=Hands.punchHoleResponse answerTo (s.lanFallbackResponse d target relay).1
  rw [lanFallbackResponse_relay] at hf
  unfold lanExchange
  dsimp only
  split
  · exact Hands.request _ _ rfl
  · exact hf

theorem answerPunch_hands (s : Server) (m : PunchHoleRequest) (target : Entry) (route : Route)
    (raddr : Addr) (overUDP : Bool) : Hands (s.answerPunch m target route raddr overUDP).1 route.relayServer := by
  have hr (pk : Option SignedPk) : (punchResponse target route pk).relayServer=route.relayServer :=
    ensurePunchHoleSocketAddr_relay rfl
  unfold answerPunch
  dsimp only
  split
  · exact Hands.nil _
  · have hp := fun dest pk => Hands.punchHoleResponse dest (punchResponse target route pk)
    simp only [hr] at hp
    exact hp _ _

variable {raddr : Addr} {target : Entry} {m : PunchHoleRequest} {i : Initiator}

theorem routePunch_allows {i : PeerID} (h : Policy.settles (s.allowedRelays i) (s.allowedRelays m.id)
      (s.selectPeerRelayServer s.getRelayServer raddr target.udpAddr).relay=true) :
    s.allowsBoth i m.id (s.routePunch m target raddr i).1.relayServer=true :=
  applyNetworkRelayPolicy_allows h

theorem handlePunchHoleRequest_hands (h : s.AdmitsRequest raddr m.token m.udpPort m.id i target s') :
    Hands (s.handlePunchHoleRequest m raddr).sent
      (s'.routePunch m target raddr (s'.initiatorID i)).1.relayServer := by
  unfold handlePunchHoleRequest
  rw [h]
  dsimp only
  split
  · exact Hands.nil _
  · split
    · exact punchRefused_hands _ _ _ _
    · split
      · exact sendRelayResponse_hands ..
      · split
        · exact lanExchange_hands ..
        · exact (Hands.optional fun dest => Hands.request _ dest rfl).append (answerPunch_hands ..)

theorem handlePunchHoleRequestTCP_hands (h : s.AdmitsRequest raddr m.token m.udpPort m.id i target s')
    (hint : ConnType) : Hands (s.handlePunchHoleRequestTCP m raddr hint).sent
      (s'.routePunch m target raddr (s'.initiatorID i)).1.relayServer := by
  unfold handlePunchHoleRequestTCP
  rw [h]
  dsimp only
  split
  · exact Hands.nil _
  · split
    · have hf := fun s dest => Hands.punchHoleResponse dest (lanFallbackResponse s m.id target
        (s'.routePunch m target raddr (s'.initiatorID i)).1.relayServer).1
      simp only [lanFallbackResponse_relay] at hf
      exact hf _ _
    · split
      · exact lanExchange_hands ..
      · exact (Hands.optional fun dest => Hands.request _ dest rfl).append (answerPunch_hands ..)

theorem answerRelay_hands (s : Server) (target : Entry) (uuid : Relay.UUID) (relay : Bytes)
    (dest : Dest) : Hands (s.answerRelay target uuid relay dest).1 relay := by
  unfold answerRelay
  dsimp only
  split
  · exact Hands.single fun r hr => by cases hr
  · exact Hands.relayResponse _ ⟨"",_,_,relay,_⟩

theorem relayUUID_requested (s : Server) (uuid : Relay.UUID) (m : RequestRelay) :
    (s.relayUUID uuid).2.requestedRelay m=s.requestedRelay m := by
  unfold requestedRelay
  rw [(relayUUID_sameRelays s uuid).getRelayServer]

theorem handleRequestRelayTCP_hands {m : RequestRelay}
    (h : (s.relayUUID m.uuid).2.AdmitsRequest raddr m.token 0 m.id i target s')
    (hint : ConnType) : Hands (s.handleRequestRelayTCP m raddr hint).sent
      (s.selectPeerRelayServer (s.requestedRelay m) raddr target.udpAddr).relay := by
  have hk:=(admitRequest_keeps (s.relayUUID m.uuid).2 raddr m.token 0 m.id).sameRelays
  rw [h] at hk
  have hsame:=(relayUUID_sameRelays s m.uuid).trans hk
  have ha:=authorizeRelayTicket_sameRelays s' (s.relayUUID m.uuid).1 (s'.initiatorID i) m.id
  unfold handleRequestRelayTCP
  dsimp only
  rw [h,relayUUID_requested]
  dsimp only
  split
  · exact relayRefused_hands _ (by decide) _ _
  · rename_i s₂ hq
    rw [hq] at ha
    rw [(hsame.trans ha).select]
    exact (Hands.optional fun dest => Hands.request _ dest rfl).append (answerRelay_hands ..)

theorem prepareBilling_sameRelays (s : Server) (uuid : Relay.UUID) (d i : PeerID) :
    SameRelays s (s.prepareBilling uuid d i).2 := by
  unfold prepareBilling
  split
  · exact ⟨rfl,rfl,rfl,rfl,rfl,rfl⟩
  · split <;> exact ⟨rfl,rfl,rfl,rfl,rfl,rfl⟩

theorem prepareBilling_reason {uuid : Relay.UUID} {d i : PeerID} {reason : String}
    (h : s.prepareBilling uuid d i=(.error reason,s')) : reason≠"" := by
  unfold prepareBilling at h
  split at h
  · cases h
  · split at h
    · cases h
      decide
    · simp only [Prod.mk.injEq] at h
      obtain ⟨hr,-⟩:=h
      split at hr
      · cases hr
      · cases hr
        decide

theorem handleRequestRelay_hands {m : RequestRelay}
    (h : (s.relayUUID m.uuid).2.AdmitsRequest raddr m.token 0 m.id i target s') :
    ∃ s₁, SameRelays s s₁ ∧ Hands (s.handleRequestRelay m raddr).sent
      (s₁.applyNetworkRelayPolicy (s.selectPeerRelayServer (s.requestedRelay m) raddr
        target.udpAddr).relay [s'.initiatorID i,m.id]).1 := by
  have hk:=(admitRequest_keeps (s.relayUUID m.uuid).2 raddr m.token 0 m.id).sameRelays
  rw [h] at hk
  have hsame:=(relayUUID_sameRelays s m.uuid).trans hk
  have hb:=prepareBilling_sameRelays s' (s.relayUUID m.uuid).1 m.id (s'.initiatorID i)
  unfold handleRequestRelay
  dsimp only
  rw [h,relayUUID_requested]
  dsimp only
  split
  · rename_i reason s₁ hp
    exact ⟨s',hsame,relayRefused_hands _ (prepareBilling_reason hp) _ _⟩
  · rename_i s₁ hp
    rw [hp] at hb
    have ha:=authorizeRelayTicket_sameRelays s₁ (s.relayUUID m.uuid).1 (s'.initiatorID i) m.id
    split
    · exact ⟨s',hsame,relayRefused_hands _ (by decide) _ _⟩
    · rename_i s₂ hq
      rw [hq] at ha
      have hall:=(hsame.trans hb).trans ha
      refine ⟨s₂,hall,?_⟩
      rw [hall.select]
      exact (Hands.optional fun dest => Hands.request _ dest rfl).append (answerRelay_hands ..)

theorem recoverUUID_sameRelays (s : Server) (rr : RelayResponseIn) (p : Option PendingUUID)
    (d : PeerID) (addr : Addr) : SameRelays s (s.recoverUUID rr p d addr).2 := by
  rcases recoverUUID_same (s := s) rr p d addr with h | h
  · rw [h]
    exact ⟨rfl,rfl,rfl,rfl,rfl,rfl⟩
  · rw [h]
    exact ⟨rfl,rfl,rfl,rfl,rfl,rfl⟩

theorem handleRelayResponseForward_hands (s : Server) (rr : RelayResponseIn) (sender : Addr) :
    Hands (s.handleRelayResponseForward rr sender).sent
      (s.selectPeerRelayServer s.getRelayServer sender rr.socketAddr).relay := by
  unfold handleRelayResponseForward
  split
  · exact Hands.nil _
  · rename_i addr haddr
    rw [haddr]
    split
    · exact Hands.nil _
    · dsimp only
      have hr:=recoverUUID_sameRelays s rr (s.pendingOf rr addr)
        (s.resolveTarget rr (s.pendingOf rr addr) sender) addr
      split
      · exact Hands.single fun r hr => by cases hr
      · rename_i uuid s₁ heq
        rw [heq] at hr
        split
        · exact Hands.nil _
        · have ha:=authorizeRelayTicket_sameRelays s₁ uuid
            (s₁.resolveInitiator (s.pendingOf rr addr) addr)
            (s.resolveTarget rr (s.pendingOf rr addr) sender)
          split
          · exact Hands.nil _
          · rename_i s₂ hq
            rw [hq] at ha
            have hk:=peerPublicKey_sameRelays s₂ (s.resolveTarget rr (s.pendingOf rr addr) sender)
              (s₂.peers.get (s.resolveTarget rr (s.pendingOf rr addr) sender))
            have hall:=(hr.trans ha).trans hk
            rw [← hall.select,← hall.getRelayServer]
            exact Hands.optional fun dest => Hands.relayResponse dest ⟨"",_,_,_,_⟩

theorem handlePunchHoleSent_hands (s : Server) (phs : PunchHoleSent) (sender : Addr)
    (viaUDP : Bool) : Hands (s.handlePunchHoleSent phs sender viaUDP).sent
      (s.selectPeerRelayServer (if phs.relayServer=[] then s.getRelayServer else phs.relayServer)
        sender phs.socketAddr).relay := by
  unfold handlePunchHoleSent
  split
  · exact Hands.nil _
  · rename_i addr haddr
    have hk:=peerPublicKey_sameRelays s (s.punchSender phs sender)
      (s.peers.get (s.punchSender phs sender))
    rw [haddr,← hk.select,← hk.getRelayServer]
    exact Hands.optional fun dest => Hands.punchHoleResponse dest ⟨none,_,_,_,_⟩

theorem punchSession_some {transport : ConnType} {k : Session} (h : s.punchSession transport m raddr=some k) :
    ∃ i target s', s.AdmitsRequest raddr m.token m.udpPort m.id i target s' ∧
      k.initiatorID=s'.initiatorID i ∧ k.targetID=m.id := by
  unfold punchSession at h
  split at h
  · rename_i i target s' heq
    cases h
    exact ⟨i,target,s',heq,rfl,rfl⟩
  · cases h

theorem relaySession_some {transport : ConnType} {m : RequestRelay} {k : Session}
    (h : s.relaySession transport m raddr=some k) :
    ∃ i target s', (s.relayUUID m.uuid).2.AdmitsRequest raddr m.token 0 m.id i target s' ∧
      k.initiatorID=s'.initiatorID i ∧ k.targetID=m.id := by
  unfold relaySession at h
  split at h
  · rename_i i target s' heq
    cases h
    exact ⟨i,target,s',heq,rfl,rfl⟩
  · cases h

theorem prepareBilling_accepts (s : Server) (uuid : Relay.UUID) (d i : PeerID) (uuid' : Relay.UUID) (i' d' : PeerID) :
    (s.prepareBilling uuid d i).2.accepts uuid' i' d'=s.accepts uuid' i' d' := by
  unfold prepareBilling
  split
  · rfl
  · split <;> rfl

theorem requestRelay_rejected {m : RequestRelay}
    (h : (s.relayUUID m.uuid).2.AdmitsRequest raddr m.token 0 m.id i target s')
    (hrej : s'.accepts (s.relayUUID m.uuid).1 (s'.initiatorID i) m.id=false) (relay : Bytes) :
    Hands (s.handleRequestRelay m raddr).sent relay ∧
      ∀ hint, Hands (s.handleRequestRelayTCP m raddr hint).sent relay := by
  constructor
  · have hb:=prepareBilling_accepts s' (s.relayUUID m.uuid).1 m.id (s'.initiatorID i)
      (s.relayUUID m.uuid).1 (s'.initiatorID i) m.id
    unfold handleRequestRelay
    dsimp only
    rw [h]
    dsimp only
    split
    · rename_i reason s₁ hp
      exact relayRefused_hands _ (prepareBilling_reason hp) _ _
    · rename_i s₁ hp
      rw [hp,hrej] at hb
      split
      · exact relayRefused_hands _ (by decide) _ _
      · rename_i s₂ hq
        rw [(authorizeRelayTicket_accepted hq).1] at hb
        cases hb
  · intro hint
    unfold handleRequestRelayTCP
    dsimp only
    rw [h]
    dsimp only
    split
    · exact relayRefused_hands _ (by decide) _ _
    · rename_i s₂ hq
      rw [(authorizeRelayTicket_accepted hq).1] at hrej
      cases hrej

end Server

namespace Watched
variable {w : Watched} {a : Action}

theorem policyKept_opens (hs : w.session a=w.system.server.opens a)
    (h : ∀ k, w.system.server.opens a=some k → ∃ relay, Hands (w.system.server.handle a).sent relay ∧
      w.system.server.allowsBoth k.initiatorID k.targetID relay=true) : w.PolicyKept a := by
  intro k hk x hx r hr
  rw [hs] at hk
  obtain ⟨relay,hhands,hallows⟩:=h k hk
  obtain rfl:=hhands.eq x hx r hr
  refine ⟨hallows,fun t ht => ?_⟩
  unfold retold at ht
  rw [hk] at ht
  dsimp only at ht
  rw [Function.update_self] at ht
  obtain ⟨told,htold,rfl⟩:=map_eq_some_iff.mp ht
  exact (hhands.told htold).symm

theorem policyKept_answers (ho : w.system.server.opens a=none) {relay : Bytes}
    (hhands : Hands (w.system.server.handle a).sent relay) (h : ∀ k, w.session a=some k →
      w.system.server.allowsBoth k.initiatorID k.targetID relay=true ∧
        ∀ t, w.told (k.targetID,k.addr)=some t → relay=t.relay) : w.PolicyKept a := by
  intro k hk x hx r hr
  obtain rfl:=hhands.eq x hx r hr
  refine ⟨(h k hk).1,fun t ht => (h k hk).2 t ?_⟩
  unfold retold at ht
  rw [ho] at ht
  exact ht

variable {k : Session} {s : Server}

theorem agrees_iff {relay : Bytes} : w.agrees s k relay=true ↔
    s.allowsBoth k.initiatorID k.targetID relay=true ∧
      ∀ t, w.told (k.targetID,k.addr)=some t → relay=t.relay := by
  unfold agrees
  rw [Bool.and_eq_true,Option.all_eq_true]
  simp

theorem punchInOrder_allows {transport : ConnType} {m : PunchHoleRequest} {raddr : Addr}
    (hok : punchInOrder s m raddr=true) (hk : s.punchSession transport m raddr=some k) :
    ∃ relay, s.allowsBoth k.initiatorID k.targetID relay=true ∧
      Hands (s.handlePunchHoleRequest m raddr).sent relay ∧
      ∀ hint, Hands (s.handlePunchHoleRequestTCP m raddr hint).sent relay := by
  obtain ⟨i,target,s',hadm,hi,hd⟩:=Server.punchSession_some hk
  have hsame:=(Server.admitRequest_keeps s raddr m.token m.udpPort m.id).sameRelays
  have hadm' : s.admitRequest raddr m.token m.udpPort m.id=(.ok (i,target),s') := hadm
  unfold punchInOrder at hok
  rw [hadm'] at hsame hok
  refine ⟨_,?_,Server.handlePunchHoleRequest_hands hadm,
    fun hint => Server.handlePunchHoleRequestTCP_hands hadm hint⟩
  rw [hi,hd,← hsame.allowsBoth]
  refine Server.routePunch_allows ?_
  rw [hsame.allowedRelays,hsame.allowedRelays,hsame.select,hsame.getRelayServer]
  exact hok

theorem relayInOrder_allows {transport : ConnType} {m : RequestRelay} {raddr : Addr}
    (hok : relayInOrder s transport m raddr=true) (hk : s.relaySession transport m raddr=some k) :
    (∀ relay, Hands (s.handleRequestRelay m raddr).sent relay ∧
      ∀ hint, Hands (s.handleRequestRelayTCP m raddr hint).sent relay) ∨
    ∃ relay, s.allowsBoth k.initiatorID k.targetID relay=true ∧
      (transport=.udp → Hands (s.handleRequestRelay m raddr).sent relay) ∧
      (transport ≠ .udp → ∀ hint, Hands (s.handleRequestRelayTCP m raddr hint).sent relay) := by
  obtain ⟨i,target,s',hadm,hi,hd⟩:=Server.relaySession_some hk
  have hadm' : (s.relayUUID m.uuid).2.admitRequest raddr m.token 0 m.id=(.ok (i,target),s') := hadm
  unfold relayInOrder at hok
  rw [hadm'] at hok
  dsimp only at hok
  rw [hi,hd]
  cases hacc : s'.accepts (s.relayUUID m.uuid).1 (s'.initiatorID i) m.id with
  | false => exact .inl fun relay => Server.requestRelay_rejected hadm hacc relay
  | true =>
    rw [hacc,Bool.not_true,Bool.false_or] at hok
    by_cases ht : transport=.udp
    · rw [if_pos ht] at hok
      obtain ⟨s₁,hsame,hhands⟩:=Server.handleRequestRelay_hands hadm
      refine .inr ⟨_,?_,fun _ => hhands,fun hne => absurd ht hne⟩
      rw [← hsame.allowsBoth]
      refine Server.applyNetworkRelayPolicy_allows ?_
      rw [hsame.allowedRelays,hsame.allowedRelays]
      exact hok
    · rw [if_neg ht] at hok
      exact .inr ⟨_,hok,fun h => absurd h ht,fun _ hint => Server.handleRequestRelayTCP_hands hadm hint⟩

theorem policyKept_silent (h : ∀ x∈(w.system.server.handle a).sent, x.relay=none) : w.PolicyKept a := by
  intro k _ x hx r hr
  rw [h x hx] at hr
  cases hr

theorem policyKept_request (hs : w.session a=w.system.server.opens a) (h : ∀ k, w.system.server.opens a=some k →
      (∀ relay, Hands (w.system.server.handle a).sent relay) ∨
      ∃ relay, w.system.server.allowsBoth k.initiatorID k.targetID relay=true ∧
        Hands (w.system.server.handle a).sent relay) : w.PolicyKept a := by
  cases hk : w.system.server.opens a with
  | none =>
    intro k hk'
    rw [hs,hk] at hk'
    cases hk'
  | some k =>
    rcases h k hk with hsilent | ⟨relay,hallows,hhands⟩
    · exact policyKept_silent (Hands.silent hsilent)
    · refine policyKept_opens hs fun k' hk' => ?_
      rw [hk] at hk'
      cases hk'
      exact ⟨relay,hhands,hallows⟩

theorem inOrder_kept (w : Watched) (a : Action) (hok : w.inOrder a=true) : w.PolicyKept a := by
  cases a with
  | punchHoleRequest transport m raddr =>
    have hsame:=Server.arrive_sameRelays w.system.server transport raddr
    refine policyKept_request rfl fun k hk => .inr ?_
    obtain ⟨relay,hallows,hudp,htcp⟩:=punchInOrder_allows hok hk
    refine ⟨relay,hsame.allowsBoth .. ▸ hallows,?_⟩
    cases transport with
    | udp => exact hudp
    | tcp => exact htcp .tcp
    | ws => exact htcp .ws
  | requestRelay transport m raddr =>
    have hsame:=Server.arrive_sameRelays w.system.server transport raddr
    refine policyKept_request rfl fun k hk => ?_
    rcases relayInOrder_allows hok hk with hsilent | ⟨relay,hallows,hudp,htcp⟩
    · refine .inl fun relay => ?_
      cases transport with
      | udp => exact (hsilent relay).1
      | tcp => exact (hsilent relay).2 .tcp
      | ws => exact (hsilent relay).2 .ws
    · refine .inr ⟨relay,hsame.allowsBoth .. ▸ hallows,?_⟩
      cases transport with
      | udp => exact hudp rfl
      | tcp => exact htcp (by decide) .tcp
      | ws => exact htcp (by decide) .ws
  | relayResponse transport rr sender =>
    have hsame:=Server.arrive_sameRelays w.system.server transport sender
    have hagrees {k : Session}
        (hk : (w.system.server.arrive transport sender).responseSession rr sender=some k)
        (hr : w.responseInOrder (w.system.server.arrive transport sender) rr sender=true) :=
      agrees_iff.mp ((all_eq_true _ _).mp hr k hk)
    simp only [hsame.allowsBoth] at hagrees
    cases transport with
    | udp => exact fun k hk => nomatch hk
    | tcp | ws =>
      exact policyKept_answers rfl (Server.handleRelayResponseForward_hands ..) fun k hk =>
        hagrees hk hok
  | punchHoleSent transport phs sender =>
    have hsame:=Server.arrive_sameRelays w.system.server transport sender
    refine policyKept_answers rfl (Server.handlePunchHoleSent_hands ..) fun k hk => ?_
    have hagrees:=agrees_iff.mp ((all_eq_true _ _).mp hok k hk)
    rw [hsame.allowsBoth] at hagrees
    exact hagrees
  | registerPk | fetchLocalAddr | localAddr | punchFallback | lanFallback | outside => exact fun k hk => nomatch hk

end Watched

/-- Both devices are in an organization that allows one relay, the configured one. -/
def restricted : Watched where
  system := { twoDevices with server := {twoDevices.server with
    cfg := {twoDevices.server.cfg with relayServers := [lit "relay.example.com:21117"]}
    networkPolicy := ⟨⟨fun _ => .ok "org1",fun _ => .ok ⟨false,[lit "relay.example.com:21117"]⟩⟩,
      fun _ => none,fun _ => none⟩}}
  told _ := none

def relayFor (transport : ConnType) (relay : Bytes) : Action :=
  .requestRelay transport ⟨"device-8","a0f8f3c1",relay,[]⟩ homeAddr

end BetterDesk.Signal
