import BetterDesk.Signal.Tickets

/-! # The billing gate on the paths of a session -/

namespace BetterDesk.Billing.Service
open Db Bool

def billable (b : Service) (deviceID : PeerID) : Bool :=
  (b.checkConnection deviceID).allowed&&(b.checkConnection deviceID).hasBilling

theorem prepareRelay_entry (b : Service) (now : ℕ) {uuid : String} {deviceID : PeerID}
    (operatorID : PeerID) (hu : uuid≠"") (hb : b.billable deviceID=true) :
    ((b.prepareRelay now uuid deviceID operatorID).2.pending uuid).isSome := by
  obtain ⟨ha,hh⟩:=and_eq_true_iff.mp hb
  simp only [prepareRelay,if_neg hu,ha,hh,true_eq_false,if_false,Function.update_self,
    Option.isSome_some]

end BetterDesk.Billing.Service

namespace BetterDesk.Signal
open Db Text

inductive SessionMessage
  | punchHoleRequest (transport : ConnType) (m : PunchHoleRequest) (raddr : Addr)
  | requestRelay (transport : ConnType) (m : RequestRelay) (raddr : Addr)
  | relayResponse (transport : ConnType) (rr : RelayResponseIn) (sender : Addr)

def SessionMessage.action : SessionMessage → Action
  | punchHoleRequest transport m raddr => .punchHoleRequest transport m raddr
  | requestRelay transport m raddr => .requestRelay transport m raddr
  | relayResponse transport rr sender => .relayResponse transport rr sender

def Sent.target : Sent → Option PeerID
  | .request d _ _ => some d
  | _ => none

namespace Turn
variable (turn : Turn) (s : Server)

/-- The calls of `AuthorizeRelayPair` that were accepted in the turn. -/
def authorized : List Relay.Issue :=
  turn.server.authorizations.take (turn.server.authorizations.length-s.authorizations.length)

def requested : List PeerID := turn.sent.filterMap Sent.target

/-- A denied target gets neither a ticket nor a request; each ticket for a billable
one has been prepared. -/
structure BillingGated (b : Billing.Service) : Prop where
  denied : ∀ d, (b.checkConnection d).allowed=false →
    (∀ x∈turn.authorized s, x.targetID≠d) ∧ d∉turn.requested
  prepared : ∀ d, b.billable d=true → ∀ x∈turn.authorized s, x.targetID=d →
    ∃ b', turn.server.billing=some b' ∧ (b'.pending x.uuid).isSome

end Turn

structure Does (s : Server) (turn : Turn) (l : List Relay.Issue) (ds : List PeerID) : Prop where
  authorizations : turn.server.authorizations=l++s.authorizations
  requested : turn.requested=ds

namespace Does
variable {s s' : Server} {turn : Turn} {l : List Relay.Issue} {ds : List PeerID}

theorem authorized (h : Does s turn l ds) : turn.authorized s=l := by
  unfold Turn.authorized
  rw [h.authorizations,List.length_append,Nat.add_sub_cancel,List.take_left]

theorem of_same (h : Does s turn l ds) (hs : s.authorizations=s'.authorizations) :
    Does s' turn l ds := ⟨h.authorizations.trans (hs ▸ rfl),h.requested⟩

variable {b : Billing.Service}

theorem gated_nil (h : Does s turn [] []) : turn.BillingGated s b := by
  constructor
  · intro d _
    rw [h.authorized,h.requested]
    exact ⟨fun _ hx => absurd hx List.not_mem_nil,List.not_mem_nil⟩
  · intro d _ x hx
    rw [h.authorized] at hx
    exact nomatch hx

theorem gated_requests (h : Does s turn [] ds) {d : PeerID} (hds : ∀ d'∈ds,d'=d) :
    turn.BillingGated s b ↔ ((b.checkConnection d).allowed=false → d∉ds) := by
  constructor
  · intro hg hd
    have hr:=(hg.denied d hd).2
    rwa [h.requested] at hr
  · intro hc
    constructor
    · intro d' hd'
      rw [h.authorized,h.requested]
      refine ⟨fun _ hx => absurd hx List.not_mem_nil,fun hm => ?_⟩
      rw [hds d' hm] at hd' hm
      exact hc hd' hm
    · intro d' _ x hx
      rw [h.authorized] at hx
      exact nomatch hx

theorem gated_ticket {x : Relay.Issue} (h : Does s turn [x] ds) (hds : ∀ d∈ds,d=x.targetID) :
    turn.BillingGated s b ↔ (b.checkConnection x.targetID).allowed=true ∧ (b.billable x.targetID=true →
        ∃ b', turn.server.billing=some b' ∧ (b'.pending x.uuid).isSome) := by
  have hx : x∈turn.authorized s := h.authorized ▸ List.mem_singleton_self x
  constructor
  · intro hg
    refine ⟨?_,fun hb => hg.prepared _ hb x hx rfl⟩
    by_contra hd
    exact (hg.denied x.targetID (Bool.eq_false_iff.mpr hd)).1 x hx rfl
  · rintro ⟨ha,hp⟩
    constructor
    · intro d hd
      rw [h.authorized,h.requested]
      have hne : x.targetID≠d := by
        rintro rfl
        rw [ha] at hd
        cases hd
      refine ⟨fun y hy => ?_,fun hm => hne (hds d hm).symm⟩
      rw [List.mem_singleton.mp hy]
      exact hne
    · intro d hb y hy hyd
      rw [h.authorized,List.mem_singleton] at hy
      subst hy
      subst hyd
      exact hp hb

end Does

namespace Server
variable {s : Server}

def AdmitsRequest (s : Server) (raddr : Addr) (token : Bytes) (port : ℤ) (d : PeerID) (i : Initiator)
    (target : Entry) (s' : Server) : Prop := s.admitRequest raddr token port d=(.ok (i,target),s')

def accepts (s : Server) (uuid : Relay.UUID) (i d : PeerID) : Bool :=
  (s.registry.authorize s.now uuid i d).1

variable {s' : Server} {b : Billing.Service} {d i : PeerID} {uuid : Relay.UUID}

theorem authorize_ne {r : Relay.Registry} {now : ℕ} (h : (r.authorize now uuid i d).1=true) : uuid≠"" := by
  rintro rfl
  simp only [Relay.Registry.authorize,true_or,if_true,Bool.false_eq_true] at h

/-- The accepted calls and the billing state are left alone, and who can be reached. -/
structure Quiet (s s' : Server) : Prop where
  authorizations : s'.authorizations=s.authorizations
  billing : s'.billing=s.billing
  reach : ∀ id, s'.sendToPeer id=s.sendToPeer id

theorem Quiet.refl (s : Server) : Quiet s s := ⟨rfl,rfl,fun _ => rfl⟩

theorem Quiet.trans {a b c : Server} (hab : Quiet a b) (hbc : Quiet b c) : Quiet a c :=
  ⟨hbc.authorizations.trans hab.authorizations,hbc.billing.trans hab.billing,
    fun id => (hbc.reach id).trans (hab.reach id)⟩

theorem Keeps.authorizations {s : Server} (k : Keeps s s') :
    s'.authorizations=s.authorizations := (congrArg Server.authorizations k.rest :)

theorem Keeps.billing {s : Server} (k : Keeps s s') : s'.billing=s.billing :=
  (congrArg Server.billing k.rest :)

theorem admitRequest_keeps (s : Server) (raddr : Addr) (token : Bytes) (port : ℤ) (d : PeerID) :
    Keeps s (s.admitRequest raddr token port d).2 := by
  have hreq:=requireAuthorizedInitiator_keeps s raddr token port
  unfold admitRequest
  split
  · rename_i s' heq
    rw [heq] at hreq
    exact hreq
  · rename_i i s' heq
    rw [heq] at hreq
    split
    · exact hreq
    · split <;> exact hreq

theorem get_setPKIfEmpty (ps : PeerMap) (id id' : PeerID) (pk : Bytes) :
    (ps.setPKIfEmpty id pk).get id'=(ps.get id').map fun e =>
      if e.id=id ∧ e.pk=[] then {e with pk := pk} else e := by
  unfold PeerMap.setPKIfEmpty PeerMap.get
  rw [List.find?_map]
  congr 2
  funext e
  simp only [Function.comp_apply]
  split <;> rfl

theorem peerPublicKey_quiet (s : Server) (id : PeerID) (entry : Option Entry) :
    Quiet s (s.peerPublicKey id entry).2 := by
  unfold peerPublicKey
  split
  · exact Quiet.refl s
  · split
    · exact Quiet.refl s
    · split
      · split
        · exact Quiet.refl s
        · refine ⟨rfl,rfl,fun id' => ?_⟩
          unfold sendToPeer tcpPunchConnForPeer
          rw [get_setPKIfEmpty]
          cases s.peers.get id' with
          | none => rfl
          | some e =>
            simp only [Option.map_some,Option.bind_eq_bind,Option.bind_some]
            split <;> rfl
      · exact Quiet.refl s

theorem signedTargetKey_quiet (s : Server) (id : PeerID) (entry : Option Entry) :
    Quiet s (s.signedTargetKey id entry).2 := peerPublicKey_quiet s id entry

theorem storePendingRelay_quiet (s : Server) (d : PeerID) (corr adv : Addr) (uuid : Relay.UUID)
    (i : PeerID) : Quiet s (s.storePendingRelay d corr adv uuid i) := by
  unfold storePendingRelay
  split
  · exact Quiet.refl s
  · exact ⟨rfl,rfl,fun _ => rfl⟩

theorem storePendingUUID_quiet (s : Server) (d : PeerID) (addr : Addr) (uuid : Relay.UUID)
    (i : PeerID) : Quiet s (s.storePendingUUID d addr uuid i) :=
  storePendingRelay_quiet s d addr addr uuid i

theorem routePunch_quiet (s : Server) (m : PunchHoleRequest) (target : Entry) (raddr : Addr)
    (i : PeerID) : Quiet s (s.routePunch m target raddr i).2 := by
  have hstore:=storePendingRelay_quiet
    (s.applyNetworkRelayPolicy (s.selectPeerRelayServer s.getRelayServer raddr target.udpAddr).relay
      [i,m.id]).2 m.id raddr raddr "" i
  have hpolicy : Quiet s (s.applyNetworkRelayPolicy
      (s.selectPeerRelayServer s.getRelayServer raddr target.udpAddr).relay [i,m.id]).2 :=
    ⟨rfl,rfl,fun _ => rfl⟩
  unfold routePunch
  dsimp only
  unfold forcesRelay storePendingUUID
  split
  · exact hpolicy.trans hstore
  · exact (hpolicy.trans hstore).trans ⟨rfl,rfl,fun _ => rfl⟩

theorem authorizeRelayTicket_accepted {s : Server}
    (h : s.authorizeRelayTicket uuid i d=(true,s')) : s.accepts uuid i d=true ∧
      s'.authorizations=⟨uuid,i,d⟩::s.authorizations ∧ s'.billing=s.billing := by
  unfold authorizeRelayTicket at h
  simp only [Prod.mk.injEq] at h
  obtain ⟨ha,rfl⟩:=h
  exact ⟨ha,if_pos ha,rfl⟩

theorem authorizeRelayTicket_rejected {s : Server} (h : s.authorizeRelayTicket uuid i d=(false,s')) :
    s.accepts uuid i d=false ∧ s'.authorizations=s.authorizations := by
  unfold authorizeRelayTicket at h
  simp only [Prod.mk.injEq] at h
  obtain ⟨ha,rfl⟩:=h
  exact ⟨ha,if_neg (by rw [ha]; decide)⟩

theorem arrive_authorizations (s : Server) (transport : ConnType) (addr : Addr) :
    (s.arrive transport addr).authorizations=s.authorizations ∧
      (s.arrive transport addr).billing=s.billing := by
  cases transport with
  | udp | ws => exact ⟨rfl,rfl⟩
  | tcp =>
    unfold arrive openTCP
    dsimp only
    split <;> exact ⟨rfl,rfl⟩

theorem does_answer {s : Server} (h : s'.authorizations=s.authorizations) (dest : Dest)
    (msg : Msg) : Does s ⟨s',[.answer dest msg]⟩ [] [] := ⟨h,rfl⟩

theorem does_forward {s : Server} {l : List Relay.Issue}
    (h : s'.authorizations=l++s.authorizations) (dest : Option Dest) (msg : Msg) :
    Does s ⟨s',(dest.map fun dest => Sent.answer dest msg).toList⟩ l [] := by
  refine ⟨h,?_⟩
  cases dest <;> rfl

theorem answerRelay_quiet (s : Server) (target : Entry) (uuid : Relay.UUID) (relay : Bytes)
    (dest : Dest) : Quiet s (s.answerRelay target uuid relay dest).2 ∧
      (s.answerRelay target uuid relay dest).1.filterMap Sent.target=[] := by
  unfold answerRelay
  dsimp only
  split <;> exact ⟨signedTargetKey_quiet s target.id (some target),rfl⟩

theorem eq_of_mem_request {dest : Option Dest} {d' : PeerID} (h : d'∈(dest.map fun _ => d).toList) : d'=d := by
  simp only [Option.mem_toList,Option.map_eq_some_iff] at h
  obtain ⟨-,-,rfl⟩:=h
  rfl

theorem does_relay {s : Server} {l : List Relay.Issue} (target : Entry) (uuid : Relay.UUID)
    (relay : Bytes) (answerTo : Dest) (d : PeerID) (dest : Option Dest) (msg : Msg)
    (h : s'.authorizations=l++s.authorizations) :
    Does s ⟨(s'.answerRelay target uuid relay answerTo).2,
      (dest.map fun dest => Sent.request d dest msg).toList ++
        (s'.answerRelay target uuid relay answerTo).1⟩ l (dest.map fun _ => d).toList := by
  obtain ⟨hq,ha⟩:=answerRelay_quiet s' target uuid relay answerTo
  refine ⟨hq.authorizations.trans h,?_⟩
  unfold Turn.requested
  rw [List.filterMap_append,ha,List.append_nil]
  cases dest <;> rfl

theorem relayUUID_quiet (s : Server) (uuid : Relay.UUID) :
    (s.relayUUID uuid).2.authorizations=s.authorizations ∧ (s.relayUUID uuid).2.billing=s.billing := by
  unfold relayUUID
  split <;> exact ⟨rfl,rfl⟩

theorem handleRequestRelayTCP_does (s : Server) (m : RequestRelay) (raddr : Addr)
    (hint : ConnType) : let u:=s.relayUUID m.uuid
    (∃ i target s', u.2.AdmitsRequest raddr m.token 0 m.id i target s' ∧
      s'.accepts u.1 (s'.initiatorID i) m.id=true ∧
      (s.handleRequestRelayTCP m raddr hint).server.billing=s.billing ∧
      ∃ ds, (∀ d∈ds,d=m.id) ∧
        Does s (s.handleRequestRelayTCP m raddr hint) [⟨u.1,s'.initiatorID i,m.id⟩] ds) ∨
    ((∀ i target s', u.2.AdmitsRequest raddr m.token 0 m.id i target s' →
      s'.accepts u.1 (s'.initiatorID i) m.id=false) ∧
      Does s (s.handleRequestRelayTCP m raddr hint) [] []) := by
  dsimp only
  have hu:=relayUUID_quiet s m.uuid
  have hk:=admitRequest_keeps (s.relayUUID m.uuid).2 raddr m.token 0 m.id
  unfold AdmitsRequest handleRequestRelayTCP
  dsimp only
  split
  · rename_i r s' heq
    rw [heq] at hk
    refine .inr ⟨?_,does_answer (hk.authorizations.trans hu.1) _ _⟩
    intro i target s₁ ha
    rw [heq] at ha
    cases ha
  · rename_i i target s' heq
    rw [heq] at hk
    split
    · rename_i s₁ hauth
      obtain ⟨hrej,hsame⟩:=authorizeRelayTicket_rejected hauth
      refine .inr ⟨?_,does_answer (hsame.trans (hk.authorizations.trans hu.1)) _ _⟩
      intro i₁ target₁ s₂ ha
      rw [heq] at ha
      cases ha
      exact hrej
    · rename_i s₁ hauth
      obtain ⟨hacc,hadd,hbill⟩:=authorizeRelayTicket_accepted hauth
      refine .inl ⟨i,target,s',heq,hacc,?_,_,fun d => eq_of_mem_request,
        does_relay (s := s) _ _ _ _ _ _ _ ?_⟩
      · exact (answerRelay_quiet _ _ _ _ _).1.billing.trans ((storePendingRelay_quiet ..).billing.trans
          (hbill.trans (hk.billing.trans hu.2)))
      · rw [(storePendingRelay_quiet ..).authorizations,hadd,hk.authorizations,hu.1]
        rfl

theorem prepareBilling_authorizations (s : Server) (uuid : Relay.UUID) (d i : PeerID) :
    (s.prepareBilling uuid d i).2.authorizations=s.authorizations := by
  unfold prepareBilling
  split
  · rfl
  · split <;> rfl

theorem prepareBilling_ok {s : Server} (hb : s.billing=some b) (h : s.prepareBilling uuid d i=(.ok (),s')) :
    (b.checkConnection d).allowed=true ∧ s'.billing=some (b.prepareRelay s.now uuid d i).2 := by
  unfold prepareBilling at h
  rw [hb] at h
  dsimp only at h
  split at h
  · cases h
  · rename_i ha
    simp only [Prod.mk.injEq] at h
    obtain ⟨-,rfl⟩:=h
    exact ⟨by simpa only [Bool.not_eq_false] using ha,rfl⟩

theorem handleRequestRelay_gated {s : Server} (hb : s.billing=some b)
    (m : RequestRelay) (raddr : Addr) : (s.handleRequestRelay m raddr).BillingGated s b := by
  have hu:=relayUUID_quiet s m.uuid
  have hk:=admitRequest_keeps (s.relayUUID m.uuid).2 raddr m.token 0 m.id
  unfold handleRequestRelay
  dsimp only
  split
  · rename_i r s' heq
    rw [heq] at hk
    exact (does_answer (hk.authorizations.trans hu.1) _ _).gated_nil
  · rename_i i target s' heq
    rw [heq] at hk
    have hauth₁ : s'.authorizations=s.authorizations := hk.authorizations.trans hu.1
    have hbill₁ : s'.billing=some b := (hk.billing.trans hu.2).trans hb
    have hprep:=prepareBilling_authorizations s' (s.relayUUID m.uuid).1 m.id (s'.initiatorID i)
    split
    · rename_i reason s₁ hp
      rw [hp] at hprep
      exact (does_answer (hprep.trans hauth₁) _ _).gated_nil
    · rename_i s₁ hp
      rw [hp] at hprep
      obtain ⟨hallowed,hbill₂⟩:=prepareBilling_ok hbill₁ hp
      split
      · rename_i s₂ hauth
        obtain ⟨-,hsame⟩:=authorizeRelayTicket_rejected hauth
        exact (does_answer (hsame.trans (hprep.trans hauth₁)) _ _).gated_nil
      · rename_i s₂ hauth
        obtain ⟨hacc,hadd,hbill₃⟩:=authorizeRelayTicket_accepted hauth
        refine (Does.gated_ticket (x := ⟨(s.relayUUID m.uuid).1,s'.initiatorID i,m.id⟩)
          (does_relay (s := s) _ _ _ _ _ _ _ ?_) fun d => eq_of_mem_request).mpr
            ⟨hallowed,fun hbillable => ⟨(b.prepareRelay s'.now (s.relayUUID m.uuid).1 m.id
              (s'.initiatorID i)).2,?_,?_⟩⟩
        · rw [(storePendingUUID_quiet ..).authorizations]
          exact hadd.trans (congrArg _ (hprep.trans hauth₁))
        · refine (answerRelay_quiet _ _ _ _ _).1.billing.trans ?_
          rw [(storePendingUUID_quiet ..).billing]
          exact hbill₃.trans hbill₂
        · exact b.prepareRelay_entry s'.now _ (authorize_ne hacc) hbillable

theorem lanExchange_does (s : Server) (d : PeerID) (target : Entry) (i : PeerID) (raddr : Addr)
    (transport : ConnType) (relay : Bytes) (answerTo : Dest) :
    Does s (s.lanExchange d target i raddr transport relay answerTo) []
      ((s.sendToPeer d).map fun _ => d).toList := by
  have hq : Quiet s (s.lanFallbackResponse d target relay).2 :=
    signedTargetKey_quiet s d (some target)
  unfold lanExchange
  dsimp only
  rw [hq.reach]
  cases s.sendToPeer d <;> exact ⟨hq.authorizations,rfl⟩

theorem answerPunch_quiet (s : Server) (m : PunchHoleRequest) (target : Entry) (route : Route)
    (raddr : Addr) (overUDP : Bool) :
    (s.answerPunch m target route raddr overUDP).2.authorizations=s.authorizations ∧
      (s.answerPunch m target route raddr overUDP).1.filterMap Sent.target=[] := by
  have hq:=signedTargetKey_quiet s m.id (some target)
  unfold answerPunch
  dsimp only
  split <;> exact ⟨hq.authorizations,rfl⟩

theorem does_punch (s : Server) (m : PunchHoleRequest) (target : Entry) (route : Route)
    (raddr : Addr) (overUDP : Bool) (dest : Option Dest) (msg : Msg) :
    Does s ⟨(s.answerPunch m target route raddr overUDP).2,
      (dest.map fun dest => Sent.request m.id dest msg).toList ++
        (s.answerPunch m target route raddr overUDP).1⟩ [] (dest.map fun _ => m.id).toList := by
  obtain ⟨hq,ha⟩:=answerPunch_quiet s m target route raddr overUDP
  refine ⟨hq,?_⟩
  unfold Turn.requested
  rw [List.filterMap_append,ha,List.append_nil]
  cases dest <;> rfl

theorem sendRelayResponse_does (s : Server) (m : PunchHoleRequest) (target : Entry) (raddr : Addr)
    (relay : Bytes) (i : PeerID) :
    (s.newUUID.2.accepts s.newUUID.1 i target.id=false ∧
      Does s (s.sendRelayResponse m target raddr relay i) [] []) ∨
    (s.newUUID.2.accepts s.newUUID.1 i target.id=true ∧
      (s.sendRelayResponse m target raddr relay i).server.billing=s.billing ∧
      ∃ ds, (∀ d∈ds,d=target.id) ∧
        Does s (s.sendRelayResponse m target raddr relay i) [⟨s.newUUID.1,i,target.id⟩] ds) := by
  unfold sendRelayResponse
  dsimp only
  split
  · rename_i s₁ hauth
    obtain ⟨hrej,hsame⟩:=authorizeRelayTicket_rejected hauth
    exact .inl ⟨hrej,does_answer (s := s) hsame _ _⟩
  · rename_i s₁ hauth
    obtain ⟨hacc,hadd,hbill⟩:=authorizeRelayTicket_accepted hauth
    have hq:=signedTargetKey_quiet s₁ target.id (some target)
    split
    · exact .inr ⟨hacc,hq.billing.trans hbill,[],fun _ hd => absurd hd List.not_mem_nil,
        hq.authorizations.trans hadd,rfl⟩
    · rename_i addr _
      have hs:=storePendingUUID_quiet (s₁.signedTargetKey target.id (some target)).2 target.id raddr
        s.newUUID.1 i
      refine .inr ⟨hacc,hs.billing.trans (hq.billing.trans hbill),
        ((s₁.sendUDP addr).map fun _ => target.id).toList,fun d => eq_of_mem_request,
        hs.authorizations.trans (hq.authorizations.trans hadd),?_⟩
      unfold Turn.requested
      cases s₁.sendUDP addr <;> rfl

theorem routePunch_tickets (s : Server) (m : PunchHoleRequest) (target : Entry) (raddr : Addr)
    (i : PeerID) : (s.routePunch m target raddr i).2.newUUID.1=s.newUUID.1 ∧
      ∀ uuid i' d, (s.routePunch m target raddr i).2.newUUID.2.accepts uuid i' d = s.accepts uuid i' d := by
  unfold routePunch forcesRelay
  dsimp only
  split <;> unfold storePendingUUID storePendingRelay <;> split <;> exact ⟨rfl,fun _ _ _ => rfl⟩

/-- The relay is forced, and its ticket is for a billable target whose new UUID
nobody has prepared. -/
def ForcesUnprepared (b : Billing.Service) (s : Server) (m : PunchHoleRequest) (raddr : Addr) :
    Prop := ∃ i target s', m.id≠"" ∧ s.AdmitsRequest raddr m.token m.udpPort m.id i target s' ∧
    (s'.routePunch m target raddr (s'.initiatorID i)).1.forced=true ∧
    s'.accepts s'.newUUID.1 (s'.initiatorID i) m.id=true ∧
    b.billable m.id=true ∧ b.pending s'.newUUID.1=none

theorem sendRelayResponse_gated {s r : Server} (hb : r.billing=some b)
    (hauth : r.authorizations=s.authorizations) (m : PunchHoleRequest) {target : Entry}
    (raddr : Addr) (relay : Bytes) (i : PeerID) (hallowed : (b.checkConnection target.id).allowed=true) :
    (r.sendRelayResponse m target raddr relay i).BillingGated s b ↔
      ¬ (r.newUUID.2.accepts r.newUUID.1 i target.id=true ∧ b.billable target.id=true ∧
        b.pending r.newUUID.1=none) := by
  rcases sendRelayResponse_does r m target raddr relay i with ⟨hrej,hdo⟩ | ⟨hacc,hbill,ds,hds,hdo⟩
  · refine iff_of_true (hdo.of_same hauth).gated_nil ?_
    rintro ⟨hacc,-⟩
    rw [hrej] at hacc
    cases hacc
  · rw [(hdo.of_same hauth).gated_ticket hds,hbill,hb]
    simp only [hallowed,hacc,true_and,Option.some.injEq,not_and,← Option.isSome_iff_ne_none,
      exists_eq_left']

theorem admitsRequest_unique {raddr : Addr} {token : Bytes} {port : ℤ} {i i' : Initiator}
    {target target' : Entry} {s₁ s₂ : Server} (h : s.AdmitsRequest raddr token port d i target s₁)
    (h' : s.AdmitsRequest raddr token port d i' target' s₂) : i'=i ∧ target'=target ∧ s₂=s₁ := by
  unfold AdmitsRequest at h h'
  rw [h] at h'
  cases h'
  exact ⟨rfl,rfl,rfl⟩

theorem not_admitsRequest {raddr : Addr} {token : Bytes} {port : ℤ} {r : Refusal}
    (h : s.admitRequest raddr token port d=(.error r,s')) (i : Initiator)
    (target : Entry) (s₁ : Server) : ¬ s.AdmitsRequest raddr token port d i target s₁ := by
  unfold AdmitsRequest
  rw [h]
  rintro ⟨⟩

theorem handlePunchHoleRequest_gated {s : Server} (hb : s.billing=some b) (m : PunchHoleRequest) (raddr : Addr) :
    (s.handlePunchHoleRequest m raddr).BillingGated s b ↔ ¬ ForcesUnprepared b s m raddr := by
  have hk:=admitRequest_keeps s raddr m.token m.udpPort m.id
  unfold handlePunchHoleRequest
  split
  · rename_i hid
    exact iff_of_true (Does.gated_nil ⟨rfl,rfl⟩) fun ⟨_,_,_,hne,_⟩ => hne hid
  · rename_i hid
    split
    · rename_i r s' heq
      rw [heq] at hk
      exact iff_of_true (does_answer hk.authorizations _ _).gated_nil
        fun ⟨i,target,s₁,_,hadm,_⟩ => not_admitsRequest heq i target s₁ hadm
    · rename_i i target s' heq
      rw [heq] at hk
      have hbill : s'.billing=some b := hk.billing.trans hb
      have hdeny : s'.billingDenies m.id = !(b.checkConnection m.id).allowed := by
        unfold billingDenies
        rw [hbill]
        rfl
      have hunique : ForcesUnprepared b s m raddr ↔
          (s'.routePunch m target raddr (s'.initiatorID i)).1.forced=true ∧
          s'.accepts s'.newUUID.1 (s'.initiatorID i) m.id=true ∧
          b.billable m.id=true ∧ b.pending s'.newUUID.1=none := by
        constructor
        · rintro ⟨i₁,target₁,s₁,-,hadm,h⟩
          obtain ⟨rfl,rfl,rfl⟩:=admitsRequest_unique heq hadm
          exact h
        · exact fun h => ⟨i,target,s',hid,heq,h⟩
      rw [hunique]
      split
      · rename_i hd
        rw [hdeny,Bool.not_eq_true'] at hd
        refine iff_of_true (does_answer hk.authorizations _ _).gated_nil ?_
        rintro ⟨-,-,hbillable,-⟩
        rw [Billing.Service.billable,hd] at hbillable
        cases hbillable
      · rename_i hd
        rw [hdeny,Bool.not_eq_true',Bool.not_eq_false] at hd
        have hq:=routePunch_quiet s' m target raddr (s'.initiatorID i)
        have ht:=routePunch_tickets s' m target raddr (s'.initiatorID i)
        have hauth:=hq.authorizations.trans hk.authorizations
        have hid : target.id=m.id := (admitRequest_ok heq).2.2
        dsimp only
        split
        · rename_i hf
          rw [sendRelayResponse_gated (hq.billing.trans hbill) hauth m raddr _ _ (hid ▸ hd),hid,ht.1,
            ht.2]
          simp only [hf,true_and]
        · rename_i hf
          have hsent : (b.checkConnection m.id).allowed=false → ∀ ds : List PeerID, m.id∉ds := by
            intro hno
            rw [hd] at hno
            cases hno
          split
          · exact iff_of_true (((lanExchange_does ..).of_same hauth).gated_requests
              (fun d => eq_of_mem_request) |>.mpr fun hno => hsent hno _) fun h => hf h.1
          · exact iff_of_true (((does_punch ..).of_same hauth).gated_requests
              (fun d => eq_of_mem_request) |>.mpr fun hno => hsent hno _) fun h => hf h.1

def ReachesDenied (b : Billing.Service) (s : Server) (m : PunchHoleRequest) (raddr : Addr) : Prop :=
  ∃ i target s', m.id≠"" ∧ s.AdmitsRequest raddr m.token m.udpPort m.id i target s' ∧
    (s'.routePunch m target raddr (s'.initiatorID i)).1.forced=false ∧
    (s'.sendToPeer m.id).isSome ∧ (b.checkConnection m.id).allowed=false

theorem mem_request_self {dest : Option Dest} : d∈(dest.map fun _ => d).toList ↔ dest.isSome=true := by
  cases dest <;> simp

theorem handlePunchHoleRequestTCP_gated (s : Server) (b : Billing.Service)
    (m : PunchHoleRequest) (raddr : Addr) (hint : ConnType) :
    (s.handlePunchHoleRequestTCP m raddr hint).BillingGated s b ↔ ¬ ReachesDenied b s m raddr := by
  have hk:=admitRequest_keeps s raddr m.token m.udpPort m.id
  unfold handlePunchHoleRequestTCP
  split
  · rename_i hid
    exact iff_of_true (Does.gated_nil ⟨rfl,rfl⟩) fun ⟨_,_,_,hne,_⟩ => hne hid
  · rename_i hid
    split
    · rename_i r s' heq
      rw [heq] at hk
      exact iff_of_true (does_answer hk.authorizations _ _).gated_nil
        fun ⟨i,target,s₁,_,hadm,_⟩ => not_admitsRequest heq i target s₁ hadm
    · rename_i i target s' heq
      rw [heq] at hk
      have hq:=routePunch_quiet s' m target raddr (s'.initiatorID i)
      have hauth:=hq.authorizations.trans hk.authorizations
      have hunique : ReachesDenied b s m raddr ↔
          (s'.routePunch m target raddr (s'.initiatorID i)).1.forced=false ∧
            (s'.sendToPeer m.id).isSome ∧ (b.checkConnection m.id).allowed=false := by
        constructor
        · rintro ⟨i₁,target₁,s₁,-,hadm,h⟩
          obtain ⟨rfl,rfl,rfl⟩:=admitsRequest_unique heq hadm
          exact h
        · exact fun h => ⟨i,target,s',hid,heq,h⟩
      rw [hunique]
      dsimp only
      split
      · rename_i hf
        have hl:=signedTargetKey_quiet (s'.routePunch m target raddr (s'.initiatorID i)).2 m.id
          (some target)
        refine iff_of_true (does_answer (hl.authorizations.trans hauth) _ _).gated_nil ?_
        rintro ⟨hno,-⟩
        rw [hf] at hno
        cases hno
      · rename_i hf
        have hsent : ((b.checkConnection m.id).allowed=false → m.id ∉
            (((s'.routePunch m target raddr (s'.initiatorID i)).2.sendToPeer m.id).map
              fun _ => m.id).toList) ↔
            ¬ ((s'.routePunch m target raddr (s'.initiatorID i)).1.forced=false ∧
              (s'.sendToPeer m.id).isSome ∧ (b.checkConnection m.id).allowed=false) := by
          rw [mem_request_self,hq.reach,Bool.eq_false_iff.mpr hf]
          simp only [true_and,not_and']
        split
        · exact (((lanExchange_does ..).of_same hauth).gated_requests
            fun d => eq_of_mem_request).trans hsent
        · exact (((does_punch ..).of_same hauth).gated_requests
            fun d => eq_of_mem_request).trans hsent

def takenFor (s : Server) (rr : RelayResponseIn) (sender : Addr) : Option Relay.Issue :=
  match rr.socketAddr with
  | none => none
  | some addr =>
    if s.refusesSource rr sender then none
    else
      let pending:=s.pendingOf rr addr
      let targetID:=s.resolveTarget rr pending sender
      let initiatorID:=s.resolveInitiator pending addr
      match (s.recoverUUID rr pending targetID addr).1 with
      | .panic => none
      | .uuid uuid => if targetID="" ∨ initiatorID="" then none
          else some ⟨uuid,initiatorID,targetID⟩

theorem handleRelayResponseForward_gated {s : Server}
    (hb : s.billing=some b) (rr : RelayResponseIn) (sender : Addr) :
    (s.handleRelayResponseForward rr sender).BillingGated s b ↔
      ∀ x, s.takenFor rr sender=some x → s.accepts x.uuid x.initiatorID x.targetID=true →
        (b.checkConnection x.targetID).allowed=true ∧
          (b.billable x.targetID=true → (b.pending x.uuid).isSome) := by
  have hnone {turn : Turn} (hdo : Does s turn [] []) (ht : s.takenFor rr sender=none) :
      turn.BillingGated s b ↔ ∀ x, s.takenFor rr sender=some x →
        s.accepts x.uuid x.initiatorID x.targetID=true →
          (b.checkConnection x.targetID).allowed=true ∧
            (b.billable x.targetID=true → (b.pending x.uuid).isSome) := by
    refine iff_of_true hdo.gated_nil fun x hx => ?_
    rw [ht] at hx
    cases hx
  unfold handleRelayResponseForward
  split
  · rename_i haddr
    exact hnone ⟨rfl,rfl⟩ (by simp only [takenFor,haddr])
  · rename_i addr haddr
    split
    · rename_i href
      exact hnone ⟨rfl,rfl⟩ (by simp only [takenFor,haddr,href,if_true])
    · rename_i href
      dsimp only
      have hsame:=recoverUUID_same (s := s) rr (s.pendingOf rr addr)
        (s.resolveTarget rr (s.pendingOf rr addr) sender) addr
      split
      · rename_i s' heq
        rw [heq] at hsame
        have hauth : s'.authorizations=s.authorizations := by
          rcases hsame with rfl | rfl <;> rfl
        exact hnone ⟨hauth,rfl⟩ (by simp only [takenFor,haddr,if_neg href,heq])
      · rename_i uuid s' heq
        rw [heq] at hsame
        have hs' : s'.authorizations=s.authorizations ∧ s'.billing=s.billing ∧
            s'.resolveInitiator (s.pendingOf rr addr) addr =
              s.resolveInitiator (s.pendingOf rr addr) addr ∧
            ∀ u i d, s'.accepts u i d=s.accepts u i d := by
          rcases hsame with rfl | rfl <;> exact ⟨rfl,rfl,rfl,fun _ _ _ => rfl⟩
        obtain ⟨hauth,hbill,hinit,hacc⟩:=hs'
        rw [hinit]
        split
        · rename_i hpair
          exact hnone ⟨hauth,rfl⟩ (by simp only [takenFor,haddr,if_neg href,heq,if_pos hpair])
        · rename_i hpair
          have htaken : s.takenFor rr sender=some ⟨uuid,
              s.resolveInitiator (s.pendingOf rr addr) addr,
              s.resolveTarget rr (s.pendingOf rr addr) sender⟩ := by
            simp only [takenFor,haddr,if_neg href,heq,if_neg hpair]
          simp only [htaken,Option.some.injEq,forall_eq']
          split
          · rename_i s₂ hq
            obtain ⟨hrej,hauth₂⟩:=authorizeRelayTicket_rejected hq
            refine iff_of_true (Does.gated_nil ⟨hauth₂.trans hauth,rfl⟩) fun hyes => ?_
            rw [← hacc,hrej] at hyes
            cases hyes
          · rename_i s₂ hq
            obtain ⟨hyes,hadd,hbill₂⟩:=authorizeRelayTicket_accepted hq
            have hk:=signedTargetKey_quiet s₂ (s.resolveTarget rr (s.pendingOf rr addr) sender)
              (s₂.peers.get (s.resolveTarget rr (s.pendingOf rr addr) sender))
            refine ((does_forward (s := s) (l := [⟨uuid,s.resolveInitiator (s.pendingOf rr addr) addr,
              s.resolveTarget rr (s.pendingOf rr addr) sender⟩]) ?_ _ _).gated_ticket
                fun _ hd => absurd hd List.not_mem_nil).trans ?_
            · exact hk.authorizations.trans (hadd.trans (congrArg _ hauth))
            · rw [hk.billing,hbill₂,hbill,hb,← hacc,hyes]
              simp only [Option.some.injEq,exists_eq_left',true_implies]

/-- A ticket is accepted for a target that billing denies, or whose session has not
been prepared. -/
def GrantsUnchecked (b : Billing.Service) (s : Server) (m : RequestRelay) (raddr : Addr) : Prop :=
  ∃ i target s', (s.relayUUID m.uuid).2.AdmitsRequest raddr m.token 0 m.id i target s' ∧
    s'.accepts (s.relayUUID m.uuid).1 (s'.initiatorID i) m.id=true ∧
    ((b.checkConnection m.id).allowed=true → b.billable m.id=true ∧
      b.pending (s.relayUUID m.uuid).1=none)

theorem handleRequestRelayTCP_gated {s : Server} (hb : s.billing=some b)
    (m : RequestRelay) (raddr : Addr) (hint : ConnType) :
    (s.handleRequestRelayTCP m raddr hint).BillingGated s b ↔ ¬ GrantsUnchecked b s m raddr := by
  rcases handleRequestRelayTCP_does s m raddr hint with
    ⟨i,target,s',hadm,hacc,hbill,ds,hds,hdo⟩ | ⟨hno,hdo⟩
  · have hunique : GrantsUnchecked b s m raddr ↔ ((b.checkConnection m.id).allowed=true →
        b.billable m.id=true ∧ b.pending (s.relayUUID m.uuid).1=none) := by
      constructor
      · rintro ⟨i₁,target₁,s₁,hadm₁,-,h⟩
        exact h
      · exact fun h => ⟨i,target,s',hadm,hacc,h⟩
    rw [hdo.gated_ticket hds,hunique,hbill,hb]
    simp only [Option.some.injEq,exists_eq_left',Classical.not_imp,not_and,
      ← Option.isSome_iff_ne_none]
  · refine iff_of_true hdo.gated_nil ?_
    rintro ⟨i,target,s',hadm,hacc,-⟩
    rw [hno i target s' hadm] at hacc
    cases hacc

def BillsFirst (b : Billing.Service) (s : Server) : SessionMessage → Prop
  | .punchHoleRequest .udp m raddr => ¬ ForcesUnprepared b s m raddr
  | .punchHoleRequest transport m raddr => ¬ ReachesDenied b (s.arrive transport raddr) m raddr
  | .requestRelay .udp _ _ => True
  | .requestRelay transport m raddr => ¬ GrantsUnchecked b (s.arrive transport raddr) m raddr
  | .relayResponse .udp _ _ => True
  | .relayResponse transport rr sender =>
    ∀ x, (s.arrive transport sender).takenFor rr sender=some x →
      (s.arrive transport sender).accepts x.uuid x.initiatorID x.targetID=true →
        (b.checkConnection x.targetID).allowed=true ∧
          (b.billable x.targetID=true → (b.pending x.uuid).isSome)

theorem gated_arrive (s : Server) (transport : ConnType) (addr : Addr) (turn : Turn) (b : Billing.Service) :
    turn.BillingGated s b ↔ turn.BillingGated (s.arrive transport addr) b := by
  have hauth : turn.authorized s=turn.authorized (s.arrive transport addr) := by
    unfold Turn.authorized
    rw [(arrive_authorizations s transport addr).1]
  constructor
  · exact fun h => ⟨fun d hd => hauth ▸ h.denied d hd,fun d hd => hauth ▸ h.prepared d hd⟩
  · exact fun h => ⟨fun d hd => hauth ▸ h.denied d hd,fun d hd => hauth ▸ h.prepared d hd⟩

theorem billing_gate_iff {s : Server} {b : Billing.Service} (hb : s.billing=some b) (msg : SessionMessage) :
    (s.handle msg.action).BillingGated s b ↔ BillsFirst b s msg := by
  have harrive (transport : ConnType) (addr : Addr) :
      (s.arrive transport addr).billing=some b := (arrive_authorizations s transport addr).2.trans hb
  cases msg with
  | punchHoleRequest transport m raddr =>
    cases transport with
    | udp => exact handlePunchHoleRequest_gated hb m raddr
    | tcp =>
      exact (gated_arrive s .tcp raddr _ b).trans
        (handlePunchHoleRequestTCP_gated _ b m raddr .tcp)
    | ws =>
      exact (gated_arrive s .ws raddr _ b).trans
        (handlePunchHoleRequestTCP_gated _ b m raddr .ws)
  | requestRelay transport m raddr =>
    cases transport with
    | udp => exact iff_of_true (handleRequestRelay_gated hb m raddr) trivial
    | tcp =>
      exact (gated_arrive s .tcp raddr _ b).trans
        (handleRequestRelayTCP_gated (harrive .tcp raddr) m raddr .tcp)
    | ws =>
      exact (gated_arrive s .ws raddr _ b).trans
        (handleRequestRelayTCP_gated (harrive .ws raddr) m raddr .ws)
  | relayResponse transport rr sender =>
    cases transport with
    | udp => exact iff_of_true (Does.gated_nil ⟨rfl,rfl⟩) trivial
    | tcp =>
      exact (gated_arrive s .tcp sender _ b).trans
        (handleRelayResponseForward_gated (harrive .tcp sender) rr sender)
    | ws =>
      exact (gated_arrive s .ws sender _ b).trans
        (handleRelayResponseForward_gated (harrive .ws sender) rr sender)

end Server

/-- `device-8` has a contract, and the clock is not in sync. -/
def unsyncedBilling : Billing.Service where
  contracts := [⟨"c1",.device,"device-8","active","EUR"⟩]
  deviceGroups := none
  deviceOrg _ := ""
  fails _ := false
  clockSynced := some false
  pending _ := none

def billedServer : Server := {twoDevices.server with billing := some unsyncedBilling}

def relayTo (transport : ConnType) : SessionMessage :=
  .requestRelay transport ⟨"device-8","a0f8f3c1",[],[]⟩ homeAddr

theorem billing_gate_udp : (billedServer.handle (relayTo .udp).action).BillingGated billedServer unsyncedBilling :=
  (Server.billing_gate_iff rfl (relayTo .udp)).mpr trivial

/-- The same request over TCP is not asked about. -/
theorem tcp_relay_unbilled : ¬ ∀ (s : Server) (b : Billing.Service) (msg : SessionMessage), s.billing=some b →
      (s.handle msg.action).BillingGated s b := by
  intro h
  have hg:=h billedServer unsyncedBilling (relayTo .tcp) rfl
  exact (hg.denied "device-8" (by decide)).1 ⟨"a0f8f3c1","device-7","device-8"⟩
    (by decide +kernel) rfl

end BetterDesk.Signal
