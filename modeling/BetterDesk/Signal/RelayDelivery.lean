import BetterDesk.Signal.PendingStore
import BetterDesk.Signal.Tickets

/-! # Where the answer to a relay request goes (signal/handler.go, signal/server.go) -/

namespace BetterDesk.Signal
open Db Text Exec List

structure Elsewhere where
  change : Server → Server
  stores : Server → List PendingUUID
  pending : ∀ s, (change s).pending=(stores s).foldl Pending.store s.pending

inductive RelayAction
  | requestRelay (transport : ConnType) (m : RequestRelay) (raddr : Addr)
  | relayResponse (transport : ConnType) (rr : RelayResponseIn) (sender : Addr)
  | evict (key : PendingKey)
  | elsewhere (o : Elsewhere)

namespace Server
variable (s : Server)

def requestedSession (transport : ConnType) (m : RequestRelay) (raddr : Addr) : Option PendingUUID :=
  let (uuid,s):=(s.arrive transport raddr).relayUUID m.uuid
  match s.admitRequest raddr m.token 0 m.id with
  | (.error _,_) => none
  | (.ok (i,_),s) =>
    let initiatorID:=s.initiatorID i
    let billed := if transport=.udp then s.prepareBilling uuid m.id initiatorID else (.ok (),s)
    match billed with
    | (.error _,_) => none
    | (.ok (),s) => match s.authorizeRelayTicket uuid initiatorID m.id with
      | (false,_) => none
      | (true,s) =>
        let advertised := if transport=.udp then raddr
          else relayAdvertisedAddr raddr (s.initiatorType initiatorID transport)
        some ⟨uuid,m.id,initiatorID,raddr,advertised,s.now⟩

/-- A write to this address reaches its own connection, or goes out over UDP: the only
WebSocket peer of its network would be taken for it otherwise. -/
def Reaches (addr : Addr) : Prop :=
  s.delivers addr=true ∧
    ((s.tcpPunchConns.load addr).isSome=true ∨ s.wsPunchConns addr=true ∨ (s.livingWSAt addr.ip).length≠1)

end Server

/-- The server with the requests that stored a session, and all sessions ever stored. -/
structure RelaySetup where
  server : Server
  requests : List PendingUUID
  stored : List PendingUUID
  stopped : Bool

def DeliveredTo (r : PendingUUID) (sent : List Sent) : Prop :=
  ∃ dest resp, (dest=.conn r.correlationAddr ∨ dest=.udp r.correlationAddr) ∧
    sent=[.answer dest (.relayResponse resp)] ∧ resp.uuid=r.uuid

/-- What a response needs, to be delivered to the initiator of `r`. -/
structure Clear (s : Server) (stored : List PendingUUID) (r : PendingUUID) (transport : ConnType) (rr : RelayResponseIn)
    (sender : Addr) : Prop where
  transport : transport ≠ .udp
  named : r.uuid≠"" ∧ r.initiatorID≠""
  there : ∃ e, s.pendingRelayUUIDs.load r.key=some e ∧ e.uuid=r.uuid ∧ e.initiatorID=r.initiatorID ∧
    e.advertisedAddr=r.advertisedAddr
  unshared : Unshared stored r rr
  source : s.refusesSource rr sender=false
  ticket : (s.registry.authorize s.now r.uuid r.initiatorID r.targetID).1=true
  reached : s.Reaches r.correlationAddr

namespace RelaySetup

structure Fresh (sys : RelaySetup) : Prop where
  pending : sys.server.pending=⟨[],[],[]⟩
  requests : sys.requests=[]
  stored : sys.stored=[]

def step (sys : RelaySetup) (a : RelayAction) : Option RelaySetup :=
  if sys.stopped then none
  else match a with
  | .requestRelay transport m raddr =>
    let a : Action := .requestRelay transport m raddr
    let turn:=sys.server.handle a
    let session:=(sys.server.requestedSession transport m raddr).toList
    some ⟨turn.server,session++sys.requests,session++sys.stored,turn.stops a⟩
  | .relayResponse transport rr sender =>
    let a : Action := .relayResponse transport rr sender
    let turn:=sys.server.handle a
    some {sys with server := turn.server,stopped := turn.stops a}
  | .evict key => some {sys with server := sys.server.evictPending key}
  | .elsewhere o => some {sys with
      server := o.change sys.server
      stored := (o.stores sys.server).reverse++sys.stored}

def StepDelivers (sys : RelaySetup) : RelayAction → Prop
  | .relayResponse transport rr sender => ∀ r∈sys.requests,AnswersSession r rr →
      DeliveredTo r (sys.server.handle (.relayResponse transport rr sender)).sent
  | _ => True

def Undisturbed (sys : RelaySetup) : RelayAction → Prop
  | .relayResponse transport rr sender => ∀ r∈sys.requests,AnswersSession r rr →
      Clear (sys.server.arrive transport sender) sys.stored r transport rr sender
  | _ => True

end RelaySetup

namespace Server
variable {s s' : Server}

theorem keeps_pending (k : Keeps s s') : s'.pending=s.pending ∧ s'.now=s.now := by
  have hrest:=k.rest
  refine ⟨?_,(congrArg Server.now hrest :)⟩
  have hp:=congrArg Server.pendingRelayUUIDs hrest
  have hu:=congrArg Server.pendingRelayByUUID hrest
  have ha:=congrArg Server.pendingRelayByAdvertised hrest
  unfold pending
  rw [show s'.pendingRelayUUIDs=s.pendingRelayUUIDs from hp,show s'.pendingRelayByUUID=s.pendingRelayByUUID from hu,
    show s'.pendingRelayByAdvertised=s.pendingRelayByAdvertised from ha]

theorem arrive_pending (s : Server) (transport : ConnType) (addr : Addr) : (s.arrive transport addr).pending=s.pending := by
  cases transport with
  | udp => rfl
  | ws => rfl
  | tcp =>
    simp only [arrive,openTCP]
    split <;> rfl

theorem relayUUID_pending (s : Server) (uuid : Relay.UUID) : (s.relayUUID uuid).2.pending=s.pending := by
  unfold relayUUID
  split <;> rfl

theorem admitRequest_pending (s : Server) (raddr : Addr) (token : Bytes) (port : ℤ) (t : PeerID) :
    (s.admitRequest raddr token port t).2.pending=s.pending := by
  have hkeeps:=(keeps_pending (requireAuthorizedInitiator_keeps s raddr token port)).1
  unfold admitRequest
  split
  · rename_i r hr
    rw [hr] at hkeeps
    exact hkeeps
  · rename_i i r hr
    rw [hr] at hkeeps
    split
    · exact hkeeps
    · split <;> exact hkeeps

theorem prepareBilling_pending (s : Server) (uuid : Relay.UUID) (t i : PeerID) :
    (s.prepareBilling uuid t i).2.pending=s.pending := by
  unfold prepareBilling
  split
  · rfl
  · split <;> rfl

theorem peerPublicKey_pending (s : Server) (id : PeerID) (e : Option Entry) : (s.peerPublicKey id e).2.pending=s.pending := by
  unfold peerPublicKey
  split
  · rfl
  · split
    · rfl
    · split
      · split <;> rfl
      · rfl

theorem answerRelay_pending (s : Server) (target : Entry) (uuid : Relay.UUID) (relay : Bytes) (dest : Dest) :
    (s.answerRelay target uuid relay dest).2.pending=s.pending := by
  have hkey:=peerPublicKey_pending s target.id (some target)
  unfold answerRelay
  dsimp only
  split <;> exact hkey

def afterRequest (s : Server) (session : Option PendingUUID) : Pending := match session with
  | none => s.pending
  | some x => s.pending.store x

theorem handleRequestRelay_pending (s : Server) (m : RequestRelay) (raddr : Addr) :
    (s.handleRequestRelay m raddr).server.pending=s.afterRequest (s.requestedSession .udp m raddr) := by
  have huuid:=relayUUID_pending s m.uuid
  unfold handleRequestRelay requestedSession
  simp only [arrive,if_true]
  generalize hu : s.relayUUID m.uuid=u at huuid
  obtain ⟨uuid,s₁⟩:=u
  have hadm:=admitRequest_pending s₁ raddr m.token 0 m.id
  dsimp only at huuid ⊢
  cases ha : s₁.admitRequest raddr m.token 0 m.id with
  | mk r s₂ =>
    rw [ha,huuid] at hadm
    cases r with
    | error e => exact hadm
    | ok p =>
      obtain ⟨i,target⟩:=p
      have ht:=(admitRequest_ok ha).2.1
      have hbill:=prepareBilling_pending s₂ uuid m.id (s₂.initiatorID i)
      dsimp only at hadm ⊢
      cases hb : s₂.prepareBilling uuid m.id (s₂.initiatorID i) with
      | mk billed s₃ =>
        rw [hb,hadm] at hbill
        cases billed with
        | error e => exact hbill
        | ok _ =>
          dsimp only at hbill ⊢
          cases hr : s₃.authorizeRelayTicket uuid (s₂.initiatorID i) m.id with
          | mk granted s₄ =>
            have hauth : s₄.pending=s₃.pending := by
              rw [show s₄=(s₃.authorizeRelayTicket uuid (s₂.initiatorID i) m.id).2 by rw [hr]]
              rfl
            cases granted with
            | false => exact hauth.trans hbill
            | true =>
              dsimp only
              rw [answerRelay_pending]
              refine (storePendingRelay_pending _ ht raddr raddr uuid _).trans ?_
              show s₄.pending.store _=s.pending.store _
              rw [hauth,hbill]
              rfl

theorem handleRequestRelayTCP_pending (s : Server) (m : RequestRelay) (raddr : Addr) (hint : ConnType) (hh : hint ≠ .udp)
    (t : Server) (ht : s.arrive hint raddr=t) :
    (t.handleRequestRelayTCP m raddr hint).server.pending=s.afterRequest (s.requestedSession hint m raddr) := by
  have huuid:=relayUUID_pending t m.uuid
  have harrive:=arrive_pending s hint raddr
  unfold handleRequestRelayTCP requestedSession
  simp only [if_neg hh]
  rw [ht] at harrive ⊢
  generalize hu : t.relayUUID m.uuid=u at huuid
  obtain ⟨uuid,s₁⟩:=u
  have hadm:=admitRequest_pending s₁ raddr m.token 0 m.id
  dsimp only at huuid ⊢
  cases ha : s₁.admitRequest raddr m.token 0 m.id with
  | mk r s₂ =>
    rw [ha,huuid,harrive] at hadm
    cases r with
    | error e => exact hadm
    | ok p =>
      obtain ⟨i,target⟩:=p
      have htarget:=(admitRequest_ok ha).2.1
      dsimp only at hadm ⊢
      cases hr : s₂.authorizeRelayTicket uuid (s₂.initiatorID i) m.id with
      | mk granted s₃ =>
        have hauth : s₃.pending=s₂.pending := by
          rw [show s₃=(s₂.authorizeRelayTicket uuid (s₂.initiatorID i) m.id).2 by rw [hr]]
          rfl
        cases granted with
        | false => exact hauth.trans hadm
        | true =>
          dsimp only
          rw [answerRelay_pending]
          refine (storePendingRelay_pending _ htarget raddr _ uuid _).trans ?_
          rw [hauth,hadm]
          rfl

theorem handleRelayResponseForward_pending (s : Server) (rr : RelayResponseIn) (sender : Addr) :
    (s.handleRelayResponseForward rr sender).server.pending=s.pending := by
  unfold handleRelayResponseForward
  split
  · rfl
  · rename_i a _
    split
    · rfl
    · dsimp only
      have hsame:=recoverUUID_same (s := s) rr (s.pendingOf rr a)
        (s.resolveTarget rr (s.pendingOf rr a) sender) a
      generalize s.recoverUUID rr (s.pendingOf rr a) (s.resolveTarget rr (s.pendingOf rr a) sender) a=u at hsame
      obtain ⟨recovered,s₁⟩:=u
      have hpend : s₁.pending=s.pending := by rcases hsame with rfl | rfl <;> rfl
      cases recovered with
      | panic => exact hpend
      | uuid uuid =>
        dsimp only
        split
        · exact hpend
        · split
          · rename_i s₂ hq
            rw [show s₂=(s₁.authorizeRelayTicket _ _ _).2 from (congrArg Prod.snd hq).symm]
            exact hpend
          · rename_i s₂ hq
            refine (peerPublicKey_pending s₂ _ _).trans ?_
            rw [show s₂=(s₁.authorizeRelayTicket _ _ _).2 from (congrArg Prod.snd hq).symm]
            exact hpend

theorem livingWSAt_setPKIfEmpty (s : Server) (id : PeerID) (pk : Bytes) (ip : IP) :
    ({s with peers := s.peers.setPKIfEmpty id pk}.livingWSAt ip).length=(s.livingWSAt ip).length := by
  unfold livingWSAt PeerMap.findAllByIP PeerMap.setPKIfEmpty
  simp only [filter_map,length_map,filter_filter]
  congr 2
  funext e
  simp only [Function.comp_apply]
  split <;> rfl

theorem Reaches.signedTargetKey {addr : Addr} (h : s.Reaches addr) (id : PeerID) (target : Option Entry) :
    (s.signedTargetKey id target).2.Reaches addr := by
  unfold Server.signedTargetKey peerPublicKey
  split
  · exact h
  · split
    · exact h
    · split
      · split
        · exact h
        · refine ⟨h.1,h.2.imp_right (Or.imp_right ?_)⟩
          intro hlen
          rw [livingWSAt_setPKIfEmpty]
          exact hlen
      · exact h

theorem deliverRelayResponse_of_reaches {addr : Addr} (h : s.Reaches addr) (initiatorID : PeerID) :
    ∃ dest, (dest=.conn addr ∨ dest=.udp addr) ∧ s.deliverRelayResponse addr initiatorID=some dest := by
  obtain ⟨hdel,hway⟩:=h
  by_cases htcp : (s.tcpPunchConns.load addr).isSome=true
  · exact ⟨.conn addr,.inl rfl,by simp [deliverRelayResponse,forwardToInitiator,htcp,hdel]⟩
  · by_cases hws : s.wsPunchConns addr=true
    · exact ⟨.conn addr,.inl rfl,by simp [deliverRelayResponse,forwardToInitiator,htcp,hws,hdel]⟩
    · have hlen:=(hway.resolve_left htcp).resolve_left hws
      have hnone : s.forwardToInitiator addr=none := by
        unfold forwardToInitiator
        rw [if_neg (by simp [htcp]),if_neg hws]
        split
        · rename_i e he
          simp [he] at hlen
        · rfl
      exact ⟨.udp addr,.inr rfl,by simp [deliverRelayResponse,hnone,sendUDP,hdel]⟩

theorem handleRelayResponseForward_delivers {stored : List PendingUUID} {r : PendingUUID} {transport : ConnType}
    {rr : RelayResponseIn} {sender : Addr} (h : Indexed stored s.pending) (ht : r.targetID≠"")
    (ha : AnswersSession r rr) (hc : Clear s stored r transport rr sender) :
    DeliveredTo r (s.handleRelayResponseForward rr sender).sent := by
  obtain ⟨e,hload,huuid,hinit,hadv⟩:=hc.there
  have hkey : e.key=r.key := h.filed r.key e hload
  obtain ⟨htarget,hcorr⟩ : e.targetID=r.targetID ∧ e.correlationAddr=r.correlationAddr := by
    simpa [PendingUUID.key] using hkey
  have hanswers : AnswersSession e rr := ⟨hadv ▸ ha.address,htarget ▸ ha.target,huuid ▸ ha.uuid⟩
  have hun : Unshared stored e rr := by
    have hun:=hc.unshared
    unfold Unshared at hun ⊢
    rw [huuid,hadv,htarget,hkey]
    exact hun
  have hpending:=pendingOf_own h (hkey ▸ hload) hanswers hun
  have hresolve : s.resolveTarget rr (some e) sender=r.targetID := by
    unfold resolveTarget
    rcases ha.target with hid | hid
    · rw [if_pos (hid ▸ ht),hid]
    · simp [hid,htarget,ht]
  have hrecover : s.recoverUUID rr (some e) r.targetID e.advertisedAddr=(.uuid r.uuid,s) := by
    unfold recoverUUID
    rcases ha.uuid with hu | hu
    · rw [if_pos (hu ▸ hc.named.1),hu]
    · simp [hu,huuid,hc.named.1]
  have hinitiator : s.resolveInitiator (some e) e.advertisedAddr=r.initiatorID := by
    rw [resolveInitiator_pending (hinit ▸ hc.named.2),hinit]
  have hauth : s.authorizeRelayTicket r.uuid r.initiatorID r.targetID =
      (true,(s.authorizeRelayTicket r.uuid r.initiatorID r.targetID).2) := Prod.ext hc.ticket rfl
  unfold handleRelayResponseForward
  rw [hanswers.address]
  simp only [hc.source,hpending,hresolve,hrecover,hinitiator,ht,hc.named.2,or_self,if_false,Bool.false_eq_true]
  rw [hauth]
  dsimp only
  have hreach : (s.authorizeRelayTicket r.uuid r.initiatorID r.targetID).2.Reaches r.correlationAddr := hc.reached
  generalize (s.authorizeRelayTicket r.uuid r.initiatorID r.targetID).2=s₂ at hreach
  obtain ⟨dest,hdest,hsent⟩:=deliverRelayResponse_of_reaches
    (hreach.signedTargetKey r.targetID (s₂.peers.get r.targetID)) r.initiatorID
  simp only [Option.map_some,Option.getD_some,hcorr,hsent,Option.toList_some]
  exact ⟨dest,_,hdest,rfl,rfl⟩

theorem requestedSession_target {transport : ConnType} {m : RequestRelay} {raddr : Addr} {x : PendingUUID}
    (h : s.requestedSession transport m raddr=some x) : x.targetID≠"" := by
  unfold requestedSession at h
  generalize (s.arrive transport raddr).relayUUID m.uuid=u at h
  obtain ⟨uuid,s₁⟩:=u
  dsimp only at h
  cases ha : s₁.admitRequest raddr m.token 0 m.id with
  | mk r s₂ =>
    rw [ha] at h
    cases r with
    | error e => cases h
    | ok p =>
      have hne:=(admitRequest_ok ha).2.1
      dsimp only at h
      split at h
      · cases h
      · split at h
        · cases h
        · cases h
          exact hne

theorem requestRelay_pending (s : Server) (transport : ConnType) (m : RequestRelay) (raddr : Addr) :
    (s.handle (.requestRelay transport m raddr)).server.pending=s.afterRequest (s.requestedSession transport m raddr) := by
  cases transport with
  | udp => exact handleRequestRelay_pending s m raddr
  | tcp => exact handleRequestRelayTCP_pending s m raddr .tcp (by decide) _ rfl
  | ws => exact handleRequestRelayTCP_pending s m raddr .ws (by decide) _ rfl

theorem relayResponse_pending (s : Server) (transport : ConnType) (rr : RelayResponseIn) (sender : Addr) :
    (s.handle (.relayResponse transport rr sender)).server.pending=s.pending := by
  cases transport with
  | udp => rfl
  | tcp => exact (handleRelayResponseForward_pending _ rr sender).trans (arrive_pending s .tcp sender)
  | ws => exact (handleRelayResponseForward_pending _ rr sender).trans (arrive_pending s .ws sender)

end Server

theorem Indexed.storeAll {stored : List PendingUUID} {p : Pending} (h : Indexed stored p) (xs : List PendingUUID) :
    Indexed (xs.reverse++stored) (xs.foldl Pending.store p) := by
  induction xs generalizing stored p with
  | nil => exact h
  | cons x xs ih =>
    have hrest:=ih (h.store x)
    rw [reverse_cons,append_assoc]
    exact hrest

namespace RelaySetup

structure Kept (sys : RelaySetup) : Prop where
  indexed : Indexed sys.stored sys.server.pending
  target : ∀ r∈sys.requests,r.targetID≠""

theorem Fresh.kept {sys : RelaySetup} (h : sys.Fresh) : sys.Kept := by
  refine ⟨?_,?_⟩
  · rw [h.pending,h.stored]
    exact empty_indexed
  · intro r hr
    rw [h.requests] at hr
    cases hr

theorem Kept.step {sys sys' : RelaySetup} {a : RelayAction} (h : sys.Kept) (hs : sys.step a=some sys') : sys'.Kept := by
  unfold RelaySetup.step at hs
  split at hs
  · cases hs
  · cases a with
    | requestRelay transport m raddr =>
      cases hs
      have hpending:=Server.requestRelay_pending sys.server transport m raddr
      cases hx : sys.server.requestedSession transport m raddr with
      | none =>
        rw [hx] at hpending
        refine ⟨?_,h.target⟩
        show Indexed sys.stored _
        rw [hpending]
        exact h.indexed
      | some x =>
        rw [hx] at hpending
        refine ⟨?_,?_⟩
        · show Indexed (x::sys.stored) _
          rw [hpending]
          exact h.indexed.store x
        · intro r hr
          rcases mem_cons.mp hr with rfl | hr
          · exact Server.requestedSession_target hx
          · exact h.target r hr
    | relayResponse transport rr sender =>
      cases hs
      refine ⟨?_,h.target⟩
      show Indexed sys.stored _
      rw [Server.relayResponse_pending]
      exact h.indexed
    | evict key =>
      cases hs
      exact ⟨h.indexed.evict sys.server.now key,h.target⟩
    | elsewhere o =>
      cases hs
      refine ⟨?_,h.target⟩
      show Indexed ((o.stores sys.server).reverse++sys.stored) (o.change sys.server).pending
      rw [o.pending]
      exact h.indexed.storeAll (o.stores sys.server)

theorem Kept.delivers {sys : RelaySetup} {a : RelayAction} (h : sys.Kept) (hok : sys.Undisturbed a) : sys.StepDelivers a := by
  cases a with
  | relayResponse transport rr sender =>
    intro r hr ha
    have hclear:=hok r hr ha
    have hindexed : Indexed sys.stored (sys.server.arrive transport sender).pending := by
      rw [Server.arrive_pending]
      exact h.indexed
    have hsent:=Server.handleRelayResponseForward_delivers hindexed (h.target r hr) ha hclear
    cases transport with
    | udp => exact absurd rfl hclear.transport
    | tcp => exact hsent
    | ws => exact hsent
  | requestRelay | evict | elsewhere => trivial

/-- In every run whose responses find their sessions unshared and their initiators
reachable, each goes to the initiator whose request it answers. -/
theorem responses_delivered_when_undisturbed (start : RelaySetup) (as : List RelayAction) (hstart : start.Fresh)
    (hok : Along RelaySetup.step Undisturbed start as) : Along RelaySetup.step StepDelivers start as :=
  Along.of_invariant Kept (fun _ _ _ h _ hs => h.step hs) (fun _ _ h ho => h.delivers ho) hstart.kept hok

instance (stored : List PendingUUID) (e : PendingUUID) (rr : RelayResponseIn) : Decidable (Unshared stored e rr) :=
  inferInstanceAs (Decidable (if rr.uuid≠"" then ∀ x∈stored,x.uuid=e.uuid → x.key=e.key
    else if rr.id≠"" then ∀ x∈stored,x.targetID=e.targetID →
      x.advertisedAddr=e.advertisedAddr ∨ x.correlationAddr=e.advertisedAddr → x.key=e.key
    else ∀ x∈stored,x.advertisedAddr=e.advertisedAddr ∨ x.correlationAddr=e.advertisedAddr → x.key=e.key))

instance (e : PendingUUID) (rr : RelayResponseIn) : Decidable (AnswersSession e rr) :=
  decidable_of_iff (rr.socketAddr=some e.advertisedAddr ∧ (rr.id=e.targetID ∨ rr.id="") ∧ (rr.uuid=e.uuid ∨ rr.uuid=""))
    ⟨fun ⟨a,t,u⟩ => ⟨a,t,u⟩,fun ⟨a,t,u⟩ => ⟨a,t,u⟩⟩

instance (s : Server) (addr : Addr) : Decidable (s.Reaches addr) :=
  inferInstanceAs (Decidable (_ ∧ _))

instance (s : Server) (stored : List PendingUUID) (r : PendingUUID) (transport : ConnType) (rr : RelayResponseIn)
    (sender : Addr) : Decidable (Clear s stored r transport rr sender) :=
  decidable_of_iff (transport ≠ .udp ∧ (r.uuid≠"" ∧ r.initiatorID≠"") ∧
      (∃ e∈s.pendingRelayUUIDs.load r.key, e.uuid=r.uuid ∧ e.initiatorID=r.initiatorID ∧
        e.advertisedAddr=r.advertisedAddr) ∧ Unshared stored r rr ∧ s.refusesSource rr sender=false ∧
      (s.registry.authorize s.now r.uuid r.initiatorID r.targetID).1=true ∧ s.Reaches r.correlationAddr)
    ⟨fun ⟨a,b,c,d,e,f,g⟩ => ⟨a,b,c,d,e,f,g⟩,fun ⟨a,b,c,d,e,f,g⟩ => ⟨a,b,c,d,e,f,g⟩⟩

instance (sys : RelaySetup) : (a : RelayAction) → Decidable (sys.Undisturbed a)
  | .relayResponse transport rr sender => inferInstanceAs (Decidable (∀ r∈sys.requests,AnswersSession r rr →
      Clear (sys.server.arrive transport sender) sys.stored r transport rr sender))
  | .requestRelay .. | .evict _ | .elsewhere _ => isTrue trivial

def wsEntry (id : PeerID) (addr : Addr) : Entry :=
  ⟨id,[],[1],some addr,none,0,.ws,some addr,0,false⟩

def viewerAddr (port : ℕ) : Addr := ⟨homeAddr.ip,port⟩

def twoViewers : RelaySetup where
  server := {twoDevices.server with
    peers := [wsEntry "viewer-1" (viewerAddr 50001),wsEntry "viewer-2" (viewerAddr 50002),
      liveEntry "device-8" officeAddr]}
  requests := []
  stored := []
  stopped := false

def viewerRequest (uuid : Relay.UUID) (port : ℕ) : RelayAction :=
  .requestRelay .ws ⟨"device-8",uuid,[],[]⟩ (viewerAddr port)

def deviceAnswer (uuid : Relay.UUID) : RelayAction :=
  .relayResponse .tcp ⟨some (viewerAddr 0),"device-8",uuid⟩ officeAddr

def answeredByUUID : List RelayAction :=
  [viewerRequest "a0f8f3c1" 50001,viewerRequest "b1e7e2d0" 50002,deviceAnswer "b1e7e2d0",deviceAnswer "a0f8f3c1"]

theorem answeredByUUID_delivered : Along RelaySetup.step StepDelivers twoViewers answeredByUUID :=
  responses_delivered_when_undisturbed twoViewers answeredByUUID ⟨rfl,rfl,rfl⟩ (by decide +kernel)

def forwarded (sys : RelaySetup) : List RelayAction → List (List Sent)
  | [] => []
  | a::as => (match a with
      | .relayResponse transport rr sender => [(sys.server.handle (.relayResponse transport rr sender)).sent]
      | _ => [])++((sys.step a).map fun t => forwarded t as).getD []

def answeredByAddress : List RelayAction :=
  [viewerRequest "a0f8f3c1" 50001,viewerRequest "b1e7e2d0" 50002,deviceAnswer "",deviceAnswer ""]

def firstSession : PendingUUID :=
  ⟨"a0f8f3c1","device-8","viewer-1",viewerAddr 50001,viewerAddr 0,0⟩

def secondResponse : RelayResponse :=
  ⟨"",some officeAddr,"b1e7e2d0",twoViewers.server.getRelayServer,some ⟨"device-8",[1]⟩⟩

def toSecondViewer : Sent := .answer (.conn (viewerAddr 50002)) (.relayResponse secondResponse)

/-- Without UUIDs both answers reach the second viewer, and none the first. -/
theorem shared_address_crosses :
    (¬ ∀ (start : RelaySetup) (as : List RelayAction), start.Fresh → Along RelaySetup.step StepDelivers start as) ∧
      forwarded twoViewers answeredByAddress=[[toSecondViewer],[toSecondViewer]] := by
  refine ⟨?_,by decide +kernel⟩
  intro h
  have hrun : Along RelaySetup.step StepDelivers twoViewers
      ([viewerRequest "a0f8f3c1" 50001,viewerRequest "b1e7e2d0" 50002]++[deviceAnswer "",deviceAnswer ""]) :=
    h twoViewers answeredByAddress ⟨rfl,rfl,rfl⟩
  obtain ⟨sys,hs⟩ : ∃ sys, exec RelaySetup.step twoViewers
      [viewerRequest "a0f8f3c1" 50001,viewerRequest "b1e7e2d0" 50002]=some sys :=
    Option.isSome_iff_exists.mp (by decide +kernel)
  have hstate : (exec RelaySetup.step twoViewers [viewerRequest "a0f8f3c1" 50001,viewerRequest "b1e7e2d0" 50002]).map
      (fun sys => (decide (firstSession∈sys.requests),forwarded sys [deviceAnswer ""]))=some (true,[[toSecondViewer]]) := by
    decide +kernel
  rw [hs] at hstate
  simp only [Option.map_some,Option.some.injEq,Prod.mk.injEq,decide_eq_true_eq] at hstate
  obtain ⟨hmem,hsent⟩:=hstate
  obtain ⟨dest,resp,-,hto,huuid⟩:=(hrun.after hs).1 firstSession hmem (by decide)
  have hsecond : [Sent.answer dest (.relayResponse resp)]=[toSecondViewer] := by
    rw [← hto]
    exact (List.cons.inj hsent).1
  cases hsecond
  exact absurd huuid (by decide)

end RelaySetup

end BetterDesk.Signal
