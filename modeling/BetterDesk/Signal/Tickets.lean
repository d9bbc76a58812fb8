import BetterDesk.Signal.Runs

/-! # What tickets and pending sessions go back to -/

namespace BetterDesk.Signal
open Db Text Option List

/-- Tickets and pending sessions with an initiator are for pairs in `R`, and a
session is filed under its own target. -/
structure Backed (R : PeerID → PeerID → Prop) (s : Server) : Prop where
  issued : ∀ x∈s.registry.issued,R x.initiatorID x.targetID
  target : ∀ x∈s.pendingRelayUUIDs,x.2.targetID=x.1.1
  pairs : ∀ x∈s.pendingRelayUUIDs,x.2.initiatorID≠"" → R x.2.initiatorID x.2.targetID
  byUUID : ∀ x∈s.pendingRelayByUUID,x.2.initiatorID≠"" → R x.2.initiatorID x.2.targetID
  byAdvertised : ∀ x∈s.pendingRelayByAdvertised,
    x.2.initiatorID≠"" → R x.2.initiatorID x.2.targetID

namespace Backed
variable {R R' : PeerID → PeerID → Prop} {s s' : Server}

theorem mono (h : Backed R s) (hR : ∀ i t, R i t → R' i t) : Backed R' s :=
  ⟨fun x hx => hR _ _ (h.issued x hx),h.target,fun x hx hi => hR _ _ (h.pairs x hx hi),
    fun x hx hi => hR _ _ (h.byUUID x hx hi),fun x hx hi => hR _ _ (h.byAdvertised x hx hi)⟩

theorem shrink (h : Backed R s) (hi : s'.registry.issued=s.registry.issued)
    (hp : ∀ x∈s'.pendingRelayUUIDs,x∈s.pendingRelayUUIDs)
    (hu : ∀ x∈s'.pendingRelayByUUID,x∈s.pendingRelayByUUID)
    (ha : ∀ x∈s'.pendingRelayByAdvertised,x∈s.pendingRelayByAdvertised) : Backed R s' :=
  ⟨fun x hx => h.issued x (hi ▸ hx),fun x hx => h.target x (hp x hx),
    fun x hx => h.pairs x (hp x hx),fun x hx => h.byUUID x (hu x hx),
    fun x hx => h.byAdvertised x (ha x hx)⟩

theorem same (h : Backed R s) (hi : s'.registry=s.registry) (hp : s'.pendingRelayUUIDs=s.pendingRelayUUIDs)
    (hu : s'.pendingRelayByUUID=s.pendingRelayByUUID)
    (ha : s'.pendingRelayByAdvertised=s.pendingRelayByAdvertised) : Backed R s' :=
  h.shrink (congrArg _ hi) (fun _ hx => hp ▸ hx) (fun _ hx => hu ▸ hx) (fun _ hx => ha ▸ hx)

theorem keeps (h : Backed R s) (k : Server.Keeps s s') : Backed R s' := by
  have hp : s'.pendingRelayUUIDs=s.pendingRelayUUIDs := (congrArg Server.pendingRelayUUIDs k.rest :)
  have hu : s'.pendingRelayByUUID=s.pendingRelayByUUID :=
    (congrArg Server.pendingRelayByUUID k.rest :)
  have ha : s'.pendingRelayByAdvertised=s.pendingRelayByAdvertised :=
    (congrArg Server.pendingRelayByAdvertised k.rest :)
  exact h.shrink k.issued (fun x hx => hp ▸ hx) (fun x hx => hu ▸ hx) (fun x hx => ha ▸ hx)

end Backed

namespace Server
variable {R : PeerID → PeerID → Prop} {s : Server}

variable {entry : PendingUUID} {i t : PeerID}

theorem authorizeRelayTicket_backed (h : Backed R s) (uuid : Relay.UUID) (hR : R i t) :
    Backed R (s.authorizeRelayTicket uuid i t).2 := by
  refine ⟨?_,h.target,h.pairs,h.byUUID,h.byAdvertised⟩
  intro x hx
  rcases Relay.Registry.authorize_cases s.registry s.now uuid i t with ⟨-,hsub⟩ | ⟨-,heq⟩
  · exact h.issued x (hsub.issued ▸ hx)
  · unfold authorizeRelayTicket at hx
    dsimp only at hx
    rw [heq] at hx
    rcases mem_append.mp hx with hx | hx
    · exact h.issued x hx
    · rw [mem_singleton.mp hx]
      exact hR

theorem mem_dropUUID {m : SyncMap Relay.UUID PendingUUID} {old : Option PendingUUID}
    {x : Relay.UUID × PendingUUID} (h : x∈dropUUID m old entry) : x∈m := by
  unfold dropUUID at h
  split at h
  · exact h
  · split at h
    · exact SyncMap.mem_delete h
    · exact h

theorem mem_dropAdvertised {m : SyncMap PendingKey PendingUUID} {old : Option PendingUUID}
    {x : PendingKey × PendingUUID} (h : x∈dropAdvertised m old entry) : x∈m := by
  unfold dropAdvertised at h
  split at h
  · exact h
  · split at h
    · exact SyncMap.mem_delete h
    · exact h

theorem mem_indexUUID {m : SyncMap Relay.UUID PendingUUID}
    {x : Relay.UUID × PendingUUID} (h : x∈indexUUID m entry) : x=(entry.uuid,entry) ∨ x∈m := by
  unfold indexUUID at h
  split at h
  · exact .inr h
  · exact SyncMap.mem_store h

theorem mergePending_backed (old : Option PendingUUID) (entry : PendingUUID)
    (ht : entry.targetID≠"") (hentry : R entry.initiatorID entry.targetID)
    (hold : ∀ o, old=some o → o.targetID=entry.targetID ∧ (o.initiatorID≠"" → R o.initiatorID o.targetID)) :
    (mergePending old entry).targetID=entry.targetID ∧ ((mergePending old entry).initiatorID≠"" →
        R (mergePending old entry).initiatorID (mergePending old entry).targetID) := by
  cases old with
  | none => exact ⟨rfl,fun _ => hentry⟩
  | some o =>
    obtain ⟨htarget,hR⟩:=hold o rfl
    simp only [mergePending,if_neg ht,true_and]
    intro hne
    split at hne
    · rename_i hi
      rw [if_pos hi,← htarget]
      exact hR hne
    · rename_i hi
      rw [if_neg hi]
      exact hentry

theorem storePendingRelay_backed (h : Backed R s) (ht : t≠"") (corr adv : Addr) (uuid : Relay.UUID) (hR : R i t) :
    Backed R (s.storePendingRelay t corr adv uuid i) := by
  unfold storePendingRelay
  rw [if_neg fun hn => ht hn.1]
  dsimp only
  obtain ⟨htarget,hback⟩:=mergePending_backed (R := R)
    (s.pendingRelayUUIDs.load (t,corr)) ⟨uuid,t,i,corr,adv,s.now⟩ ht hR
    fun o ho => ⟨h.target _ (SyncMap.mem_of_load ho),h.pairs _ (SyncMap.mem_of_load ho)⟩
  refine ⟨h.issued,?_,?_,?_,?_⟩
  · intro x hx
    rcases SyncMap.mem_store hx with rfl | hx
    · exact htarget
    · exact h.target x hx
  · intro x hx hi
    rcases SyncMap.mem_store hx with rfl | hx
    · exact hback hi
    · exact h.pairs x hx hi
  · intro x hx hi
    rcases mem_indexUUID hx with rfl | hx
    · exact hback hi
    · exact h.byUUID x (mem_dropUUID hx) hi
  · intro x hx hi
    rcases SyncMap.mem_store hx with rfl | hx
    · exact hback hi
    · exact h.byAdvertised x (mem_dropAdvertised hx) hi

theorem peerPublicKey_backed (h : Backed R s) (id : PeerID) (entry : Option Entry) :
    Backed R (s.peerPublicKey id entry).2 := by
  unfold peerPublicKey
  split
  · exact h
  · split
    · exact h
    · split
      · split
        · exact h
        · exact h.same rfl rfl rfl rfl
      · exact h

theorem signedTargetKey_backed (h : Backed R s) (id : PeerID) (entry : Option Entry) :
    Backed R (s.signedTargetKey id entry).2 := peerPublicKey_backed h id entry

theorem newUUID_backed (h : Backed R s) : Backed R s.newUUID.2 := h.same rfl rfl rfl rfl

theorem relayUUID_backed (h : Backed R s) (uuid : Relay.UUID) : Backed R (s.relayUUID uuid).2 := by
  unfold relayUUID
  split
  · exact newUUID_backed h
  · exact h

theorem prepareBilling_backed (h : Backed R s) (uuid : Relay.UUID) (t i : PeerID) :
    Backed R (s.prepareBilling uuid t i).2 := by
  unfold prepareBilling
  split
  · exact h
  · split
    · exact h
    · exact h.same rfl rfl rfl rfl

theorem arrive_backed (h : Backed R s) (transport : ConnType) (addr : Addr) : Backed R (s.arrive transport addr) := by
  cases transport with
  | udp => exact h
  | tcp =>
    unfold arrive openTCP
    dsimp only
    split
    · exact h
    · exact h.same rfl rfl rfl rfl
  | ws => exact h.same rfl rfl rfl rfl

theorem forcesRelay_backed (h : Backed R s) (m : PunchHoleRequest) (hairpin : Bool) (i t : PeerID) :
    Backed R (s.forcesRelay m hairpin i t).2 := by
  unfold forcesRelay
  split
  · exact h
  · exact h.same rfl rfl rfl rfl

theorem lanFallbackResponse_backed (h : Backed R s) (t : PeerID) (target : Entry) (relay : Bytes) :
    Backed R (s.lanFallbackResponse t target relay).2 := signedTargetKey_backed h t (some target)

theorem lanExchange_backed (h : Backed R s) (t : PeerID) (target : Entry) (i : PeerID) (raddr : Addr)
    (transport : ConnType) (relay : Bytes) (dest : Dest) :
    Backed R (s.lanExchange t target i raddr transport relay dest).server := by
  have hf:=lanFallbackResponse_backed h t target relay
  unfold lanExchange
  dsimp only
  split
  · exact hf.same rfl rfl rfl rfl
  · exact hf.same rfl rfl rfl rfl

theorem answerPunch_backed (h : Backed R s) (m : PunchHoleRequest) (target : Entry) (route : Route)
    (raddr : Addr) (overUDP : Bool) : Backed R (s.answerPunch m target route raddr overUDP).2 := by
  have hk:=signedTargetKey_backed h m.id (some target)
  unfold answerPunch
  dsimp only
  split
  · exact hk.same rfl rfl rfl rfl
  · exact hk

theorem answerRelay_backed (h : Backed R s) (target : Entry) (uuid : Relay.UUID) (relay : Bytes)
    (dest : Dest) : Backed R (s.answerRelay target uuid relay dest).2 := by
  have hk:=signedTargetKey_backed h target.id (some target)
  unfold answerRelay
  dsimp only
  split <;> exact hk

theorem targetAcceptsInboundSession_ne (h : s.targetAcceptsInboundSession t=true) : t≠"" := by
  rintro rfl
  simp only [targetAcceptsInboundSession,if_true,Bool.false_eq_true] at h

theorem get_id {ps : PeerMap} {id : PeerID} {e : Entry} (h : ps.get id=some e) : e.id=id := by
  simpa using List.find?_some h

theorem admitRequest_backed (h : Backed R s) (raddr : Addr) (token : Bytes) (port : ℤ) (t : PeerID) :
    Backed R (s.admitRequest raddr token port t).2 := by
  have hreq:=h.keeps (requireAuthorizedInitiator_keeps s raddr token port)
  unfold admitRequest
  split
  · rename_i s' heq
    rw [heq] at hreq
    exact hreq
  · rename_i i s' heq
    rw [heq] at hreq
    split
    · exact hreq
    · split <;> exact hreq

theorem admitRequest_ok {raddr : Addr} {token : Bytes} {port : ℤ} {i : Initiator}
    {target : Entry} {s' : Server} (h : s.admitRequest raddr token port t=(.ok (i,target),s')) :
    s.passes raddr token port t=some (s'.initiatorID i,t) ∧ t≠"" ∧ target.id=t := by
  unfold admitRequest at h
  unfold passes
  split at h
  · cases h
  · rename_i i' s₁ heq
    split at h
    · cases h
    · rename_i target' hlive
      split at h
      · cases h
      · rename_i hacc
        cases h
        simp only [Bool.or_eq_true,Bool.not_eq_true',not_or,Bool.not_eq_false] at hacc
        simp only [heq,hacc.2,if_true,true_and]
        exact ⟨targetAcceptsInboundSession_ne hacc.2,get_id (filter_eq_some_iff.mp hlive).1⟩

theorem routePunch_backed (h : Backed R s) (m : PunchHoleRequest) (target : Entry) (raddr : Addr)
    (ht : m.id≠"") (hR : R i m.id) : Backed R (s.routePunch m target raddr i).2 := by
  unfold routePunch
  dsimp only
  refine forcesRelay_backed (storePendingRelay_backed ?_ ht raddr raddr "" hR) m _ i m.id
  exact h.same rfl rfl rfl rfl

theorem sendRelayResponse_backed (h : Backed R s) (m : PunchHoleRequest) {target : Entry}
    (raddr : Addr) (relay : Bytes) (ht : target.id≠"") (hR : R i target.id) :
    Backed R (s.sendRelayResponse m target raddr relay i).server := by
  have hauth:=authorizeRelayTicket_backed (newUUID_backed h) s.newUUID.1 hR
  unfold sendRelayResponse
  dsimp only
  split
  · rename_i s' heq
    rw [heq] at hauth
    exact hauth
  · rename_i s' heq
    rw [heq] at hauth
    have hk:=signedTargetKey_backed hauth target.id (some target)
    split
    · exact hk
    · exact storePendingRelay_backed hk ht raddr raddr _ hR

theorem handlePunchHoleRequest_backed (h : Backed R s) (m : PunchHoleRequest) (raddr : Addr)
    (hR : ∀ i t, s.passes raddr m.token m.udpPort m.id=some (i,t) → R i t) :
    Backed R (s.handlePunchHoleRequest m raddr).server := by
  have hadm:=admitRequest_backed h raddr m.token m.udpPort m.id
  unfold handlePunchHoleRequest
  split
  · exact h
  · split
    · rename_i r s' heq
      rw [heq] at hadm
      exact hadm
    · rename_i i target s' heq
      rw [heq] at hadm
      obtain ⟨hpass,ht,hid⟩:=admitRequest_ok heq
      have hpair:=hR _ _ hpass
      split
      · exact hadm
      · have hroute:=routePunch_backed hadm m target raddr ht hpair
        dsimp only
        split
        · exact sendRelayResponse_backed hroute m raddr _ (hid ▸ ht) (hid ▸ hpair)
        · split
          · exact lanExchange_backed hroute ..
          · exact answerPunch_backed hroute ..

theorem handlePunchHoleRequestTCP_backed (h : Backed R s) (m : PunchHoleRequest) (raddr : Addr)
    (hint : ConnType) (hR : ∀ i t, s.passes raddr m.token m.udpPort m.id=some (i,t) → R i t) :
    Backed R (s.handlePunchHoleRequestTCP m raddr hint).server := by
  have hadm:=admitRequest_backed h raddr m.token m.udpPort m.id
  unfold handlePunchHoleRequestTCP
  split
  · exact h
  · split
    · rename_i r s' heq
      rw [heq] at hadm
      exact hadm
    · rename_i i target s' heq
      rw [heq] at hadm
      obtain ⟨hpass,ht,-⟩:=admitRequest_ok heq
      have hroute:=routePunch_backed hadm m target raddr ht (hR _ _ hpass)
      dsimp only
      split
      · exact signedTargetKey_backed hroute m.id (some target)
      · split
        · exact lanExchange_backed hroute ..
        · exact answerPunch_backed hroute ..

theorem handleRequestRelay_backed (h : Backed R s) (m : RequestRelay) (raddr : Addr)
    (hR : ∀ i t, (s.relayUUID m.uuid).2.passes raddr m.token 0 m.id=some (i,t) → R i t) :
    Backed R (s.handleRequestRelay m raddr).server := by
  have hadm:=admitRequest_backed (relayUUID_backed h m.uuid) raddr m.token 0 m.id
  unfold handleRequestRelay
  dsimp only
  split
  · rename_i r s' heq
    rw [heq] at hadm
    exact hadm
  · rename_i i target s' heq
    rw [heq] at hadm
    obtain ⟨hpass,ht,-⟩:=admitRequest_ok heq
    have hpair:=hR _ _ hpass
    have hbill:=prepareBilling_backed hadm (s.relayUUID m.uuid).1 m.id (s'.initiatorID i)
    split
    · rename_i reason s₁ hb
      rw [hb] at hbill
      exact hbill
    · rename_i s₁ hb
      rw [hb] at hbill
      have hauth:=authorizeRelayTicket_backed hbill (s.relayUUID m.uuid).1 hpair
      split
      · rename_i s₂ ha
        rw [ha] at hauth
        exact hauth
      · rename_i s₂ ha
        rw [ha] at hauth
        refine answerRelay_backed (storePendingRelay_backed ?_ ht raddr raddr _ hpair) ..
        exact hauth.same rfl rfl rfl rfl

theorem handleRequestRelayTCP_backed (h : Backed R s) (m : RequestRelay) (raddr : Addr) (hint : ConnType)
    (hR : ∀ i t, (s.relayUUID m.uuid).2.passes raddr m.token 0 m.id=some (i,t) → R i t) :
    Backed R (s.handleRequestRelayTCP m raddr hint).server := by
  have hadm:=admitRequest_backed (relayUUID_backed h m.uuid) raddr m.token 0 m.id
  unfold handleRequestRelayTCP
  dsimp only
  split
  · rename_i r s' heq
    rw [heq] at hadm
    exact hadm
  · rename_i i target s' heq
    rw [heq] at hadm
    obtain ⟨hpass,ht,-⟩:=admitRequest_ok heq
    have hpair:=hR _ _ hpass
    have hauth:=authorizeRelayTicket_backed hadm (s.relayUUID m.uuid).1 hpair
    split
    · rename_i s₂ ha
      rw [ha] at hauth
      exact hauth
    · rename_i s₂ ha
      rw [ha] at hauth
      exact answerRelay_backed (storePendingRelay_backed hauth ht raddr _ _ hpair) ..

theorem recoverUUID_same (rr : RelayResponseIn) (p : Option PendingUUID) (t : PeerID) (a : Addr) :
    (s.recoverUUID rr p t a).2=s ∨ (s.recoverUUID rr p t a).2=s.newUUID.2 := by
  unfold recoverUUID
  dsimp only
  split
  · exact .inl rfl
  · split
    · exact .inl rfl
    · split
      · exact .inr rfl
      · split <;> exact .inl rfl

theorem pendingOf_backed (h : Backed R s) {rr : RelayResponseIn} {a : Addr} {p : PendingUUID}
    (hp : s.pendingOf rr a=some p) (hi : p.initiatorID≠"") : R p.initiatorID p.targetID := by
  unfold pendingOf at hp
  simp only [or_eq_some_iff] at hp
  rcases hp with ((hp | ⟨-,hp⟩) | ⟨-,hp⟩) | ⟨-,hp⟩
  · split at hp
    · exact h.byUUID _ (SyncMap.mem_of_load hp) hi
    · cases hp
  · split at hp
    · exact h.pairs _ (SyncMap.mem_of_load hp) hi
    · cases hp
  · unfold getPendingRelayByAdvertised at hp
    split at hp
    · exact h.byAdvertised _ (SyncMap.mem_of_load hp) hi
    · obtain ⟨x,hx,rfl⟩:=map_eq_some_iff.mp hp
      exact h.byAdvertised _ (mem_of_find?_eq_some hx) hi
  · split at hp
    · obtain ⟨x,hx,rfl⟩:=map_eq_some_iff.mp hp
      exact h.pairs _ (mem_of_find?_eq_some hx) hi
    · cases hp

def AnswersPending (s : Server) (rr : RelayResponseIn) (sender : Addr) : Prop :=
  ∃ a p, rr.socketAddr=some a ∧ s.pendingOf rr a=some p ∧ p.initiatorID≠"" ∧
    s.resolveTarget rr (some p) sender=p.targetID

/-- The response is not refused, is taken for some pair, and its UUID has neither
a live ticket nor a tombstone. -/
def opensTicket (s : Server) (rr : RelayResponseIn) (sender : Addr) : Bool :=
  match rr.socketAddr with
  | none => false
  | some a =>
    let pending:=s.pendingOf rr a
    let targetID:=s.resolveTarget rr pending sender
    !s.refusesSource rr sender && match (s.recoverUUID rr pending targetID a).1 with
      | .panic => false
      | .uuid uuid => s.registry.issues s.now uuid (s.resolveInitiator pending a) targetID

instance (s : Server) (rr : RelayResponseIn) (sender : Addr) :
    Decidable (AnswersPending s rr sender) :=
  decidable_of_iff (∃ a∈rr.socketAddr, ∃ p∈s.pendingOf rr a, p.initiatorID≠"" ∧
      s.resolveTarget rr (some p) sender=p.targetID)
    ⟨fun ⟨a,ha,p,hp,h⟩ => ⟨a,p,ha,hp,h⟩,fun ⟨a,p,ha,hp,h⟩ => ⟨a,ha,p,hp,h⟩⟩

theorem resolveInitiator_pending {p : PendingUUID} {a : Addr} (h : p.initiatorID≠"") :
    s.resolveInitiator (some p) a=p.initiatorID := if_pos h

theorem authorizeRelayTicket_old (h : Backed R s) {uuid : Relay.UUID} (hno : s.registry.issues s.now uuid i t=false) :
    Backed R (s.authorizeRelayTicket uuid i t).2 := by
  rcases Relay.Registry.authorize_cases s.registry s.now uuid i t with ⟨-,hsub⟩ | ⟨hyes,-⟩
  · exact h.shrink hsub.issued (fun _ hx => hx) (fun _ hx => hx) (fun _ hx => hx)
  · rw [hno] at hyes
    cases hyes

theorem handleRelayResponseForward_backed (h : Backed R s) (rr : RelayResponseIn) (sender : Addr)
    (hok : opensTicket s rr sender=true → AnswersPending s rr sender) :
    Backed R (s.handleRelayResponseForward rr sender).server := by
  unfold handleRelayResponseForward
  split
  · exact h
  · rename_i a ha
    split
    · exact h
    · rename_i href
      dsimp only
      have hsame:=recoverUUID_same (s := s) rr (s.pendingOf rr a)
        (s.resolveTarget rr (s.pendingOf rr a) sender) a
      split
      · rename_i s' heq
        rw [heq] at hsame
        rcases hsame with rfl | rfl
        · exact h
        · exact newUUID_backed h
      · rename_i uuid s' heq
        rw [heq] at hsame
        have hs' : Backed R s' ∧ s'.registry=s.registry ∧ s'.now=s.now ∧
            s'.resolveInitiator (s.pendingOf rr a) a=s.resolveInitiator (s.pendingOf rr a) a := by
          rcases hsame with rfl | rfl
          · exact ⟨h,rfl,rfl,rfl⟩
          · exact ⟨newUUID_backed h,rfl,rfl,rfl⟩
        obtain ⟨hback,hreg,hnow,hinit⟩:=hs'
        have hopens : opensTicket s rr sender=s.registry.issues s.now uuid
            (s.resolveInitiator (s.pendingOf rr a) a)
            (s.resolveTarget rr (s.pendingOf rr a) sender) := by
          simp [opensTicket,ha,heq,href]
        have hauth : Backed R (s'.authorizeRelayTicket uuid
            (s'.resolveInitiator (s.pendingOf rr a) a)
            (s.resolveTarget rr (s.pendingOf rr a) sender)).2 := by
          by_cases ho : opensTicket s rr sender=true
          · obtain ⟨a',p,ha',hp,hi,htarget⟩:=hok ho
            rw [ha] at ha'
            cases ha'
            refine authorizeRelayTicket_backed hback uuid ?_
            rw [hinit,hp,htarget,resolveInitiator_pending hi]
            exact pendingOf_backed h hp hi
          · rw [hopens] at ho
            refine authorizeRelayTicket_old hback ?_
            rw [hreg,hnow,hinit]
            exact Bool.eq_false_iff.mpr ho
        split
        · exact hback
        · split
          · rename_i s₂ hq
            rw [hq] at hauth
            exact hauth
          · rename_i s₂ hq
            rw [hq] at hauth
            exact signedTargetKey_backed hauth _ _

theorem handlePunchHoleSent_backed (h : Backed R s) (phs : PunchHoleSent) (sender : Addr)
    (viaUDP : Bool) : Backed R (s.handlePunchHoleSent phs sender viaUDP).server := by
  unfold handlePunchHoleSent
  split
  · exact h
  · exact (signedTargetKey_backed h _ _).same rfl rfl rfl rfl

theorem handleFetchLocalAddr_backed (h : Backed R s) (m : FetchLocalAddr) (raddr : Addr) :
    Backed R (s.handleFetchLocalAddr m raddr).server := by
  unfold handleFetchLocalAddr
  split <;> exact h

theorem completeLANAddr_backed (h : Backed R s) (m : LocalAddr) (sender : Addr) :
    Backed R (s.completeLANAddr m sender).server := by
  unfold completeLANAddr
  split
  · dsimp only
    split
    · exact h
    · split
      · exact h
      · split
        · exact h.same rfl rfl rfl rfl
        · split
          · exact h
          · split
            · exact h
            · split
              · exact h.same rfl rfl rfl rfl
              · refine signedTargetKey_backed ?_ m.id _
                exact h.same rfl rfl rfl rfl
  · exact h

theorem firePunchFallback_backed (h : Backed R s) (addr : Addr) : Backed R (s.firePunchFallback addr).server := by
  unfold firePunchFallback
  split
  · exact h
  · exact h.same rfl rfl rfl rfl

theorem fireLANFallback_backed (h : Backed R s) (key : PendingKey) : Backed R (s.fireLANFallback key).server := by
  unfold fireLANFallback
  split
  · exact h
  · exact h.same rfl rfl rfl rfl

theorem processIDChange_backed (h : Backed R s) (m : RegisterPk) : Backed R (s.processIDChange m).server := by
  unfold processIDChange
  split
  · exact h
  · split
    · exact h
    · exact h
    · split
      · exact h
      · split
        · exact h
        · split
          · exact h
          · split
            · split
              · exact h.same rfl rfl rfl rfl
              · exact h.same rfl rfl rfl rfl
            · exact h.same rfl rfl rfl rfl
          · exact h

theorem permitRegistration_backed (h : Backed R s) (id : PeerID) (existing : Option Row) :
    Backed R (s.permitRegistration id existing).2 := by
  unfold permitRegistration checkEnrollmentPermission
  split
  · exact h
  · split
    · exact h
    · dsimp only
      split
      · exact h.keeps (recordPendingEnrollment_keeps s id)
      · exact h

theorem admitRegistration_backed (h : Backed R s) (id : PeerID) : Backed R (s.admitRegistration id).2 := by
  unfold admitRegistration
  split
  · exact h.same rfl rfl rfl rfl
  · split
    · exact h
    · rename_i existing _
      have hp:=permitRegistration_backed h id existing
      split
      · rename_i s' heq
        rw [heq] at hp
        unfold dropUnlessPending
        dsimp only
        split
        · exact hp
        · exact hp.same rfl rfl rfl rfl
      · rename_i s' heq
        rw [heq] at hp
        split
        · exact hp
        · exact hp.keeps (revokeBannedPeerAccess_keeps s' id none)
        · exact hp

theorem bindTCPSessionPeer_backed (h : Backed R s) (addr : Addr) (id : PeerID) :
    Backed R (s.bindTCPSessionPeer addr id) := by
  unfold bindTCPSessionPeer
  split
  · exact h.same rfl rfl rfl rfl
  · exact h

theorem claimEntry_backed (h : Backed R s) (id : PeerID) (existing : Option Row) (m : RegisterPk)
    (addr : Addr) : Backed R (s.claimEntry id existing m addr).server := by
  have hput : ∀ (p : Prop) [Decidable p] (e : Entry),
      Backed R (if p then s else {s with peers := s.peers.put e}) := by
    intro p _ e
    split
    · exact h
    · exact h.same rfl rfl rfl rfl
  unfold claimEntry
  dsimp only
  split
  · exact hput _ _
  · split
    · exact hput _ _
    · have hbound := fun p [Decidable p] e => bindTCPSessionPeer_backed (hput p e) addr id
      exact (hbound _ _).same rfl rfl rfl rfl

theorem processRegisterPk_backed (h : Backed R s) (m : RegisterPk) (addr : Addr) :
    Backed R (s.processRegisterPk m addr).server := by
  unfold processRegisterPk
  split
  · exact h
  · split
    · exact processIDChange_backed h m
    · split
      · exact h
      · rename_i id _
        split
        · exact h
        · have hadm:=admitRegistration_backed h id
          split
          · rename_i r s' heq
            rw [heq] at hadm
            exact hadm
          · rename_i existing s' heq
            rw [heq] at hadm
            exact claimEntry_backed hadm id existing m addr

theorem handleRegisterPk_backed (h : Backed R s) (transport : ConnType) (m : RegisterPk)
    (addr : Addr) : Backed R (s.handleRegisterPk transport m addr).server := by
  cases transport with
  | udp => exact processRegisterPk_backed h m addr
  | tcp => exact processRegisterPk_backed (arrive_backed h .tcp addr) m addr
  | ws =>
    have hp:=processRegisterPk_backed h m addr
    unfold handleRegisterPk
    dsimp only
    split
    · exact hp
    · unfold bindPeerWSConn
      split
      · exact hp.same rfl rfl rfl rfl
      · exact hp.same rfl rfl rfl rfl

def Solicited (s : Server) : Action → Prop
  | .relayResponse transport rr sender =>
    opensTicket (s.arrive transport sender) rr sender=true →
      AnswersPending (s.arrive transport sender) rr sender
  | _ => True

instance (s : Server) : (a : Action) → Decidable (Solicited s a)
  | .relayResponse transport rr sender => inferInstanceAs (Decidable
      (opensTicket (s.arrive transport sender) rr sender=true →
        AnswersPending (s.arrive transport sender) rr sender))
  | .registerPk .. | .punchHoleRequest .. | .requestRelay .. | .punchHoleSent .. | .fetchLocalAddr ..
  | .localAddr .. | .punchFallback _ | .lanFallback _ | .outside _ => isTrue trivial

theorem handle_backed (h : Backed R s) (a : Action) (hok : Solicited s a)
    (hR : ∀ i t, s.passed a=some (i,t) → R i t) : Backed R (s.handle a).server := by
  cases a with
  | registerPk transport m addr => exact handleRegisterPk_backed h transport m addr
  | punchHoleRequest transport m raddr =>
    cases transport with
    | udp => exact handlePunchHoleRequest_backed h m raddr hR
    | tcp => exact handlePunchHoleRequestTCP_backed (arrive_backed h .tcp raddr) m raddr .tcp hR
    | ws => exact handlePunchHoleRequestTCP_backed (arrive_backed h .ws raddr) m raddr .ws hR
  | requestRelay transport m raddr =>
    cases transport with
    | udp => exact handleRequestRelay_backed h m raddr hR
    | tcp => exact handleRequestRelayTCP_backed (arrive_backed h .tcp raddr) m raddr .tcp hR
    | ws => exact handleRequestRelayTCP_backed (arrive_backed h .ws raddr) m raddr .ws hR
  | relayResponse transport rr sender =>
    cases transport with
    | udp => exact h
    | tcp => exact handleRelayResponseForward_backed (arrive_backed h .tcp sender) rr sender hok
    | ws => exact handleRelayResponseForward_backed (arrive_backed h .ws sender) rr sender hok
  | punchHoleSent transport phs sender =>
    exact handlePunchHoleSent_backed (arrive_backed h transport sender) phs sender _
  | fetchLocalAddr m raddr => exact handleFetchLocalAddr_backed h m raddr
  | localAddr m raddr => exact completeLANAddr_backed h m raddr
  | punchFallback addr => exact firePunchFallback_backed h addr
  | lanFallback key => exact fireLANFallback_backed h key
  | outside o => exact h.shrink (o.issued s) (o.pairs s) (o.byUUID s) (o.byAdvertised s)

end Server

def System.Backed (sys : System) : Prop :=
  Signal.Backed (fun i t => (i,t) ∈ sys.admitted) sys.server

theorem step_backed {sys sys' : System} {a : Action} (h : sys.Backed)
    (hok : Server.Solicited sys.server a) (hs : step sys a=some sys') : sys'.Backed := by
  unfold step at hs
  split at hs
  · cases hs
  · cases hs
    refine Server.handle_backed ?_ a hok ?_
    · exact Signal.Backed.mono h fun i t hm => mem_append_right _ hm
    · intro i t hp
      exact mem_append_left _ (by rw [hp]; exact mem_singleton_self _)

theorem System.Fresh.backed {sys : System} (h : sys.Fresh) : sys.Backed := by
  constructor
  · rw [h.issued]
    exact fun _ hx => nomatch hx
  · rw [h.pairs]
    exact fun _ hx => nomatch hx
  · rw [h.pairs]
    exact fun _ hx => nomatch hx
  · rw [h.byUUID]
    exact fun _ hx => nomatch hx
  · rw [h.byAdvertised]
    exact fun _ hx => nomatch hx

theorem tickets_backed (start sys : System) (as : List Action) (hstart : start.Fresh)
    (hok : Exec.Along step (fun sys a => Server.Solicited sys.server a) start as)
    (h : Exec.exec step start as=some sys) :
    ∀ x∈sys.server.registry.issued,(x.initiatorID,x.targetID) ∈ sys.admitted :=
  (Exec.exec_invariant System.Backed (fun _ _ _ => step_backed) hstart.backed hok h).issued

def homeAddr : Addr := ⟨.v4 3325256809,40000⟩
def officeAddr : Addr := ⟨.v4 1572395042,40000⟩

def liveEntry (id : PeerID) (addr : Addr) : Entry :=
  ⟨id,[],[1],some addr,some addr,0,.udp,none,0,false⟩

def twoDevices : System where
  server := {Server.empty with
    db := {Server.empty.db with peers := fun _ => some ⟨[],[1],none,"","",false,false,false⟩}
    peers := [liveEntry "device-7" homeAddr,liveEntry "device-8" officeAddr]}
  admitted := []
  stopped := false

def officeResponse : Action :=
  .relayResponse .tcp ⟨some homeAddr,"device-8","a0f8f3c1"⟩ officeAddr

def askedFor : List Action :=
  [.punchHoleRequest .udp ⟨"device-8",[],1,0,false⟩ homeAddr,officeResponse]

theorem tickets_backed_askedFor : ∃ sys, Exec.exec step twoDevices askedFor=some sys ∧
      ∀ x∈sys.server.registry.issued,(x.initiatorID,x.targetID) ∈ sys.admitted := by
  have hrun : (Exec.exec step twoDevices askedFor).isSome=true := by decide +kernel
  obtain ⟨sys,h⟩:=isSome_iff_exists.mp hrun
  exact ⟨sys,h,tickets_backed twoDevices sys askedFor ⟨rfl,rfl,rfl,rfl⟩ (by decide +kernel) h⟩

/-- The same answer opens a ticket when nobody has asked. -/
theorem unasked_response_opens : ¬ ∀ (start sys : System) (as : List Action), start.Fresh →
      Exec.exec step start as=some sys →
        ∀ x∈sys.server.registry.issued,(x.initiatorID,x.targetID) ∈ sys.admitted := by
  intro h
  obtain ⟨sys,hs⟩ : ∃ sys, Exec.exec step twoDevices [officeResponse]=some sys := ⟨_,rfl⟩
  have hissued : (Exec.exec step twoDevices [officeResponse]).map
      (fun sys => (sys.server.registry.issued, sys.admitted)) =
        some ([⟨"a0f8f3c1","device-7","device-8"⟩],[]) := by
    decide
  rw [hs] at hissued
  simp only [map_some,some.injEq,Prod.mk.injEq] at hissued
  have hx:=h twoDevices sys [officeResponse] ⟨rfl,rfl,rfl,rfl⟩ hs ⟨"a0f8f3c1","device-7","device-8"⟩
    (hissued.1 ▸ mem_singleton_self _)
  rw [hissued.2] at hx
  exact nomatch hx

end BetterDesk.Signal
