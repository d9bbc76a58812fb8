import BetterDesk.Signal.RegisterPeer

/-! # What the handling of a message leaves alone (signal/handler.go, signal/ws.go, signal/ban_revocation.go) -/

namespace BetterDesk.Signal.Server
open Db Text List

variable {s t u : Server} {id : PeerID} {e f : Entry} {row : Row}

theorem mem_put {m : PeerMap} (h : f∈m.put e) : f=e ∨ f∈m ∧ f.id≠e.id := by
  rcases mem_cons.mp h with hf | hf
  · exact .inl hf
  · obtain ⟨hf,hne⟩:=mem_filter.mp hf
    exact .inr ⟨hf,by simpa using hne⟩

theorem mem_of_get {m : PeerMap} (h : m.get id=some e) : e∈m ∧ e.id=id := by
  have hid:=List.find?_some h
  exact ⟨mem_of_find?_eq_some h,by simpa using hid⟩

structure Drops (s t : Server) : Prop where
  rows : t.db.peers=s.db.peers
  renames : t.db.renames=s.db.renames
  peers : ∃ gone : PeerID → Bool, t.peers=s.peers.filter fun e => !gone e.id

theorem Drops.same (hp : t.peers=s.peers) (hrows : t.db.peers=s.db.peers) (hren : t.db.renames=s.db.renames) : Drops s t :=
  ⟨hrows,hren,fun _ => false,by simp [hp]⟩

theorem Drops.refl (s : Server) : Drops s s := .same rfl rfl rfl

theorem Drops.remove (hp : t.peers=s.peers.remove id) (hrows : t.db.peers=s.db.peers)
    (hren : t.db.renames=s.db.renames) : Drops s t :=
  ⟨hrows,hren,fun id' => id'=id,by simp [hp,PeerMap.remove]⟩

theorem Drops.trans (h : Drops s t) (h' : Drops t u) : Drops s u := by
  obtain ⟨gone,hp⟩:=h.peers
  obtain ⟨gone',hp'⟩:=h'.peers
  refine ⟨h'.rows.trans h.rows,h'.renames.trans h.renames,fun id => gone id||gone' id,?_⟩
  rw [hp',hp,filter_filter]
  simp [Bool.and_comm]

theorem revokeBannedPeerAccess_drops (id : PeerID) (c : Option ClientSession) : Drops s (s.revokeBannedPeerAccess id c) := by
  have hsession (r : Server) (c : ClientSession) : Drops r (r.revokeClientSessionsForDevice c) := by
    unfold revokeClientSessionsForDevice
    split
    · exact .refl r
    · exact .same rfl rfl rfl
  have hrevoke : Drops s {s with
      registry := s.registry.revokeForPeer s.now id
      peers := s.peers.remove id} := .remove rfl rfl rfl
  unfold revokeBannedPeerAccess
  split
  · exact .refl s
  · dsimp only
    split
    · exact hrevoke.trans (hsession _ _)
    · exact hrevoke

theorem checkEnrollmentPermission_peers (id : PeerID) : (s.checkEnrollmentPermission id).2.peers=s.peers := by
  unfold checkEnrollmentPermission recordPendingEnrollment
  repeat' split
  all_goals rfl

theorem checkEnrollmentPermission_drops (id : PeerID) : Drops s (s.checkEnrollmentPermission id).2 := by
  apply Drops.same (checkEnrollmentPermission_peers id)
  all_goals
    unfold checkEnrollmentPermission recordPendingEnrollment
    repeat' split
    all_goals rfl

theorem dropUnlessPending_drops (id : PeerID) : Drops s (s.dropUnlessPending id) := by
  unfold dropUnlessPending
  split
  · exact .refl s
  · exact .remove rfl rfl rfl

theorem admitRegistration_drops (id : PeerID) : Drops s (s.admitRegistration id).2 := by
  unfold admitRegistration
  split
  · exact .remove rfl rfl rfl
  · split
    · exact .refl s
    · rename_i existing _
      have hpermit : Drops s (s.permitRegistration id existing).2 := by
        unfold permitRegistration
        split
        · exact .refl s
        · exact checkEnrollmentPermission_drops id
      split
      · rename_i r hr
        rw [hr] at hpermit
        exact hpermit.trans (dropUnlessPending_drops id)
      · rename_i r hr
        rw [hr] at hpermit
        split
        · exact hpermit
        · exact hpermit.trans (revokeBannedPeerAccess_drops id none)
        · exact hpermit

/-- What an entry has that it had not before is in the row of its device. -/
structure Renews (rows : PeerID → Option Row) (f e : Entry) : Prop where
  id : e.id=f.id
  uuid : e.uuid=f.uuid ∨ f.uuid=[] ∧ ∃ row, rows f.id=some row ∧ row.softDeleted=false ∧ row.uuid≠[] ∧
    e.uuid=peerUUIDFromDB row.uuid
  pk : e.pk=f.pk ∨ f.pk=[] ∧ ∃ row, rows f.id=some row ∧ row.softDeleted=false ∧ e.pk=row.pk

/-- Entries are renewed or made from the rows, in which only addresses change. -/
structure Refreshes (s t : Server) : Prop where
  rows : ∀ id, ∃ ip : Row → Option IP, t.db.peers id=(s.db.peers id).map fun row => {row with ip := ip row}
  renames : t.db.renames=s.db.renames
  entries : ∀ e∈t.peers, ∃ f, (f∈s.peers ∨ f.uuid=[] ∧ f.pk=[]) ∧ Renews s.db.peers f e

theorem Renews.same (rows : PeerID → Option Row) (hid : e.id=f.id) (huuid : e.uuid=f.uuid) (hpk : e.pk=f.pk) :
    Renews rows f e := ⟨hid,.inl huuid,.inl hpk⟩

theorem Refreshes.of_entries (hrows : t.db.peers=s.db.peers) (hren : t.db.renames=s.db.renames)
    (hp : ∀ e∈t.peers, ∃ f, (f∈s.peers ∨ f.uuid=[] ∧ f.pk=[]) ∧ Renews s.db.peers f e) : Refreshes s t :=
  ⟨fun id => ⟨Row.ip,by simp [hrows]⟩,hren,hp⟩

theorem Refreshes.of_sub (hrows : t.db.peers=s.db.peers) (hren : t.db.renames=s.db.renames)
    (hp : ∀ e∈t.peers,e∈s.peers) : Refreshes s t :=
  .of_entries hrows hren fun e he => ⟨e,.inl (hp e he),.same _ rfl rfl rfl⟩

theorem Refreshes.refl (s : Server) : Refreshes s s := .of_sub rfl rfl fun _ he => he

theorem Drops.refreshes (h : Drops s t) : Refreshes s t := by
  obtain ⟨gone,hp⟩:=h.peers
  apply Refreshes.of_sub h.rows h.renames
  intro e he
  rw [hp] at he
  exact (mem_filter.mp he).1

theorem Refreshes.map {g : Entry → Entry} (hp : t.peers=s.peers.map g) (hrows : t.db.peers=s.db.peers)
    (hren : t.db.renames=s.db.renames) (hg : ∀ f∈s.peers,Renews s.db.peers f (g f)) : Refreshes s t := by
  apply Refreshes.of_entries hrows hren
  intro e he
  rw [hp] at he
  obtain ⟨f,hf,rfl⟩:=mem_map.mp he
  exact ⟨f,.inl hf,hg f hf⟩

theorem Refreshes.put (hp : t.peers=s.peers.put e) (hrows : t.db.peers=s.db.peers)
    (hren : t.db.renames=s.db.renames) (hf : f∈s.peers ∨ f.uuid=[] ∧ f.pk=[]) (he : Renews s.db.peers f e) :
    Refreshes s t := by
  apply Refreshes.of_entries hrows hren
  intro g hg
  rw [hp] at hg
  rcases mem_put hg with rfl | ⟨hg,-⟩
  · exact ⟨f,hf,he⟩
  · exact ⟨g,.inl hg,.same _ rfl rfl rfl⟩

theorem Refreshes.rowOf (h : Refreshes s t) (hrow : t.db.peers id=some row) :
    ∃ old, s.db.peers id=some old ∧ row={old with ip := row.ip} := by
  obtain ⟨ip,hip⟩:=h.rows id
  obtain ⟨old,hold,rfl⟩:=Option.map_eq_some_iff.mp (hip ▸ hrow)
  exact ⟨old,hold,rfl⟩

theorem Refreshes.renews (h : Refreshes s t) (hf : Renews t.db.peers f e) : Renews s.db.peers f e := by
  refine ⟨hf.id,hf.uuid.imp_right fun ⟨hnil,row,hrow,hlive,hne,he⟩ => ⟨hnil,?_⟩,
    hf.pk.imp_right fun ⟨hnil,row,hrow,hlive,he⟩ => ⟨hnil,?_⟩⟩
  · obtain ⟨old,hold,heq⟩:=h.rowOf hrow
    rw [heq] at hlive hne he
    exact ⟨old,hold,hlive,hne,he⟩
  · obtain ⟨old,hold,heq⟩:=h.rowOf hrow
    rw [heq] at hlive he
    exact ⟨old,hold,hlive,he⟩

theorem Renews.trans {rows : PeerID → Option Row} {g : Entry} (h : Renews rows g f) (h' : Renews rows f e) : Renews rows g e := by
  refine ⟨h'.id.trans h.id,?_,?_⟩
  · rcases h.uuid with hg | hg
    · rw [← hg,← h.id]
      exact h'.uuid
    · rcases h'.uuid with he | ⟨-,he⟩
      · exact .inr (he ▸ hg)
      · exact .inr ⟨hg.1,h.id ▸ he⟩
  · rcases h.pk with hg | hg
    · rw [← hg,← h.id]
      exact h'.pk
    · rcases h'.pk with he | ⟨-,he⟩
      · exact .inr (he ▸ hg)
      · exact .inr ⟨hg.1,h.id ▸ he⟩

theorem Refreshes.trans (h : Refreshes s t) (h' : Refreshes t u) : Refreshes s u := by
  refine ⟨fun id => ?_,h'.renames.trans h.renames,fun e he => ?_⟩
  · obtain ⟨ip,hip⟩:=h.rows id
    obtain ⟨ip',hip'⟩:=h'.rows id
    refine ⟨fun row => ip' {row with ip := ip row},?_⟩
    rw [hip',hip,Option.map_map]
    rfl
  · obtain ⟨f,hf,hfe⟩:=h'.entries e he
    have hfe:=h.renews hfe
    rcases hf with hf | hf
    · obtain ⟨g,hg,hgf⟩:=h.entries f hf
      exact ⟨g,hg,hgf.trans hfe⟩
    · exact ⟨f,.inr hf,hfe⟩

theorem getPeer_live (h : s.db.getPeer id=.ok (some row)) : s.db.peers id=some row ∧ row.softDeleted=false := by
  obtain ⟨hrow,hlive⟩:=Option.filter_eq_some_iff.mp (s.db.ask_ok.mp h).2
  exact ⟨hrow,by simpa using hlive⟩

theorem storedRow_live (h : s.storedRow id=some row) : s.db.peers id=some row ∧ row.softDeleted=false := by
  unfold storedRow at h
  split at h
  · rename_i r hr
    exact getPeer_live (hr.trans (congrArg _ h))
  · cases h

theorem hydrate_renews {rows : PeerID → Option Row} {existing : Option Row}
    (h : ∀ row, existing=some row → rows e.id=some row ∧ row.softDeleted=false) : Renews rows e (hydrate existing e) := by
  cases existing with
  | none => exact .same _ rfl rfl rfl
  | some row =>
    obtain ⟨hrow,hlive⟩:=h row rfl
    refine ⟨rfl,?_,?_⟩
    · by_cases hc : e.uuid=[] ∧ row.uuid≠[]
      · exact .inr ⟨hc.1,row,hrow,hlive,hc.2,if_pos hc⟩
      · exact .inl (if_neg hc)
    · by_cases hc : e.pk=[] ∧ row.pk≠[]
      · exact .inr ⟨hc.1,row,hrow,hlive,if_pos hc⟩
      · exact .inl (if_neg hc)

theorem peerPublicKey_refreshes (id : PeerID) (e : Option Entry) : Refreshes s (s.peerPublicKey id e).2 := by
  unfold peerPublicKey
  split
  · exact .refl s
  · split
    · exact .refl s
    · split
      · rename_i row hrow
        obtain ⟨hget,hlive⟩:=getPeer_live hrow
        split
        · exact .refl s
        · refine .map rfl rfl rfl fun f _ => ?_
          by_cases hc : f.id=id ∧ f.pk=[]
          · rw [if_pos hc]
            exact ⟨rfl,.inl rfl,.inr ⟨hc.2,row,hc.1 ▸ hget,hlive,rfl⟩⟩
          · rw [if_neg hc]
            exact .same _ rfl rfl rfl
      · exact .refl s

variable {env : Environment}

theorem updatePeerStatus_refreshes (id : PeerID) (ip : IP) : Refreshes s (s.updatePeerStatus env id ip) := by
  unfold updatePeerStatus
  split
  · split
    · exact .refl s
    · rename_i row hrow
      refine ⟨fun d => ?_,rfl,fun e he => ⟨e,.inl he,.same _ rfl rfl rfl⟩⟩
      by_cases hd : d=id
      · exact ⟨fun _ => some ip,by simp [hd,(Option.filter_eq_some_iff.mp hrow).1]⟩
      · exact ⟨Row.ip,by simp [Function.update_of_ne hd]⟩
  · exact .refl s

theorem heartbeatPeer_refreshes (id : PeerID) (e : Entry) (raddr : Addr) :
    Refreshes s (s.heartbeatPeer env id e raddr).2 := by
  unfold heartbeatPeer
  split
  · exact (revokeBannedPeerAccess_drops id none).refreshes
  · split
    · exact .refl s
    · exact (revokeBannedPeerAccess_drops id none).refreshes
    · have hbeat : Refreshes s {s with peers := s.peers.updateHeartbeat id raddr s.now} :=
        .map rfl rfl rfl fun e _ => by split <;> exact .same _ rfl rfl rfl
      exact (hbeat.trans (peerPublicKey_refreshes id (some e))).trans (updatePeerStatus_refreshes id raddr.ip)

theorem heartbeatPeerWS_refreshes (id : PeerID) (e : Entry) (addr : Addr) :
    Refreshes s (s.heartbeatPeerWS env id e addr).2 := by
  unfold heartbeatPeerWS
  split
  · exact (revokeBannedPeerAccess_drops id none).refreshes
  · split
    · exact .refl s
    · split
      · exact .refl s
      · exact (revokeBannedPeerAccess_drops id none).refreshes
      · have hbeat : Refreshes s {s with peers := s.peers.updateHeartbeatWS id addr s.now} :=
          .map rfl rfl rfl fun e _ => by split <;> exact .same _ rfl rfl rfl
        exact hbeat.trans (updatePeerStatus_refreshes id addr.ip)

theorem newPeer_refreshes (id : PeerID) (addr : Addr) :
    Refreshes s (s.newPeer env id addr).2 ∧ Refreshes s (s.newPeerWS env id addr).2 := by
  have hretain (r : Server) (udpAddr : Option Addr) (connType : ConnType) :
      Refreshes r (r.retainPendingSignalPeer id addr udpAddr connType) :=
    .put (f := ⟨id,[],[],none,none,0,.udp,none,0,false⟩) rfl rfl rfl (.inr ⟨rfl,rfl⟩) (.same _ rfl rfl rfl)
  have hcheck:=(checkEnrollmentPermission_drops (s := s) id).refreshes
  unfold newPeer newPeerWS
  generalize s.checkEnrollmentPermission id=result at hcheck
  obtain ⟨permitted,r⟩:=result
  constructor
  · split
    · exact .refl s
    · cases permitted with
      | false =>
        dsimp only
        split
        · exact hcheck.trans (hretain r _ _)
        · exact hcheck
      | true =>
        dsimp only
        split
        · exact hcheck
        · exact hcheck.trans (revokeBannedPeerAccess_drops id none).refreshes
        · let blank : Entry := ⟨id,[],[],some addr,some addr,0,.udp,none,r.now,false⟩
          have hput : Refreshes r {r with peers := r.peers.put (hydrate (r.storedRow id) blank)} :=
            .put (f := blank) rfl rfl rfl (.inr ⟨rfl,rfl⟩) (hydrate_renews fun _ hrow => storedRow_live hrow)
          exact (hcheck.trans hput).trans (updatePeerStatus_refreshes id addr.ip)
  · split
    · exact .refl s
    · cases permitted with
      | false =>
        dsimp only
        split
        · exact hcheck.trans (hretain r _ _)
        · exact hcheck
      | true =>
        dsimp only
        split
        · exact hcheck
        · exact hcheck.trans (revokeBannedPeerAccess_drops id none).refreshes
        · have hput : Refreshes r {r with peers := r.peers.put ⟨id,[],[],some addr,none,0,.ws,none,r.now,false⟩} :=
            .put rfl rfl rfl (.inr ⟨rfl,rfl⟩) (.same _ rfl rfl rfl)
          exact (hcheck.trans hput).trans (updatePeerStatus_refreshes id addr.ip)

theorem handleRegisterPeer_refreshes (id : PeerID) (addr : Addr) :
    Refreshes s (s.handleRegisterPeer env id addr).2 ∧ Refreshes s (s.handleRegisterPeerWS env id addr).2 := by
  unfold handleRegisterPeer handleRegisterPeerWS
  cases s.registrationID id addr with
  | none => exact ⟨.refl s,.refl s⟩
  | some d =>
    dsimp only
    split
    · exact ⟨.refl s,.refl s⟩
    · cases s.peers.get d with
      | some e => exact ⟨heartbeatPeer_refreshes d e addr,heartbeatPeerWS_refreshes d e addr⟩
      | none => exact newPeer_refreshes d addr

theorem bindPeerWSConn_refreshes (id : PeerID) (addr : Addr) : Refreshes s (s.bindPeerWSConn id addr) := by
  unfold bindPeerWSConn
  split
  · exact .refl s
  · rename_i e he
    exact .put rfl rfl rfl (.inl (mem_of_get he).1) (.same _ rfl rfl rfl)

theorem wsPunchConns_refreshes (conns : Addr → Bool) : Refreshes s {s with wsPunchConns := conns} :=
  .of_sub rfl rfl fun _ he => he

theorem registerPeerWS_refreshes (id : PeerID) (addr : Addr) : Refreshes s (s.registerPeerWS env id addr) := by
  have hhandled : Refreshes s (s.handleRegisterPeerWS env id addr).2 := (handleRegisterPeer_refreshes id addr).2
  unfold registerPeerWS
  split
  · rename_i r hr
    rw [hr] at hhandled
    exact hhandled
  · rename_i answer r hr
    rw [hr] at hhandled
    exact (hhandled.trans (bindPeerWSConn_refreshes id addr)).trans (wsPunchConns_refreshes _)

theorem touchWSHeartbeat_refreshes (conn : Addr) :
    Refreshes s {s with peers := s.peers.touchWSHeartbeat conn s.now} := by
  unfold PeerMap.touchWSHeartbeat
  split
  · exact .refl s
  · rename_i e he
    exact .put rfl rfl rfl (.inl (mem_of_find?_eq_some he)) (.same _ rfl rfl rfl)

theorem cleanup_refreshes : Refreshes s s.cleanup := .of_sub rfl rfl fun _ he => (mem_filter.mp he).1

theorem restart_refreshes : Refreshes s s.restart := .of_sub rfl rfl fun _ he => by cases he

theorem handleRegisterPk_as (transport : ConnType) (m : RegisterPk) (addr : Addr) :
    ∃ r : Server, r.peers=s.peers ∧ r.db=s.db ∧
      (s.handleRegisterPk transport m addr).result=(r.processRegisterPk m addr).result ∧
      (s.handleRegisterPk transport m addr).id=(r.processRegisterPk m addr).id ∧
      Refreshes (r.processRegisterPk m addr).server (s.handleRegisterPk transport m addr).server := by
  cases transport with
  | udp => exact ⟨s,rfl,rfl,rfl,rfl,.refl _⟩
  | tcp =>
    refine ⟨s.openTCP addr,?_,?_,rfl,rfl,.refl _⟩
    · unfold openTCP
      split <;> rfl
    · unfold openTCP
      split <;> rfl
  | ws =>
    refine ⟨s,rfl,rfl,?_⟩
    unfold handleRegisterPk
    dsimp only
    split
    · exact ⟨rfl,rfl,.refl _⟩
    · refine ⟨rfl,rfl,?_⟩
      exact (bindPeerWSConn_refreshes _ addr).trans (wsPunchConns_refreshes _)

end BetterDesk.Signal.Server
