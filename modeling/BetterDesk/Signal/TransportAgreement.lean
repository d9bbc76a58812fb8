import BetterDesk.Signal.KeyHistory

/-! # A heartbeat over UDP and over a WebSocket (signal/handler.go, signal/ws.go) -/

namespace BetterDesk.Signal
open Db Text Option

namespace PeerMap
variable {m : PeerMap}

theorem get_map {f : Entry → Entry} (hf : ∀ e, (f e).id=e.id) (id : PeerID) : get (m.map f) id=(m.get id).map f := by
  unfold get
  rw [List.find?_map]
  congr 2
  funext e
  show decide ((f e).id=id)=decide (e.id=id)
  rw [hf]

theorem get_put (e : Entry) (id : PeerID) : (m.put e).get id = if e.id=id then some e else m.get id := by
  unfold get put
  by_cases hid : e.id=id
  · rw [if_pos hid,List.find?_cons_of_pos (by simpa using hid)]
  · rw [if_neg hid,List.find?_cons_of_neg (by simpa using hid),List.find?_filter]
    congr 1
    funext e'
    by_cases h : e'.id=id
    · have hne : e'.id≠e.id := fun h' => hid (h'.symm.trans h)
      simp [h,Ne.symm hid]
    · simp [h]

theorem get_remove (id d : PeerID) : (m.remove id).get d = if d=id then none else m.get d := by
  unfold get remove
  rw [List.find?_filter]
  by_cases hd : d=id
  · rw [if_pos hd,List.find?_eq_none]
    intro e _
    by_cases he : e.id=d
    · simp [he,hd]
    · simp [he]
  · rw [if_neg hd]
    congr 1
    funext e
    by_cases he : e.id=d
    · simp [he,hd]
    · simp [he]

end PeerMap

structure Identity where
  id : PeerID
  pk : Bytes
  uuid : Bytes
  deriving DecidableEq

def Entry.identity (e : Entry) : Identity := ⟨e.id,e.pk,e.uuid⟩

def Identity.fillKey (id : PeerID) (pk : Bytes) (i : Identity) : Identity :=
  if i.id=id ∧ i.pk=[] then {i with pk := pk} else i

theorem fillKey_nil (id : PeerID) : Identity.fillKey id [] = fun i => i := by
  funext i
  unfold Identity.fillKey
  split
  · rename_i h
    rw [← h.2]
  · rfl

namespace Server
variable {s : Server} {env : Environment}

def identityOf (s : Server) (id : PeerID) : Option Identity := (s.peers.get id).map Entry.identity

/-- Both transports accept the message or neither does. -/
def RegistersAlike (s : Server) (env : Environment) (id : PeerID) (addr : Addr) : Prop :=
  let udp:=s.handleRegisterPeer env id addr
  let ws:=s.handleRegisterPeerWS env id addr
  udp.1.isSome=ws.1.isSome ∧
    (udp.1.isSome=true → ws.1.isSome=true → ∀ d, udp.2.identityOf d=ws.2.identityOf d)

structure Arrives (s : Server) (env : Environment) (id : PeerID) (addr : Addr) (d : PeerID) : Prop where
  resolved : s.registrationID id addr=some d
  allowed : s.knownPeer d=true ∨ env.allowsNew=true

structure Unbanned (s : Server) (d : PeerID) (e : Entry) : Prop where
  entry : e.banned=false
  row : s.db.isPeerBanned d=.ok false

structure LiveAgrees (s : Server) (d : PeerID) (e : Entry) : Prop where
  notDeleted : s.rejectIfPeerSoftDeleted d=false
  keyed : e.pk=[] → ∀ row, s.storedRow d=some row → row.pk=[]

/-- A device that is not live, and is let in: its row has neither key nor UUID. -/
def NewAgrees (s : Server) (d : PeerID) : Prop :=
  s.rejectIfPeerSoftDeleted d=false → s.enrollmentPermitted d=true → s.db.isPeerBanned d=.ok false →
    ∀ row, s.storedRow d=some row → row.pk=[] ∧ row.uuid=[]

theorem updatePeerStatus_peers (id : PeerID) (ip : IP) : (s.updatePeerStatus env id ip).peers=s.peers := by
  unfold updatePeerStatus
  split
  · split <;> rfl
  · rfl

theorem heartbeat_identity (m : PeerMap) {f : Entry → Entry} {g : Identity → Identity}
    (hf : ∀ e, (f e).id=e.id ∧ (f e).identity=g e.identity) (d : PeerID) :
    (PeerMap.get (m.map f) d).map Entry.identity=((m.get d).map Entry.identity).map g := by
  rw [PeerMap.get_map fun e => (hf e).1,map_map,map_map]
  exact congrArg (fun g => (m.get d).map g) (funext fun e => (hf e).2)

theorem setPKIfEmpty_identity (m : PeerMap) (id : PeerID) (pk : Bytes) (d : PeerID) :
    ((m.setPKIfEmpty id pk).get d).map Entry.identity=((m.get d).map Entry.identity).map (.fillKey id pk) := by
  refine heartbeat_identity m (fun e => ?_) d
  unfold Identity.fillKey Entry.identity
  split <;> exact ⟨rfl,rfl⟩

def keyFromRow (s : Server) (id : PeerID) (e : Entry) : Bytes :=
  if e.pk≠[] ∨ id="" then [] else ((s.storedRow id).map Row.pk).getD []

theorem peerPublicKey_peers (id : PeerID) (e : Entry) :
    (s.peerPublicKey id (some e)).2.peers =
      if s.keyFromRow id e=[] then s.peers else s.peers.setPKIfEmpty id (s.keyFromRow id e) := by
  unfold peerPublicKey
  by_cases hpk : e.pk=[]
  · have hfilter : (some e).filter (fun e => e.pk≠[])=none := by simp [Option.filter,hpk]
    rw [hfilter]
    dsimp only
    by_cases hid : id=""
    · have hkey : s.keyFromRow id e=[] := if_pos (.inr hid)
      rw [if_pos hid,if_pos hkey]
    · have hkey : s.keyFromRow id e=((s.storedRow id).map Row.pk).getD [] := if_neg (by simp [hpk,hid])
      rw [if_neg hid,hkey]
      unfold storedRow
      rcases s.db.getPeer id with _ | _ | row
      · simp
      · simp
      · simp only [map_some,getD_some]
        split <;> rfl
  · have hfilter : (some e).filter (fun e => e.pk≠[])=some e := by simp [Option.filter,hpk]
    have hkey : s.keyFromRow id e=[] := if_pos (.inl hpk)
    rw [hfilter,if_pos hkey]

theorem peerPublicKey_identity (id : PeerID) (e : Entry) (d : PeerID) :
    (s.peerPublicKey id (some e)).2.identityOf d=(s.identityOf d).map (.fillKey id (s.keyFromRow id e)) := by
  unfold identityOf
  rw [peerPublicKey_peers]
  split
  · rename_i hkey
    rw [hkey,fillKey_nil,map_id']
  · exact setPKIfEmpty_identity s.peers id _ d

theorem updateHeartbeat_identity (m : PeerMap) (id : PeerID) (raddr : Addr) (now : ℕ) (d : PeerID) :
    ((m.updateHeartbeat id raddr now).get d).map Entry.identity=(m.get d).map Entry.identity := by
  have h:=heartbeat_identity m (f := fun e => if e.id=id then {e with
    lastReg := now
    udpAddr := some raddr
    ip := some raddr
    connType := if e.connType=.ws then .ws else .udp} else e) (g := fun i => i) (fun e => by split <;> exact ⟨rfl,rfl⟩) d
  rw [map_id'] at h
  exact h

theorem updateHeartbeatWS_identity (m : PeerMap) (id : PeerID) (addr : Addr) (now : ℕ) (d : PeerID) :
    ((m.updateHeartbeatWS id addr now).get d).map Entry.identity=(m.get d).map Entry.identity := by
  have h:=heartbeat_identity m (f := fun e => if e.id=id then {e with
    lastReg := now
    connType := .ws
    ip := some addr} else e) (g := fun i => i) (fun e => by split <;> exact ⟨rfl,rfl⟩) d
  rw [map_id'] at h
  exact h

variable {id : PeerID} {e : Entry} {addr : Addr}

theorem heartbeatPeer_accepts (env : Environment) (raddr : Addr) (h : s.Unbanned id e) :
    (s.heartbeatPeer env id e raddr).1.isSome=true ∧ ∀ d, (s.heartbeatPeer env id e raddr).2.identityOf d =
      (s.identityOf d).map (.fillKey id (s.keyFromRow id e)) := by
  unfold heartbeatPeer
  rw [h.1,h.2]
  dsimp only
  rw [if_neg (by decide)]
  refine ⟨rfl,fun d => ?_⟩
  let t : Server := {s with peers := s.peers.updateHeartbeat id raddr s.now}
  have hkey : t.keyFromRow id e=s.keyFromRow id e := rfl
  have hbeat : t.identityOf d=s.identityOf d := updateHeartbeat_identity s.peers id raddr s.now d
  have hfill:=t.peerPublicKey_identity id e d
  rw [hkey,hbeat] at hfill
  unfold identityOf at hfill ⊢
  rw [updatePeerStatus_peers]
  exact hfill

theorem heartbeatPeerWS_accepts (env : Environment) (addr : Addr) (h : s.Unbanned id e)
    (hrow : s.rejectIfPeerSoftDeleted id=false) : (s.heartbeatPeerWS env id e addr).1.isSome=true ∧
      ∀ d, (s.heartbeatPeerWS env id e addr).2.identityOf d=s.identityOf d := by
  unfold heartbeatPeerWS
  rw [h.1,hrow,h.2]
  dsimp only
  rw [if_neg (by decide),if_neg (by decide)]
  refine ⟨rfl,fun d => ?_⟩
  unfold identityOf
  rw [updatePeerStatus_peers]
  exact updateHeartbeatWS_identity s.peers id addr s.now d

theorem heartbeat_rejects (env : Environment) (addr : Addr) (h : ¬ s.Unbanned id e) :
    (s.heartbeatPeer env id e addr).1=none ∧ (s.heartbeatPeerWS env id e addr).1=none := by
  unfold heartbeatPeer heartbeatPeerWS
  by_cases hb : e.banned=true
  · rw [if_pos hb,if_pos hb]
    exact ⟨rfl,rfl⟩
  · have hrow : s.db.isPeerBanned id ≠ .ok false := fun hrow => h ⟨Bool.eq_false_iff.mpr hb,hrow⟩
    rw [if_neg hb,if_neg hb]
    constructor
    · split
      · rfl
      · rfl
      · exact absurd (by assumption) hrow
    · split
      · rfl
      · split
        · rfl
        · rfl
        · exact absurd (by assumption) hrow

theorem keyFromRow_nil (hid : id≠"") :
    s.keyFromRow id e=[] ↔ (e.pk=[] → ∀ row, s.storedRow id=some row → row.pk=[]) := by
  unfold keyFromRow
  by_cases hpk : e.pk=[]
  · rw [if_neg (by simp [hpk,hid])]
    cases s.storedRow id with
    | none => simp
    | some row => simp [hpk]
  · simp [hpk]

theorem live_alike_iff (hid : id≠"") (hget : s.peers.get id=some e) :
    ((s.heartbeatPeer env id e addr).1.isSome=(s.heartbeatPeerWS env id e addr).1.isSome ∧
      ((s.heartbeatPeer env id e addr).1.isSome=true → (s.heartbeatPeerWS env id e addr).1.isSome=true →
        ∀ d, (s.heartbeatPeer env id e addr).2.identityOf d=(s.heartbeatPeerWS env id e addr).2.identityOf d)) ↔
      (s.Unbanned id e → s.LiveAgrees id e) := by
  by_cases hun : s.Unbanned id e
  · obtain ⟨hudp,hleft⟩:=heartbeatPeer_accepts env addr hun
    cases hdel : s.rejectIfPeerSoftDeleted id with
    | true =>
      have hws : (s.heartbeatPeerWS env id e addr).1=none := by
        unfold heartbeatPeerWS
        rw [hun.1,hdel]
        rfl
      rw [hudp,hws]
      constructor
      · intro h
        cases h.1
      · intro h
        exact absurd (h hun).notDeleted (by rw [hdel]; decide)
    | false =>
      obtain ⟨hws,hkept⟩:=heartbeatPeerWS_accepts env addr hun hdel
      rw [hudp,hws]
      simp only [true_and,forall_const,hleft,hkept]
      have hsame : (∀ d, (s.identityOf d).map (.fillKey id (s.keyFromRow id e))=s.identityOf d) ↔
          s.keyFromRow id e=[] := by
        constructor
        · intro h
          by_contra hne
          have hpk : e.pk=[] := by
            by_contra hpk
            exact hne (if_pos (.inl hpk))
          have hat:=h id
          unfold identityOf at hat
          rw [hget] at hat
          have hidentity : (e.identity.fillKey id (s.keyFromRow id e)).pk=e.pk :=
            congrArg Identity.pk (Option.some.inj hat)
          have hfill : e.identity.fillKey id (s.keyFromRow id e)={e.identity with pk := s.keyFromRow id e} :=
            if_pos ⟨(mem_of_get hget).2,hpk⟩
          rw [hfill,hpk] at hidentity
          exact hne hidentity
        · intro h d
          rw [h,fillKey_nil,map_id']
      rw [hsame,keyFromRow_nil hid]
      exact ⟨fun h _ => ⟨hdel,h⟩,fun h => (h hun).keyed⟩
  · obtain ⟨hudp,hws⟩:=heartbeat_rejects env addr hun
    simp [hudp,hws,hun]

theorem put_identity (m : PeerMap) (e : Entry) (d : PeerID) :
    ((m.put e).get d).map Entry.identity = if e.id=d then some e.identity else (m.get d).map Entry.identity := by
  rw [PeerMap.get_put]
  split <;> rfl

theorem peerUUIDFromDB_nil {stored : Bytes} : peerUUIDFromDB stored=[] ↔ stored=[] := by
  unfold peerUUIDFromDB decodedUUID
  constructor
  · intro h
    by_contra hne
    cases hdecode : (hexDecode stored).filter (·≠[]) with
    | none =>
      rw [hdecode] at h
      exact hne h
    | some uuid =>
      have huuid : uuid≠[] := by simpa using (filter_eq_some_iff.mp hdecode).2
      rw [hdecode] at h
      exact huuid h
  · rintro rfl
    rfl

theorem hydrate_identity {existing : Option Row} (hpk : e.pk=[]) (huuid : e.uuid=[]) :
    (hydrate existing e).identity=e.identity ↔ ∀ row, existing=some row → row.pk=[] ∧ row.uuid=[] := by
  cases existing with
  | none => simp [hydrate]
  | some row =>
    have hid : (hydrate (some row) e).identity =
        ⟨e.id,if row.pk≠[] then row.pk else [],if row.uuid≠[] then peerUUIDFromDB row.uuid else []⟩ := by
      simp [hydrate,Entry.identity,hpk,huuid]
    rw [hid]
    simp only [Entry.identity,hpk,huuid,Identity.mk.injEq,true_and,some.injEq,forall_eq']
    constructor
    · rintro ⟨h₁,h₂⟩
      refine ⟨by simpa using h₁,?_⟩
      by_contra hne
      rw [if_pos hne] at h₂
      exact hne (peerUUIDFromDB_nil.mp h₂)
    · rintro ⟨h₁,h₂⟩
      rw [if_neg (by simp [h₁]),if_neg (by simp [h₂])]
      exact ⟨rfl,rfl⟩

theorem retain_identity (id : PeerID) (addr : Addr) (udpAddr : Option Addr) (connType : ConnType) (d : PeerID) :
    (s.retainPendingSignalPeer id addr udpAddr connType).identityOf d =
      if id=d then some ⟨id,[],[]⟩ else s.identityOf d := put_identity s.peers _ d

theorem new_alike_iff : ((s.newPeer env id addr).1.isSome=(s.newPeerWS env id addr).1.isSome ∧
      ((s.newPeer env id addr).1.isSome=true → (s.newPeerWS env id addr).1.isSome=true →
        ∀ d, (s.newPeer env id addr).2.identityOf d=(s.newPeerWS env id addr).2.identityOf d)) ↔
      s.NewAgrees id := by
  unfold newPeer newPeerWS NewAgrees
  cases hdel : s.rejectIfPeerSoftDeleted id with
  | true => simp
  | false =>
    simp only [Bool.false_eq_true,if_false,true_implies]
    by_cases hperm : s.enrollmentPermitted id=true
    · have hcheck : s.checkEnrollmentPermission id=(true,s) := if_pos hperm
      simp only [hcheck,hperm,true_implies]
      rcases hq : s.db.isPeerBanned id with _ | banned
      · simp
      · cases banned with
        | true => simp
        | false =>
          let fresh : Entry := ⟨id,[],[],some addr,some addr,0,.udp,none,s.now,false⟩
          simp only [isSome_some,true_implies,true_and]
          have hudp (t : Server) (d : PeerID) : (t.updatePeerStatus env id addr.ip).identityOf d=t.identityOf d := by
            unfold identityOf
            rw [updatePeerStatus_peers]
          simp only [hudp]
          have hleft (d : PeerID) : identityOf {s with peers := s.peers.put (hydrate (s.storedRow id) fresh)} d =
              if id=d then some (hydrate (s.storedRow id) fresh).identity else s.identityOf d := by
            have hid : (hydrate (s.storedRow id) fresh).id=id := by
              unfold hydrate
              split <;> rfl
            refine (put_identity s.peers _ d).trans ?_
            rw [hid]
            rfl
          let freshWS : Entry := ⟨id,[],[],some addr,none,0,.ws,none,s.now,false⟩
          have hright (d : PeerID) : identityOf {s with peers := s.peers.put freshWS} d =
              if id=d then some fresh.identity else s.identityOf d := put_identity s.peers freshWS d
          rw [← hydrate_identity (e := fresh) rfl rfl]
          constructor
          · intro h
            have hat:=h id
            rw [hleft,hright,if_pos rfl,if_pos rfl] at hat
            exact Option.some.inj hat
          · intro h d
            rw [hleft,hright,h]
    · have hcheck : (s.checkEnrollmentPermission id).1=false := by
        unfold checkEnrollmentPermission
        rw [if_neg hperm]
      generalize s.checkEnrollmentPermission id=result at hcheck ⊢
      obtain ⟨permitted,t⟩:=result
      dsimp only at hcheck
      subst hcheck
      dsimp only
      by_cases hpending : t.isPendingEnrollment id=true
      · simp [hpending,retain_identity,hperm]
      · simp [hpending,hperm]

theorem registrationID_nonempty {d : PeerID} (h : s.registrationID id addr=some d) : d≠"" := by
  unfold registrationID at h
  split at h
  · cases h
  · rename_i hid
    have hne : id≠"" := fun h => hid (.inl h)
    unfold resolveRegistrationPeerID at h
    split at h
    · cases h
    · cases h
      exact hne
    · split at h
      · cases h
      · split at h
        · cases h
        · rename_i hnew
          split at h
          · cases h
          · cases h
            exact hne
          · split at h <;> cases h
            exact hnew

end Server

open Server

/-- Of the device that the heartbeat arrives for: a live entry that is not banned agrees with
its row, and a row without a live entry has neither key nor UUID. -/
def Agrees (s : Server) (env : Environment) (id : PeerID) (addr : Addr) : Prop :=
  ∀ d, s.Arrives env id addr d → match s.peers.get d with
    | some e => s.Unbanned d e → s.LiveAgrees d e
    | none => s.NewAgrees d

theorem transports_agree_iff (s : Server) (env : Environment) (id : PeerID) (addr : Addr) :
    s.RegistersAlike env id addr ↔ Agrees s env id addr := by
  unfold RegistersAlike handleRegisterPeer handleRegisterPeerWS
  cases hid : s.registrationID id addr with
  | none =>
    have hnone : Agrees s env id addr := by
      intro d h
      cases hid.symm.trans h.resolved
    simp [hnone]
  | some d =>
    dsimp only
    by_cases hlimit : (!s.knownPeer d&&!env.allowsNew)=true
    · have hnone : Agrees s env id addr := by
        intro d' h
        obtain rfl : d=d' := Option.some.inj (hid.symm.trans h.resolved)
        have hno : s.knownPeer d=false ∧ env.allowsNew=false := by simpa using hlimit
        rcases h.allowed with h | h
        · rw [hno.1] at h
          cases h
        · rw [hno.2] at h
          cases h
      simp [hlimit,hnone]
    · have harrives : s.Arrives env id addr d := by
        refine ⟨hid,?_⟩
        by_contra h
        rw [not_or] at h
        exact hlimit (by simp [h.1,h.2])
      have hall : Agrees s env id addr ↔ match s.peers.get d with
          | some e => s.Unbanned d e → s.LiveAgrees d e
          | none => s.NewAgrees d := by
        refine ⟨fun h => h d harrives,fun h d' h' => ?_⟩
        obtain rfl : d=d' := Option.some.inj (hid.symm.trans h'.resolved)
        exact h
      rw [if_neg hlimit,if_neg hlimit,hall]
      cases hget : s.peers.get d with
      | some e => exact live_alike_iff (registrationID_nonempty hid) hget
      | none => exact new_alike_iff

/-- A stored device comes back after a restart: over UDP its key is read from the row. -/
theorem stored_key_udp_only :
    ¬ ∀ (s : Server) (env : Environment) (id : PeerID) (addr : Addr), s.RegistersAlike env id addr := by
  intro h
  obtain ⟨-,hsame⟩:=h keyedServer Keyed.answering "device-7" Keyed.client
  have hidentity:=hsame (by decide) (by decide) "device-7"
  revert hidentity
  decide

end BetterDesk.Signal
