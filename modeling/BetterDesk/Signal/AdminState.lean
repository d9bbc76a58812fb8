import BetterDesk.Signal.PeerRows

/-! # Registration and the columns of an administrator (signal/handler.go, db/sqlite.go, db/postgres.go) -/

namespace BetterDesk.Signal
open Db Text Function Option

structure AdminState where
  disabled : Bool
  banned : Bool
  banReason : String
  softDeleted : Bool
  note : String
  tags : String
  user : String
  deviceType : String
  linkedPeerID : PeerID
  displayName : String

def PeerRow.adminState (row : PeerRow) : AdminState :=
  ⟨row.disabled,row.banned,row.banReason,row.softDeleted,row.note,row.tags,row.user,row.deviceType,
    row.linkedPeerID,row.displayName⟩

theorem unlessEmpty_empty (stored : String) : unlessEmpty "" stored=stored := if_pos rfl

variable (dialect : Dialect)

theorem onConflict_adminState (row : PeerRow) (id : PeerID) (e : Entry) :
    (row.onConflict dialect (registrationPeer id e)).adminState={row.adminState with disabled := false} := by
  cases dialect <;>
    simp only [PeerRow.onConflict,PeerRow.merge,PeerRow.adminState,registrationPeer,unlessEmpty_empty]

theorem upsert_adminState (now : ℕ) {peers : PeerTable} {id : PeerID} {row : PeerRow}
    (hrow : peers id=some row) (d : PeerID) (e : Entry) :
    ∃ row', peers.upsertPeer dialect now (registrationPeer d e) id=some row' ∧
      row'.adminState = if d=id then {row.adminState with disabled := false} else row.adminState := by
  unfold PeerTable.upsertPeer
  by_cases hd : d=id
  · subst hd
    refine ⟨row.onConflict dialect (registrationPeer d e),?_,?_⟩
    · show update peers d _ d=_
      have hstored : peers (registrationPeer d e).id=some row := hrow
      rw [update_self,hstored]
    · rw [if_pos rfl]
      exact onConflict_adminState dialect row d e
  · refine ⟨row,?_,(if_neg hd).symm⟩
    show update peers d _ id=_
    rw [update_of_ne fun h => hd h.symm]
    exact hrow

theorem status_adminState (now : ℕ) {peers : PeerTable} {id : PeerID} {row : PeerRow} (hrow : peers id=some row)
    (d : PeerID) (status : String) (ip : Option IP) :
    ∃ row', peers.updatePeerStatus now d status ip id=some row' ∧ row'.adminState=row.adminState := by
  unfold PeerTable.updatePeerStatus
  cases hstored : (peers d).filter fun row => !row.softDeleted with
  | none => exact ⟨row,hrow,rfl⟩
  | some stored =>
    have hd:=(filter_eq_some_iff.mp hstored).1
    by_cases hid : id=d
    · subst hid
      have hsame : stored=row := Option.some.inj (hd.symm.trans hrow)
      exact ⟨{stored with status := status,ip := ip,lastOnline := some now},
        update_self ..,hsame ▸ rfl⟩
    · exact ⟨row,(update_of_ne hid ..).trans hrow,rfl⟩

namespace Server
variable {s : Server} {env : Environment}

structure Enrolls (s : Server) (m : RegisterPk) (addr : Addr) (id : PeerID) : Prop
    extends Registers s m addr id where
  full : m.noRegisterDevice=false
  agrees : ∃ existing, s.Admits id existing ∧ ¬ Contradicts (s.claimedEntry id existing) m
  stored : s.db.fails (.upsertPeer id)=false

def Reregisters (s : Server) (env : Environment) (id : PeerID) : KeyAction → Prop
  | .registerPk _ m addr => (s.underEnv env).Enrolls m addr id
  | _ => False

variable {w : PeerWrite} {addr : Addr} {m : RegisterPk} {id : PeerID}

theorem claimWrite_some {existing : Option Row} : s.claimWrite id existing m addr=some w ↔
      ¬ Contradicts (s.claimedEntry id existing) m ∧ s.db.fails (.upsertPeer id)=false ∧
        w=.upsert (registrationPeer id (s.registered (s.claimedEntry id existing) m addr)) := by
  unfold claimWrite Contradicts
  dsimp only
  constructor
  · intro h
    split at h
    · cases h
    · rename_i hu
      split at h
      · cases h
      · rename_i hp
        split at h
        · cases h
        · rename_i hf
          cases h
          exact ⟨not_or_intro hu hp,Bool.eq_false_iff.mpr hf,rfl⟩
  · rintro ⟨hagrees,hf,rfl⟩
    rw [if_neg fun hu => hagrees (.inl hu),if_neg fun hp => hagrees (.inr hp),if_neg (by rw [hf]; decide)]

theorem registerPkWrite_iff :
    s.registerPkWrite m addr=some w ↔ ∃ id existing, s.Registers m addr id ∧ m.noRegisterDevice=false ∧
      s.Admits id existing ∧ s.claimWrite id existing m addr=some w := by
  constructor
  · intro h
    unfold registerPkWrite at h
    split at h
    · cases h
    · rename_i hsight
      split at h
      · cases h
      · rename_i hold
        split at h
        · cases h
        · rename_i id hid
          split at h
          · cases h
          · rename_i hfull
            split at h
            · cases h
            · rename_i existing s' hadm
              obtain ⟨hadm,rfl⟩:=admitRegistration_ok.mp hadm
              exact ⟨id,existing,⟨hsight,Decidable.not_not.mp hold,hid⟩,Bool.eq_false_iff.mpr hfull,hadm,h⟩
  · rintro ⟨id,existing,hreg,hfull,hadm,hw⟩
    unfold registerPkWrite
    rw [hreg.sight,hreg.noChange]
    dsimp only
    rw [if_neg (by decide),hreg.named,hfull]
    dsimp only
    rw [if_neg (by decide),admitRegistration_ok.mpr ⟨hadm,rfl⟩]
    exact hw

theorem registerPkWrite_some (h : s.registerPkWrite m addr=some w) :
    ∃ id e, s.Enrolls m addr id ∧ w=.upsert (registrationPeer id e) := by
  obtain ⟨id,existing,hreg,hfull,hadm,hw⟩:=registerPkWrite_iff.mp h
  obtain ⟨hagrees,hstored,hw⟩:=claimWrite_some.mp hw
  exact ⟨id,_,⟨hreg,hfull,⟨existing,hadm,hagrees⟩,hstored⟩,hw⟩

theorem Enrolls.write (h : s.Enrolls m addr id) :
    ∃ e, s.registerPkWrite m addr=some (.upsert (registrationPeer id e)) := by
  obtain ⟨existing,hadm,hagrees⟩:=h.agrees
  let e:=s.registered (s.claimedEntry id existing) m addr
  have hw : s.claimWrite id existing m addr=some (.upsert (registrationPeer id e)) :=
    claimWrite_some.mpr ⟨hagrees,h.stored,rfl⟩
  exact ⟨e,registerPkWrite_iff.mpr ⟨id,existing,h.toRegisters,h.full,hadm,hw⟩⟩

theorem registerPeerWrite_some {transport : ConnType}
    (h : s.registerPeerWrite env transport id addr=some w) : ∃ id' ip, w=.status id' ip := by
  have hstatus {id' : PeerID} {ip : IP} (h : statusWrite env id' ip=some w) : ∃ id' ip, w=.status id' ip := by
    unfold statusWrite at h
    split at h
    · cases h
      exact ⟨id',ip,rfl⟩
    · cases h
  unfold registerPeerWrite newPeerWrite at h
  split at h
  · cases h
  · split at h
    · cases h
    · split at h
      · split at h
        · exact hstatus h
        · cases h
      · split at h
        · cases h
        · split at h
          · exact hstatus h
          · cases h

theorem peerWrite_cases {a : KeyAction} (h : s.peerWrite env a=some w) :
    (∃ id ip, w=.status id ip) ∨ ∃ id e, s.Reregisters env id a ∧ w=.upsert (registrationPeer id e) := by
  cases a with
  | registerPeer | registerPeerWS => exact .inl (registerPeerWrite_some h)
  | registerPk transport m addr => exact .inr (registerPkWrite_some h)
  | keepAlive | tick | cleanup | restart => cases h

theorem Reregisters.write {a : KeyAction} (h : s.Reregisters env id a) :
    ∃ e, s.peerWrite env a=some (.upsert (registrationPeer id e)) := by
  cases a with
  | registerPk transport m addr => exact Enrolls.write h
  | registerPeer | registerPeerWS | keepAlive | tick | cleanup | restart => exact h.elim

end Server

namespace PeerWrite

def onRows (rows : PeerID → Option Row) : PeerWrite → PeerID → Option Row
  | upsert p => update rows p.id <| some <| match rows p.id with
    | some row => {row with
        uuid := if p.uuid=[] then row.uuid else p.uuid
        pk := p.pk.getD row.pk
        ip := p.ip
        tags := unlessEmpty p.tags row.tags
        disabled := p.disabled}
    | none => ⟨p.uuid,p.pk.getD [],p.ip,"",p.tags,false,p.disabled,false⟩
  | status id ip => match (rows id).filter fun row => !row.softDeleted with
    | none => rows
    | some row => update rows id (some {row with ip := some ip})

end PeerWrite

theorem map_update {α β : Type} (f : α → β) (table : PeerID → Option α) (id : PeerID) (a : α) :
    (fun d => (update table id (some a) d).map f)=update (fun d => (table d).map f) id (some (f a)) := by
  funext d
  by_cases hd : d=id
  · subst hd
    rw [update_self,update_self]
    rfl
  · rw [update_of_ne hd,update_of_ne hd]

theorem status_mirrors (now : ℕ) (peers : PeerTable) (id : PeerID) (ip : IP) :
    (fun d => ((PeerWrite.status id ip).perform dialect now peers d).map PeerRow.brief) =
      (PeerWrite.status id ip).onRows fun d => (peers d).map PeerRow.brief := by
  simp only [PeerWrite.perform,PeerTable.updatePeerStatus,PeerWrite.onRows]
  cases hrow : peers id with
  | none => rfl
  | some row =>
    cases hdeleted : row.softDeleted with
    | true => simp [Option.filter,PeerRow.brief,hdeleted]
    | false =>
      simp only [Option.filter,map_some,PeerRow.brief,hdeleted,Bool.not_false,if_true]
      rw [map_update]
      simp only [PeerRow.brief]

theorem registration_mirrors (now : ℕ) (peers : PeerTable) (id : PeerID) (e : Entry) :
    (fun d => ((PeerWrite.upsert (registrationPeer id e)).perform dialect now peers d).map PeerRow.brief) =
      (PeerWrite.upsert (registrationPeer id e)).onRows fun d => (peers d).map PeerRow.brief := by
  have hpk (row : PeerRow) : ((registrationPeer id e).pk.or row.pk).getD [] =
      (registrationPeer id e).pk.getD (row.pk.getD []) := by
    cases (registrationPeer id e).pk <;> rfl
  simp only [PeerWrite.perform,PeerTable.upsertPeer,PeerWrite.onRows]
  rw [map_update]
  congr 2
  have hid : (registrationPeer id e).id=id := rfl
  rw [hid]
  cases hrow : peers id with
  | none => cases dialect <;> rfl
  | some row =>
    cases dialect with
    | sqlite =>
      simp only [map_some,PeerRow.onConflict,PeerRow.merge,PeerRow.brief,hpk]
      rfl
    | postgres => simp [PeerRow.onConflict,PeerRow.merge,PeerRow.brief,hpk]

namespace Server
variable {s : Server} {env : Environment}

theorem upsertPeer_rows (db : Database) (id : PeerID) (e : Entry) (hf : db.fails (.upsertPeer id)=false) :
    (db.upsertPeer id (hexEncode e.uuid) e.pk).peers=(PeerWrite.upsert (registrationPeer id e)).onRows db.peers := by
  have hpk (old : Bytes) : (registrationPeer id e).pk.getD old = if e.pk=[] then old else e.pk := by
    unfold registrationPeer
    dsimp only
    split <;> rfl
  unfold Database.upsertPeer
  rw [if_neg (by rw [hf]; decide)]
  simp only [PeerWrite.onRows,hpk]
  show update db.peers id _=update db.peers id _
  congr 2
  have hid : (registrationPeer id e).id=id := rfl
  rw [hid]
  cases db.peers id with
  | none =>
    simp only [registrationPeer,Row.mk.injEq,and_true,true_and]
    split <;> simp_all
  | some row =>
    simp only [registrationPeer,unlessEmpty_empty]
    rfl

variable (id : PeerID)

theorem peerPublicKey_rows (e : Option Entry) : (s.peerPublicKey id e).2.db.peers=s.db.peers := by
  unfold peerPublicKey
  split
  · rfl
  · split
    · rfl
    · split
      · split <;> rfl
      · rfl

def written (rows : PeerID → Option Row) : Option PeerWrite → PeerID → Option Row
  | none => rows
  | some w => w.onRows rows

theorem updatePeerStatus_rows (ip : IP) :
    (s.updatePeerStatus env id ip).db.peers=written s.db.peers (statusWrite env id ip) := by
  unfold updatePeerStatus statusWrite
  by_cases hw : env.writesStatus=true
  · rw [if_pos hw,if_pos hw]
    show _ = match (s.db.peers id).filter fun row => !row.softDeleted with | none => _ | some row => _
    cases (s.db.peers id).filter fun row => !row.softDeleted <;> rfl
  · rw [if_neg hw,if_neg hw]
    rfl

theorem claimEntry_rows (existing : Option Row) (m : RegisterPk) (addr : Addr) :
    (s.claimEntry id existing m addr).server.db.peers=written s.db.peers (s.claimWrite id existing m addr) := by
  unfold claimEntry
  dsimp only
  split
  · rename_i hu
    have hw : s.claimWrite id existing m addr=none := if_pos hu
    rw [hw]
    split <;> rfl
  · rename_i hu
    split
    · rename_i hp
      have hw : s.claimWrite id existing m addr=none := (if_neg hu).trans (if_pos hp)
      rw [hw]
      split <;> rfl
    · rename_i hp
      have hrest : s.claimWrite id existing m addr = if s.db.fails (.upsertPeer id) then none
          else some (.upsert (registrationPeer id (s.registered (s.claimedEntry id existing) m addr))) :=
        (if_neg hu).trans (if_neg hp)
      have hput (e : Entry) (p : Prop) [Decidable p] : (if p then s else {s with peers := s.peers.put e}).db=s.db := by
        split <;> rfl
      rw [hput,hrest]
      by_cases hf : s.db.fails (.upsertPeer id)=true
      · rw [if_pos hf]
        unfold Database.upsertPeer
        rw [if_pos hf]
        rfl
      · rw [if_neg hf]
        exact upsertPeer_rows s.db id _ (Bool.eq_false_iff.mpr hf)

variable {m : RegisterPk}

theorem processIDChange_rows (h : (s.processIDChange m).result ≠ .ok) :
    (s.processIDChange m).server.db.peers=s.db.peers := by
  have hchange {r : Result} {db : Database} (hc : s.db.changePeerID m.oldID m.id=(r,db)) (hr : r ≠ .ok) :
      db.peers=s.db.peers := by
    unfold Database.changePeerID at hc
    split at hc
    · cases hc
      rfl
    · split at hc
      · cases hc
        rfl
      · split at hc
        · cases hc
          rfl
        · cases hc
          exact absurd rfl hr
  revert h
  unfold processIDChange
  split
  · exact fun _ => rfl
  · split
    · exact fun _ => rfl
    · exact fun _ => rfl
    · split
      · exact fun _ => rfl
      · split
        · exact fun _ => rfl
        · split
          · exact fun _ => rfl
          · split
            · split <;> exact fun h => absurd rfl h
            · rename_i hc
              exact fun h => hchange hc h
          · exact fun _ => rfl

theorem processRegisterPk_rows {addr : Addr} (h : m.oldID≠"" → (s.processRegisterPk m addr).result ≠ .ok) :
    (s.processRegisterPk m addr).server.db.peers=written s.db.peers (s.registerPkWrite m addr) := by
  revert h
  unfold processRegisterPk registerPkWrite
  cases s.refusedRegistration m addr with
  | some r => exact fun _ => rfl
  | none =>
    dsimp only
    by_cases hold : m.oldID≠""
    · rw [if_pos hold,if_pos hold]
      exact fun h => processIDChange_rows (h hold)
    · rw [if_neg hold,if_neg hold]
      intro _
      cases s.resolveRegistrationPeerID m.id addr.ip m.uuid m.pk with
      | none => rfl
      | some id =>
        dsimp only
        split
        · rfl
        · have hadm:=(admitRegistration_drops (s := s) id).rows
          generalize hs : s.admitRegistration id=result at hadm ⊢
          obtain ⟨admitted,t⟩:=result
          cases admitted with
          | error r => exact hadm
          | ok existing =>
            obtain ⟨-,rfl⟩:=admitRegistration_ok.mp hs
            exact claimEntry_rows id existing m addr

theorem handleRegisterPk_rows {transport : ConnType} {addr : Addr}
    (h : m.oldID≠"" → (s.handleRegisterPk transport m addr).result ≠ .ok) :
    (s.handleRegisterPk transport m addr).server.db.peers=written s.db.peers (s.registerPkWrite m addr) := by
  cases transport with
  | udp => exact processRegisterPk_rows h
  | tcp =>
    have hopen : (s.openTCP addr).db.peers=s.db.peers := by
      unfold openTCP
      split <;> rfl
    have hwrite : (s.openTCP addr).registerPkWrite m addr=s.registerPkWrite m addr := by
      unfold openTCP
      split
      · rfl
      · refine Option.ext fun w => ?_
        rw [registerPkWrite_iff,registerPkWrite_iff]
        constructor
        · rintro ⟨id,existing,⟨h1,h2,h3⟩,hfull,⟨h4,h5,h6,h7⟩,hw⟩
          exact ⟨id,existing,⟨h1,h2,h3⟩,hfull,⟨h4,h5,h6,h7⟩,hw⟩
        · rintro ⟨id,existing,⟨h1,h2,h3⟩,hfull,⟨h4,h5,h6,h7⟩,hw⟩
          exact ⟨id,existing,⟨h1,h2,h3⟩,hfull,⟨h4,h5,h6,h7⟩,hw⟩
    rw [← hopen,← hwrite]
    exact processRegisterPk_rows h
  | ws =>
    have hprocess : m.oldID≠"" → (s.processRegisterPk m addr).result ≠ .ok := by
      intro hold hok
      refine h hold ?_
      unfold handleRegisterPk
      dsimp only
      rw [if_neg (by rw [hok]; simp)]
      exact hok
    have hbind (t : Server) (id : PeerID) : (t.bindPeerWSConn id addr).db=t.db := by
      unfold bindPeerWSConn
      split <;> rfl
    refine Eq.trans ?_ (processRegisterPk_rows hprocess)
    unfold handleRegisterPk
    dsimp only
    split
    · rfl
    · exact congrArg (fun db => db.peers) (hbind _ _)

theorem heartbeat_rows {t : Server} {id : PeerID} {ip : IP} (h : t.db.peers=s.db.peers) :
    (t.updatePeerStatus env id ip).db.peers=written s.db.peers (statusWrite env id ip) :=
  h ▸ updatePeerStatus_rows id ip

theorem unbanned_iff {id : PeerID} {e : Entry} :
    s.unbanned id e=true ↔ e.banned=false ∧ s.db.isPeerBanned id=.ok false := by
  simp [unbanned]

theorem heartbeatPeer_rows (env : Environment) (id : PeerID) (e : Entry) (raddr : Addr) :
    (s.heartbeatPeer env id e raddr).2.db.peers =
      written s.db.peers (if s.unbanned id e then statusWrite env id raddr.ip else none) := by
  unfold heartbeatPeer
  by_cases hb : e.banned=true
  · rw [if_pos hb,if_neg fun h => absurd (unbanned_iff.mp h).1 (by simp [hb])]
    exact (revokeBannedPeerAccess_drops id none).rows
  · rw [if_neg hb]
    split
    · rename_i hq
      rw [if_neg fun h => absurd (unbanned_iff.mp h).2 (by simp [hq])]
      rfl
    · rename_i hq
      rw [if_neg fun h => absurd (unbanned_iff.mp h).2 (by simp [hq])]
      exact (revokeBannedPeerAccess_drops id none).rows
    · rename_i hq
      rw [if_pos (unbanned_iff.mpr ⟨Bool.eq_false_iff.mpr hb,hq⟩)]
      exact heartbeat_rows (peerPublicKey_rows id (some e))

theorem heartbeatPeerWS_rows (env : Environment) (id : PeerID) (e : Entry) (addr : Addr) :
    (s.heartbeatPeerWS env id e addr).2.db.peers =
      written s.db.peers (if s.unbanned id e&&!s.rejectIfPeerSoftDeleted id then statusWrite env id addr.ip else none) := by
  unfold heartbeatPeerWS
  by_cases hb : e.banned=true
  · rw [if_pos hb,if_neg (by simp [unbanned,hb])]
    exact (revokeBannedPeerAccess_drops id none).rows
  · rw [if_neg hb]
    by_cases hd : s.rejectIfPeerSoftDeleted id=true
    · rw [if_pos hd,if_neg (by simp [hd])]
      rfl
    · rw [if_neg hd]
      split
      · rename_i hq
        rw [if_neg (by simp [unbanned,hq])]
        rfl
      · rename_i hq
        rw [if_neg (by simp [unbanned,hq])]
        exact (revokeBannedPeerAccess_drops id none).rows
      · rename_i hq
        rw [if_pos (by simp [unbanned,hb,hq,hd])]
        exact heartbeat_rows rfl

theorem newPeer_rows (addr : Addr) :
    (s.newPeer env id addr).2.db.peers=written s.db.peers (s.newPeerWrite env id addr) ∧
      (s.newPeerWS env id addr).2.db.peers=written s.db.peers (s.newPeerWrite env id addr) := by
  have hp:=(checkEnrollmentPermission_drops (s := s) id).rows
  unfold newPeer newPeerWS newPeerWrite
  by_cases hd : s.rejectIfPeerSoftDeleted id=true
  · simp only [hd,if_true]
    exact ⟨rfl,rfl⟩
  · simp only [hd]
    by_cases hperm : s.enrollmentPermitted id=true
    · have hcheck : s.checkEnrollmentPermission id=(true,s) := by
        unfold checkEnrollmentPermission
        exact if_pos hperm
      simp only [hcheck,hperm]
      cases hq : s.db.isPeerBanned id with
      | error e => exact ⟨rfl,rfl⟩
      | ok banned =>
        cases banned with
        | true => exact ⟨(revokeBannedPeerAccess_drops id none).rows,(revokeBannedPeerAccess_drops id none).rows⟩
        | false => exact ⟨heartbeat_rows rfl,heartbeat_rows rfl⟩
    · have hcheck : (s.checkEnrollmentPermission id).1=false := by
        unfold checkEnrollmentPermission
        rw [if_neg hperm]
      generalize s.checkEnrollmentPermission id=result at hcheck hp ⊢
      obtain ⟨permitted,t⟩:=result
      dsimp only at hcheck hp
      subst hcheck
      simp only [hperm,Bool.false_and,Bool.false_eq_true,if_false]
      constructor
      · split <;> exact hp
      · split <;> exact hp

theorem registerPeer_rows (addr : Addr) :
    (s.handleRegisterPeer env id addr).2.db.peers=written s.db.peers (s.registerPeerWrite env .udp id addr) ∧
      (s.handleRegisterPeerWS env id addr).2.db.peers=written s.db.peers (s.registerPeerWrite env .ws id addr) := by
  unfold handleRegisterPeer handleRegisterPeerWS registerPeerWrite
  cases s.registrationID id addr with
  | none => exact ⟨rfl,rfl⟩
  | some id =>
    dsimp only
    split
    · exact ⟨rfl,rfl⟩
    · cases s.peers.get id with
      | some e =>
        have hudp:=s.heartbeatPeer_rows env id e addr
        have hws:=s.heartbeatPeerWS_rows env id e addr
        refine ⟨hudp.trans ?_,hws.trans ?_⟩
        · simp
        · simp
      | none => exact newPeer_rows id addr

theorem perform_rows (a : KeyAction) (h : s.renames env a=none) :
    (s.perform env a).db.peers=written s.db.peers (s.peerWrite env a) := by
  cases a with
  | registerPeer id raddr => exact (registerPeer_rows (s := s.underEnv env) id raddr).1
  | registerPeerWS id addr =>
    have hbind (t : Server) : (t.bindPeerWSConn id addr).db=t.db := by
      unfold bindPeerWSConn
      split <;> rfl
    refine Eq.trans ?_ (registerPeer_rows (s := s.underEnv env) id addr).2
    show ((s.underEnv env).registerPeerWS env id addr).db.peers=_
    unfold registerPeerWS
    split
    · rename_i t ht
      rw [ht]
    · rename_i b t ht
      rw [ht]
      exact congrArg (fun db => db.peers) (hbind t)
  | registerPk transport m addr =>
    refine handleRegisterPk_rows (s := s.underEnv env) fun hold hok => ?_
    have hrenamed : s.renames env (.registerPk transport m addr)=some (m.oldID,m.id) := if_pos ⟨hold,hok⟩
    rw [hrenamed] at h
    cases h
  | keepAlive | tick | cleanup | restart => rfl

end Server

theorem PeerWrite.perform_brief {s : Server} {env : Environment} {a : KeyAction} {w : PeerWrite}
    (h : s.peerWrite env a=some w) (dialect : Dialect) (now : ℕ) (peers : PeerTable) :
    (fun d => (w.perform dialect now peers d).map PeerRow.brief)=w.onRows fun d => (peers d).map PeerRow.brief := by
  rcases Server.peerWrite_cases h with ⟨id,ip,rfl⟩ | ⟨id,e,-,rfl⟩
  · exact status_mirrors dialect now peers id ip
  · exact registration_mirrors dialect now peers id e

theorem after_mirrors (x : StoredServer) (dialect : Dialect) (env : Environment) (a : KeyAction)
    (h : x.server.renames env a=none) : Mirrors (x.after dialect env a) (x.server.perform env a).db := by
  have hview : x.server.db.peers = fun d => (x.peers d).map PeerRow.brief := funext x.mirrors
  intro id
  rw [Server.perform_rows a h,hview]
  unfold StoredServer.after
  cases hw : x.server.peerWrite env a with
  | none => rfl
  | some w => exact (congrFun (PeerWrite.perform_brief hw dialect x.server.now x.peers) id).symm

theorem admin_state_kept_iff (x : StoredServer) (dialect : Dialect) (env : Environment) (a : KeyAction) (id : PeerID)
    (row : PeerRow) (hrow : x.peers id=some row) :
    (∃ row', x.after dialect env a id=some row' ∧ row'.adminState=row.adminState) ↔
      row.disabled=false ∨ ¬ x.server.Reregisters env id a := by
  constructor
  · rintro ⟨row',hafter,hsame⟩
    by_cases hre : x.server.Reregisters env id a
    · obtain ⟨e,hw⟩:=hre.write
      obtain ⟨written,hwritten,hadmin⟩:=upsert_adminState dialect x.server.now hrow id e
      rw [if_pos rfl] at hadmin
      have heq : written=row' := by
        unfold StoredServer.after at hafter
        rw [hw] at hafter
        exact Option.some.inj (hwritten.symm.trans hafter)
      have hdisabled : row.adminState.disabled=false := by
        rw [← hsame,← heq,hadmin]
      exact .inl hdisabled
    · exact .inr hre
  · intro h
    unfold StoredServer.after
    cases hw : x.server.peerWrite env a with
    | none => exact ⟨row,hrow,rfl⟩
    | some w =>
      rcases Server.peerWrite_cases hw with ⟨d,ip,rfl⟩ | ⟨d,e,hre,rfl⟩
      · exact status_adminState x.server.now hrow d statusOnline (some ip)
      · obtain ⟨row',hafter,hadmin⟩:=upsert_adminState dialect x.server.now hrow d e
        refine ⟨row',hafter,hadmin.trans ?_⟩
        split
        · rename_i hd
          subst hd
          have hdisabled:=h.resolve_right fun hn => hn hre
          show {row.adminState with disabled := false}=row.adminState
          rw [← hdisabled]
          rfl
        · rfl

/-- `device-7` is stored with its key, a note and an owner. -/
def notedRow : PeerRow where
  uuid := []
  pk := some [1]
  ip := none
  user := "anna"
  hostname := ""
  os := ""
  version := ""
  status := "OFFLINE"
  natType := 0
  lastOnline := none
  createdAt := none
  disabled := false
  banned := false
  banReason := ""
  bannedAt := none
  softDeleted := false
  deletedAt := none
  note := "front desk"
  tags := "kiosk"
  heartbeatSeq := 4
  deviceType := "desktop"
  linkedPeerID := ""
  displayName := "Reception"
  guid := ""

def StoredServer.ofRow (row : PeerRow) : StoredServer where
  server := { Server.empty with db := {Server.empty.db with
    peers := fun id => (if id="device-7" then some row else none).map PeerRow.brief}}
  peers id := if id="device-7" then some row else none
  mirrors _ := rfl

def keyMessage : KeyAction := .registerPk .udp ⟨"device-7","",[],[1],false⟩ Keyed.client

theorem admin_state_kept_noted :
    ((StoredServer.ofRow notedRow).server.peerWrite Keyed.answering keyMessage).isSome ∧
      ∃ row', (StoredServer.ofRow notedRow).after .postgres Keyed.answering keyMessage "device-7" = some row' ∧
        row'.adminState=notedRow.adminState := ⟨by decide,
    (admin_state_kept_iff (.ofRow notedRow) .postgres Keyed.answering keyMessage "device-7" notedRow rfl).mpr (.inl rfl)⟩

theorem disabled_device_enabled :
    ¬ ∀ (x : StoredServer) (dialect : Dialect) (env : Environment) (a : KeyAction) (id : PeerID) (row : PeerRow),
      x.peers id=some row → ∃ row', x.after dialect env a id=some row' ∧ row'.adminState=row.adminState := by
  intro h
  obtain ⟨row',hafter,hsame⟩:=h (.ofRow {notedRow with disabled := true}) .sqlite Keyed.answering keyMessage "device-7"
    {notedRow with disabled := true} rfl
  have henabled : ((StoredServer.ofRow {notedRow with disabled := true}).after .sqlite Keyed.answering keyMessage
      "device-7").map PeerRow.disabled=some false := by decide
  rw [hafter] at henabled
  have hdisabled : row'.disabled=true := congrArg AdminState.disabled hsame
  simp only [map_some,some.injEq,hdisabled,Bool.true_eq_false] at henabled

end BetterDesk.Signal
