import BetterDesk.Signal.Devices
import BetterDesk.Api.Credentials

/-! # Who may start a session (signal/handler.go) -/

namespace BetterDesk.Signal
open Db Text Auth Option Function

inductive Initiator
  | device (id : PeerID)
  | panelWebRemote
  | sharedNAT
  | legacyController (addr : Addr)
  | sessionUser (userID : ℕ)
  deriving DecidableEq

namespace Server
variable (s : Server)

def finalizeAuthorizedInitiator (initiatorID : PeerID) (memoryBanned queueManagedClaim : Bool) :
    Bool × Server := if memoryBanned then (false,s.revokeBannedPeerAccess initiatorID none)
  else match s.db.isPeerBanned initiatorID with
    | .error _ => (false,s)
    | .ok true => (false,s.revokeBannedPeerAccess initiatorID none)
    | .ok false =>
      if s.db.isPeerSoftDeleted initiatorID=.ok true then (false,s)
      else if s.db.getPendingDevice initiatorID=.ok true then (false,s)
      else if s.cfg.mode=managed ∨ s.cfg.mode=locked then
        match s.db.getPeer initiatorID with
        | .ok (some row) => (!isInboundOnlyPeer row,s)
        | _ => (false,if s.cfg.mode=managed ∧ queueManagedClaim ∧ initiatorID≠"" then
            s.recordPendingEnrollment initiatorID else s)
      else match s.db.getPeer initiatorID with
        | .error _ => (false,s)
        | .ok row => (!row.any isInboundOnlyPeer,s)

/-- The outcome of `finalizeAuthorizedInitiator` with the device it is about. -/
def finalize (initiatorID : PeerID) (memoryBanned queueManagedClaim : Bool) :
    Option Initiator × Server :=
  let r:=s.finalizeAuthorizedInitiator initiatorID memoryBanned queueManagedClaim
  (if r.1 then some (.device initiatorID) else none,r.2)

def userMayConnect (userID : ℕ) : Bool := match s.db.getUserByID userID with
  | .ok (some role) => roleHasPermission role permDeviceConnect
  | _ => false

def authorizeViaClientToken (token : Bytes) (operatorOnly : Bool) : Option Initiator × Server :=
  match s.db.getClientSessionByTokenHash (s.sha256Hex (lowerBytes (trimSpace token))) s.now with
  | .ok (some sess) =>
    if operatorOnly&&!s.userMayConnect sess.userID then (none,s)
    else
      let initiatorID:=trimString sess.clientID
      if initiatorID="" then
        if s.cfg.mode=managed ∨ s.cfg.mode=locked then (none,s)
        else (some (.sessionUser sess.userID),s)
      else match s.db.isPeerBanned initiatorID with
        | .error _ => (none,s)
        | .ok true => (none,s.revokeBannedPeerAccess initiatorID (some sess))
        | .ok false => s.finalize initiatorID false true
  | _ => (none,s)

def livePeersAt (ip : IP) : List Entry :=
  (s.peers.findAllByIP ip).filter fun e => !e.isExpired s.now

def authorizeViaUdpPortHint (raddr : Addr) (udpPort : ℤ) : Option Entry :=
  if udpPort≤0 ∨ 65535<udpPort then none
  else
    let port:=udpPort.toNat
    match (s.peers.findByAddr ⟨raddr.ip,port⟩).filter fun e => !e.isExpired s.now with
    | some e => some e
    | none => match (s.livePeersAt raddr.ip).filter fun e => e.udpAddr.any (·.port=port) with
      | [e] => some e
      | _ => none

def tcpSessionPeerID (raddr : Addr) : PeerID := (s.tcpPunchConns.load raddr).getD ""

/-- Without a token: the panel, the exact endpoint, the port hint, and at last
the address alone. -/
def authorizeByAddress (raddr : Addr) (udpPort : ℤ) : Option Initiator × Server :=
  if s.cfg.ipIsPanelSignalProxy raddr.ip then (some .panelWebRemote,s)
  else match (s.peers.findByAddr raddr).filter fun e => !e.isExpired s.now with
    | some e => s.finalize e.id e.banned false
    | none => match s.authorizeViaUdpPortHint raddr udpPort with
      | some e => s.finalize e.id e.banned false
      | none => match s.livePeersAt raddr.ip with
        | [] =>
          if s.cfg.allowLegacyOutbound&&s.cfg.enrollmentMode="open" then
            (some (.legacyController raddr),s)
          else (none,s)
        | [e] => s.finalize e.id e.banned false
        | _ => if s.cfg.connection.allowSharedNATInitiator then (some .sharedNAT,s) else (none,s)

def requireAuthorizedInitiator (raddr : Addr) (token : Bytes) (udpPort : ℤ) :
    Option Initiator × Server := let operatorOnly:=s.cfg.connection.operatorOnlyOutbound
  let loginOnly:=s.cfg.connection.loggedInOnlyInitiator||operatorOnly
  let bound:=s.tcpSessionPeerID raddr
  let tok:=trimSpace token
  if loginOnly&&s.cfg.ipIsPanelSignalProxy raddr.ip then (some .panelWebRemote,s)
  else if !loginOnly&&bound≠"" then
    s.finalize bound ((s.peers.get bound).any Entry.banned) false
  else if tok≠[]&&Api.isOpaqueClientToken tok then
    match s.authorizeViaClientToken tok operatorOnly with
    | (some i,s) => (some i,s)
    | (none,s) =>
      if loginOnly then (none,s)
      -- a token that is not accepted leaves the port hint, never the address alone
      else match s.authorizeViaUdpPortHint raddr udpPort with
        | some e => s.finalize e.id e.banned false
        | none => (none,s)
  else if loginOnly then (none,s)
  else s.authorizeByAddress raddr udpPort

def rest : Server :=
  { s with
    registry := .empty
    peers := []
    db := {s.db with sessions := [],pending := fun _ => false}}

structure Keeps (s s' : Server) : Prop where
  rest : s'.rest=s.rest
  issued : s'.registry.issued=s.registry.issued
  pending : ∀ id, s.db.pending id=true → s'.db.pending id=true

namespace Keeps

theorem refl (s : Server) : Keeps s s := ⟨rfl,rfl,fun _ h => h⟩

theorem trans {a b c : Server} (hab : Keeps a b) (hbc : Keeps b c) : Keeps a c :=
  ⟨hbc.rest.trans hab.rest,hbc.issued.trans hab.issued,
    fun id h => hbc.pending id (hab.pending id h)⟩

variable {s s' : Server} (k : Keeps s s')
include k

theorem cfg : s'.cfg=s.cfg := (congrArg Server.cfg k.rest :)

theorem fails : s'.db.fails=s.db.fails := (congrArg (fun s => s.db.fails) k.rest :)

theorem dbPeers : s'.db.peers=s.db.peers := (congrArg (fun s => s.db.peers) k.rest :)

end Keeps

theorem revokeClientSessionsForDevice_keeps (c : ClientSession) : Keeps s (s.revokeClientSessionsForDevice c) := by
  unfold revokeClientSessionsForDevice
  split
  · exact Keeps.refl s
  · exact ⟨rfl,rfl,fun _ h => h⟩

theorem revokeBannedPeerAccess_keeps (id : PeerID) (c : Option ClientSession) :
    Keeps s (s.revokeBannedPeerAccess id c) := by
  have hrevoke : Keeps s {s with
      registry := s.registry.revokeForPeer s.now id
      peers := s.peers.remove id} :=
    ⟨rfl,(Relay.Registry.revokeForPeer_sub s.registry s.now id).issued,fun _ h => h⟩
  unfold revokeBannedPeerAccess
  split
  · exact Keeps.refl s
  · dsimp only
    split
    · exact hrevoke.trans (revokeClientSessionsForDevice_keeps _ _)
    · exact hrevoke

theorem recordPendingEnrollment_keeps (id : PeerID) : Keeps s (s.recordPendingEnrollment id) := by
  unfold recordPendingEnrollment
  split
  · exact Keeps.refl s
  · split
    · exact Keeps.refl s
    · split
      · exact Keeps.refl s
      · refine ⟨rfl,rfl,fun id' h => ?_⟩
        by_cases he : id'=id
        · rw [he]
          exact update_self ..
        · exact (update_of_ne he ..).trans h

theorem finalizeAuthorizedInitiator_keeps (id : PeerID) (b q : Bool) :
    Keeps s (s.finalizeAuthorizedInitiator id b q).2 := by
  unfold finalizeAuthorizedInitiator
  split
  · exact revokeBannedPeerAccess_keeps s id none
  · split
    · exact Keeps.refl s
    · exact revokeBannedPeerAccess_keeps s id none
    · split
      · exact Keeps.refl s
      · split
        · exact Keeps.refl s
        · split
          · split
            · exact Keeps.refl s
            · dsimp only
              split
              · exact recordPendingEnrollment_keeps s id
              · exact Keeps.refl s
          · split <;> exact Keeps.refl s

theorem authorizeViaClientToken_keeps (token : Bytes) (o : Bool) : Keeps s (s.authorizeViaClientToken token o).2 := by
  unfold authorizeViaClientToken
  split
  · dsimp only
    split
    · exact Keeps.refl s
    · split
      · split <;> exact Keeps.refl s
      · split
        · exact Keeps.refl s
        · dsimp only
          exact revokeBannedPeerAccess_keeps s _ _
        · exact finalizeAuthorizedInitiator_keeps s _ _ _
  · exact Keeps.refl s

theorem authorizeByAddress_keeps (raddr : Addr) (udpPort : ℤ) : Keeps s (s.authorizeByAddress raddr udpPort).2 := by
  unfold authorizeByAddress
  split
  · exact Keeps.refl s
  · split
    · exact finalizeAuthorizedInitiator_keeps s _ _ _
    · split
      · exact finalizeAuthorizedInitiator_keeps s _ _ _
      · split
        · split <;> exact Keeps.refl s
        · exact finalizeAuthorizedInitiator_keeps s _ _ _
        · split <;> exact Keeps.refl s

theorem requireAuthorizedInitiator_keeps (raddr : Addr) (token : Bytes) (udpPort : ℤ) :
    Keeps s (s.requireAuthorizedInitiator raddr token udpPort).2 := by
  unfold requireAuthorizedInitiator
  dsimp only
  split
  · exact Keeps.refl s
  · split
    · exact finalizeAuthorizedInitiator_keeps s _ _ _
    · split
      · have keep:=authorizeViaClientToken_keeps s (trimSpace token)
          s.cfg.connection.operatorOnlyOutbound
        split
        · rename_i i s' heq
          rw [heq] at keep
          exact keep
        · rename_i s' heq
          rw [heq] at keep
          split
          · exact keep
          · split
            · exact keep.trans (finalizeAuthorizedInitiator_keeps s' _ _ _)
            · exact keep
      · split
        · exact Keeps.refl s
        · exact authorizeByAddress_keeps s raddr udpPort

/-- The checks of `finalizeAuthorizedInitiator`, as far as they look at answers. -/
structure Checked (mode : String) (db : Database) (id : PeerID) : Prop where
  banned : db.isPeerBanned id=.ok false
  softDeleted : db.isPeerSoftDeleted id ≠ .ok true
  pending : db.getPendingDevice id ≠ .ok true
  row : ∃ row, db.getPeer id=.ok row ∧ row.any isInboundOnlyPeer=false ∧
    (mode=managed ∨ mode=locked → row.isSome)

variable {id : PeerID}

theorem finalizeAuthorizedInitiator_checked {b q : Bool}
    (h : (s.finalizeAuthorizedInitiator id b q).1=true) : Checked s.cfg.mode s.db id := by
  unfold finalizeAuthorizedInitiator at h
  split at h
  · cases h
  · split at h
    · cases h
    · cases h
    · rename_i hb
      split at h
      · cases h
      · rename_i hd
        split at h
        · cases h
        · rename_i hp
          split at h
          · split at h
            · rename_i row hr
              refine ⟨hb,hd,hp,some row,hr,?_,fun _ => rfl⟩
              simpa only [any_some,Bool.not_eq_true'] using h
            · cases h
          · rename_i hm
            split at h
            · cases h
            · rename_i row hr
              refine ⟨hb,hd,hp,row,hr,?_,fun hm' => absurd hm' hm⟩
              simpa only [Bool.not_eq_true'] using h

theorem finalize_some {id' : PeerID} {b q : Bool}
    (h : (s.finalize id' b q).1=some (.device id)) : Checked s.cfg.mode s.db id := by
  unfold finalize at h
  dsimp only at h
  split at h
  · rename_i hf
    cases h
    exact finalizeAuthorizedInitiator_checked s hf
  · cases h

theorem authorizeViaClientToken_some {token : Bytes} {o : Bool}
    (h : (s.authorizeViaClientToken token o).1=some (.device id)) : Checked s.cfg.mode s.db id := by
  unfold authorizeViaClientToken at h
  split at h
  · dsimp only at h
    split at h
    · cases h
    · split at h
      · split at h <;> cases h
      · split at h
        · cases h
        · cases h
        · exact finalize_some s h
  · cases h

theorem authorizeByAddress_some {raddr : Addr} {udpPort : ℤ}
    (h : (s.authorizeByAddress raddr udpPort).1=some (.device id)) : Checked s.cfg.mode s.db id := by
  unfold authorizeByAddress at h
  split at h
  · cases h
  · split at h
    · exact finalize_some s h
    · split at h
      · exact finalize_some s h
      · split at h
        · split at h <;> cases h
        · exact finalize_some s h
        · split at h <;> cases h

theorem Checked.back {mode : String} {s s' : Server} (k : Keeps s s')
    (h : Checked mode s'.db id) : Checked mode s.db id := by
  obtain ⟨hb,hd,hp,hr⟩:=h
  simp only [Database.isPeerBanned,Database.isPeerSoftDeleted,Database.getPendingDevice,
    Database.getPeer,Database.ask,k.fails,k.dbPeers] at hb hd hp hr
  refine ⟨hb,hd,fun hp' => hp ?_,hr⟩
  simp only [Database.getPendingDevice,Database.ask] at hp'
  split at hp'
  · cases hp'
  · rename_i hf
    rw [if_neg hf]
    exact congrArg _ (k.pending id (Except.ok.inj hp'))

theorem requireAuthorizedInitiator_checked {raddr : Addr} {token : Bytes} {udpPort : ℤ}
    (h : (s.requireAuthorizedInitiator raddr token udpPort).1=some (.device id)) : Checked s.cfg.mode s.db id := by
  unfold requireAuthorizedInitiator at h
  dsimp only at h
  split at h
  · cases h
  · split at h
    · exact finalize_some s h
    · split at h
      · have keep:=authorizeViaClientToken_keeps s (trimSpace token)
          s.cfg.connection.operatorOnlyOutbound
        split at h
        · rename_i i s' heq
          cases h
          exact authorizeViaClientToken_some s (by rw [heq])
        · rename_i s' heq
          rw [heq] at keep
          split at h
          · cases h
          · split at h
            · have hc:=finalize_some s' h
              rw [keep.cfg] at hc
              exact hc.back keep
            · cases h
      · split at h
        · cases h
        · exact authorizeByAddress_some s h

end Server

structure Answers where
  banned : Answer Bool
  softDeleted : Answer Bool
  pending : Answer Bool
  row : Answer (Option Row)

def Database.answersAbout (db : Database) (id : PeerID) : Answers :=
  ⟨db.isPeerBanned id,db.isPeerSoftDeleted id,db.getPendingDevice id,db.getPeer id⟩

/-- It is so in every store that answers like `db`. -/
def Known (db : Database) (id : PeerID) (fact : Tables → Prop) : Prop :=
  ∀ db' : Database, db'.answersAbout id=db.answersAbout id → fact db'.toTables

/-- In managed and locked mode a row of its own approves a device that is not
pending. -/
structure MayInitiate (mode : String) (id : PeerID) (t : Tables) : Prop where
  not_banned : ∀ row, t.peers id=some row → row.banned=false
  not_softDeleted : ∀ row, t.peers id=some row → row.softDeleted=false
  not_pending : t.pending id=false
  not_inboundOnly : ∀ row, t.peers id=some row → isInboundOnlyPeer row=false
  approved : mode=managed ∨ mode=locked → (t.peers id).isSome

namespace Database
variable {db : Database} {id : PeerID}

variable {b : Bool}

theorem isPeerBanned_ok : db.isPeerBanned id=.ok b ↔ db.fails (.isPeerBanned id)=false ∧
      (db.peers id).any Row.banned=b := db.ask_ok

theorem isPeerSoftDeleted_ok : db.isPeerSoftDeleted id=.ok b ↔ db.fails (.isPeerSoftDeleted id)=false ∧
      (db.peers id).any Row.softDeleted=b := db.ask_ok

theorem getPendingDevice_ok : db.getPendingDevice id=.ok b ↔ db.fails (.getPendingDevice id)=false ∧
      db.pending id=b := db.ask_ok

theorem getPeer_ok {row : Option Row} : db.getPeer id=.ok row ↔ db.fails (.getPeer id)=false ∧
      ((db.peers id).filter fun row => !row.softDeleted)=row := db.ask_ok

end Database

open Database

theorem answer_false {a : Answer Bool} (h : a ≠ .ok true) (hf : ∃ b, a=.ok b) : a=.ok false := by
  obtain ⟨b,rfl⟩:=hf
  cases b with
  | false => rfl
  | true => exact absurd rfl h

variable {mode : String} {db : Database} {id : PeerID}

theorem known_of_checked (h : Server.Checked mode db id) (hp : db.fails (.getPendingDevice id)=false)
    (hd : db.fails (.isPeerSoftDeleted id)=false ∨ ∃ row, db.getPeer id=.ok (some row)) :
    Known db id (MayInitiate mode id) := by
  intro db' hdb
  obtain ⟨row,hr,hin,hap⟩:=h.row
  have hban : db'.isPeerBanned id=.ok false := (congrArg Answers.banned hdb).trans h.banned
  have hrow : db'.getPeer id=.ok row := (congrArg Answers.row hdb).trans hr
  have hpend : db'.getPendingDevice id=.ok false :=
    (congrArg Answers.pending hdb).trans
      (answer_false h.pending ⟨_,getPendingDevice_ok.mpr ⟨hp,rfl⟩⟩)
  have hfilter:=(getPeer_ok.mp hrow).2
  have hsoft : ∀ r, db'.peers id=some r → r.softDeleted=false := by
    intro r hr'
    rcases hd with hd | ⟨found,hfound⟩
    · have hno : db'.isPeerSoftDeleted id=.ok false :=
        (congrArg Answers.softDeleted hdb).trans
          (answer_false h.softDeleted ⟨_,isPeerSoftDeleted_ok.mpr ⟨hd,rfl⟩⟩)
      have := (isPeerSoftDeleted_ok.mp hno).2
      rwa [hr'] at this
    · rw [hr] at hfound
      cases hfound
      obtain ⟨he,hv⟩:=filter_eq_some_iff.mp hfilter
      rw [hr'] at he
      cases he
      simpa only [Bool.not_eq_true'] using hv
  constructor
  · intro r hr'
    have := (isPeerBanned_ok.mp hban).2
    rwa [hr'] at this
  · exact hsoft
  · exact (getPendingDevice_ok.mp hpend).2
  · intro r hr'
    have hseen : row=some r := by
      rw [← hfilter,filter_eq_some_iff]
      exact ⟨hr',by rw [hsoft r hr']; rfl⟩
    simpa only [hseen,any_some] using hin
  · intro hm
    have hsome:=hap hm
    rw [← hfilter] at hsome
    cases hr' : db'.peers id with
    | none => rw [hr'] at hsome; cases hsome
    | some r => rfl

theorem pending_unknown (hp : db.fails (.getPendingDevice id)=true) : ¬ Known db id (MayInitiate mode id) := by
  intro h
  let db' : Database := {db with pending := update db.pending id true}
  have halike : db'.answersAbout id=db.answersAbout id := by
    have hq : db'.getPendingDevice id=db.getPendingDevice id := by
      rw [getPendingDevice,getPendingDevice,db.ask_failed _ hp,db'.ask_failed _ hp]
    simp only [answersAbout,hq]
    rfl
  have := (h db' halike).not_pending
  simp only [db',update_self,Bool.true_eq_false] at this

def deletedRow : Row := ⟨[],[],none,"","",false,false,true⟩

theorem softDeleted_unknown (hban : db.isPeerBanned id=.ok false) (hnone : db.getPeer id=.ok none)
    (hd : db.fails (.isPeerSoftDeleted id)=true) : ¬ Known db id (MayInitiate mode id) := by
  intro h
  let db' : Database := {db with peers := update db.peers id (some deletedRow)}
  have hrow : db'.peers id=some deletedRow := update_self ..
  have halike : db'.answersAbout id=db.answersAbout id := by
    have h1 : db'.isPeerBanned id=db.isPeerBanned id := by
      rw [hban,isPeerBanned_ok,hrow]
      exact ⟨(isPeerBanned_ok.mp hban).1,rfl⟩
    have h2 : db'.isPeerSoftDeleted id=db.isPeerSoftDeleted id := by
      rw [isPeerSoftDeleted,isPeerSoftDeleted,db.ask_failed _ hd,db'.ask_failed _ hd]
    have h3 : db'.getPeer id=db.getPeer id := by
      rw [hnone,getPeer_ok,hrow]
      exact ⟨(getPeer_ok.mp hnone).1,rfl⟩
    simp only [answersAbout,h1,h2,h3]
    rfl
  have := (h db' halike).not_softDeleted deletedRow hrow
  simp only [deletedRow,Bool.true_eq_false] at this

theorem initiator_known_iff (s : Server) (raddr : Addr) (token : Bytes) (udpPort : ℤ) (id : PeerID)
    (h : (s.requireAuthorizedInitiator raddr token udpPort).1=some (.device id)) :
    Known s.db id (MayInitiate s.cfg.mode id) ↔ s.db.fails (.getPendingDevice id)=false ∧
        (s.db.fails (.isPeerSoftDeleted id)=false ∨ ∃ row, s.db.getPeer id=.ok (some row)) := by
  have hc:=s.requireAuthorizedInitiator_checked h
  constructor
  · intro hk
    refine ⟨Bool.eq_false_iff.mpr fun hp => pending_unknown hp hk,?_⟩
    by_contra hno
    simp only [not_or,Bool.not_eq_false,not_exists] at hno
    obtain ⟨row,hr,-,-⟩:=hc.row
    cases row with
    | none => exact softDeleted_unknown hc.banned hr hno.1 hk
    | some row => exact hno.2 row hr
  · rintro ⟨hp,hd⟩
    exact known_of_checked hc hp hd

/-- A peer that is live at `203.0.113.7:21000`. -/
def livePeer (id : PeerID) : Entry :=
  ⟨id,[],[],none,some ⟨.v4 3405803783,21000⟩,0,.udp,none,0,false⟩

theorem initiator_known_live :
    Known {Server.empty with peers := [livePeer "device-7"]}.db "device-7"
      (MayInitiate "open" "device-7") :=
  (initiator_known_iff {Server.empty with peers := [livePeer "device-7"]}
    ⟨.v4 3405803783,21000⟩ [] 0 "device-7" (by decide)).mpr ⟨rfl,.inl rfl⟩

/-- The store with the deleted device `device-7`, which cannot be asked for
deletions at the moment. -/
def storeFailing : Database :=
  { Server.empty.db with
    peers := update (fun _ => none) "device-7" (some deletedRow)
    fails := fun q => q=.isPeerSoftDeleted "device-7"}

theorem deleted_device_initiates : ¬ ∀ (s : Server) (raddr : Addr) (token : Bytes) (udpPort : ℤ) (id : PeerID),
      (s.requireAuthorizedInitiator raddr token udpPort).1=some (.device id) →
        Known s.db id (MayInitiate s.cfg.mode id) := by
  intro h
  have hk:=h {Server.empty with peers := [livePeer "device-7"],db := storeFailing}
    ⟨.v4 3405803783,21000⟩ [] 0 "device-7" (by decide) storeFailing rfl
  have := hk.not_softDeleted deletedRow rfl
  simp only [deletedRow,Bool.true_eq_false] at this

end BetterDesk.Signal
