import BetterDesk.Signal.RenameHistory

/-! # Which devices receive sessions (signal/handler.go, signal/ws.go, api/branding_handlers.go) -/

namespace BetterDesk.Signal
open Db Text Exec Option Function

structure PendingDevice where
  uuid : Bytes
  ip : Option IP
  deviceType : String
  tags : String

inductive OperatorCall
  | getPending
  | getPeerIDState
  | resetSecureDeviceState
  | upsertPeer
  | deletePending
  | setRejected
  | deleteRejected
  | getPeer
  | banPeer
  | unbanPeer
  | deletePeer
  | isPeerSoftDeleted
  | restorePeer

inductive Decision
  | approved
  | rejected
  | cleared
  | deleted
  | restored
  deriving DecidableEq

/-- `audit`: the row has the ban of a rejection, and goes with it. -/
inductive OperatorAction
  | approve (id : PeerID) (pending : PendingDevice)
  | reject (id : PeerID) (pending : PendingDevice) (ban : Bool)
  | clearRejection (id : PeerID) (audit : Bool)
  | ban (id : PeerID)
  | unban (id : PeerID) (audit : Bool)
  | delete (id : PeerID) (hard revoke : Bool)
  | restore (id : PeerID)

def OperatorAction.device : OperatorAction → PeerID
  | approve id _ | reject id _ _ | clearRejection id _ | ban id | unban id _ | delete id _ _ | restore id => id

/-- The record that `createPeerFromEnrollment` stores. -/
def PendingDevice.enrolled (p : PendingDevice) (row : Option Row) : Row :=
  let deviceType := if trimString p.deviceType="" then "betterdesk" else trimString p.deviceType
  match row with
  | none => ⟨p.uuid,[],p.ip,deviceType,p.tags,false,false,false⟩
  | some row => {row with
      uuid := if p.uuid=[] then row.uuid else p.uuid
      ip := p.ip
      deviceType := deviceType
      tags := unlessEmpty p.tags row.tags
      disabled := false}

namespace Server
variable (s : Server) (fails : OperatorCall → Bool)

def setRow (id : PeerID) (row : Option Row) : Server :=
  {s with db := {s.db with peers := update s.db.peers id row}}

def setPending (id : PeerID) (pending : Bool) : Server :=
  {s with db := {s.db with pending := update s.db.pending id pending}}

def setRejected (id : PeerID) (rejected : Bool) : Server :=
  {s with db := {s.db with rejected := update s.db.rejected id rejected}}

def removePeer (id : PeerID) : Server := {s with peers := s.peers.remove id}

/-- With `resetSecureState`, a device that was removed is refused. -/
def createPeerFromEnrollment (id : PeerID) (p : PendingDevice) (resetSecureState : Bool) : Option Server :=
  if resetSecureState=true ∧ (fails .getPeerIDState=true ∨ (s.db.peers id).any Row.softDeleted=true ∨
    (s.db.peers id=none ∧ fails .resetSecureDeviceState=true)) then none
  else if fails .upsertPeer then none
  else some (s.setRow id (some (p.enrolled (s.db.peers id))))

def handleApproveDevice (id : PeerID) (p : PendingDevice) : Option Decision × Server :=
  if id="" ∨ fails .getPending=true ∨ s.db.pending id=false then (none,s)
  else match s.createPeerFromEnrollment fails id p true with
    | none => (none,s)
    | some s =>
      let s := if fails .deletePending then s else s.setPending id false
      (some .approved,if fails .deleteRejected then s else s.setRejected id false)

def banPeer (id : PeerID) : Server :=
  (s.setRow id ((s.db.peers id).map fun row => {row with
    banned := true
    ip := if row.softDeleted then row.ip else none})).removePeer id

def banRejected (id : PeerID) (p : PendingDevice) : Server :=
  let seen := if fails .getPeer then none else (s.db.peers id).filter fun row => !row.softDeleted
  let s := if seen=none then (s.createPeerFromEnrollment fails id p false).getD s else s
  if fails .banPeer then s else s.banPeer id

def handleRejectDevice (id : PeerID) (p : PendingDevice) (ban : Bool) : Option Decision × Server :=
  if id="" then (none,s)
  else
    let s := if fails .deletePending then s else s.setPending id false
    let s := if fails .setRejected then s else s.setRejected id true
    (some .rejected,if ban then s.banRejected fails id p else s)

def clearEnrollmentRejectionState (id : PeerID) : Server :=
  if fails .deleteRejected then s else s.setRejected id false

def removeEnrollmentRejectAuditPeer (id : PeerID) : Server :=
  let s:=s.removePeer id
  if fails .deletePeer then s else {s with db := s.db.hardDeletePeer id}

def handleClearEnrollmentRejection (id : PeerID) (audit : Bool) : Option Decision × Server :=
  if id="" then (none,s)
  else
    let s:=s.clearEnrollmentRejectionState fails id
    (some .cleared,if audit then s.removeEnrollmentRejectAuditPeer fails id else s)

def handleBanPeer (id : PeerID) : Option Decision × Server :=
  if fails .banPeer then (none,s) else (none,s.banPeer id)

def handleUnbanPeer (id : PeerID) (audit : Bool) : Option Decision × Server :=
  if audit then
    (some .cleared,(s.clearEnrollmentRejectionState fails id).removeEnrollmentRejectAuditPeer fails id)
  else if fails .unbanPeer then (none,s)
  else
    let s:=s.setRow id ((s.db.peers id).map fun row => {row with banned := false})
    let s:={s with peers := s.peers.map fun (e : Entry) => if e.id=id then {e with banned := false} else e}
    (some .cleared,s.clearEnrollmentRejectionState fails id)

def handleDeletePeer (id : PeerID) (hard revoke : Bool) : Option Decision × Server :=
  if fails .deletePeer then (none,s)
  else
    let s:={s with db := if hard then s.db.hardDeletePeer id else s.db.deletePeer id}
    if revoke=true ∧ hard=false then
      if fails .banPeer then (some .deleted,s)
      else (some .deleted,(s.setRow id ((s.db.peers id).map fun row => {row with banned := true})).removePeer id)
    else (some .deleted,s.removePeer id)

/-- The error of `UnbanPeer` is dropped. -/
def handleRestorePeer (id : PeerID) : Option Decision × Server :=
  if fails .isPeerSoftDeleted=true ∨ (s.db.peers id).any Row.softDeleted=false ∨ fails .restorePeer=true then
    (none,s)
  else (some .restored,s.setRow id ((s.db.peers id).map fun row => {row with
    softDeleted := false
    banned := row.banned&&fails .unbanPeer}))

def operate : OperatorAction → Option Decision × Server
  | .approve id p => s.handleApproveDevice fails id p
  | .reject id p ban => s.handleRejectDevice fails id p ban
  | .clearRejection id audit => s.handleClearEnrollmentRejection fails id audit
  | .ban id => s.handleBanPeer fails id
  | .unban id audit => s.handleUnbanPeer fails id audit
  | .delete id hard revoke => s.handleDeletePeer fails id hard revoke
  | .restore id => s.handleRestorePeer fails id

end Server

inductive Source
  | stored
  | approval
  | token
  | rejection

/-- The server, the latest decision about each device and the source of each row. -/
structure Admissions where
  server : Server
  decision : PeerID → Option Decision
  source : PeerID → Option Source

inductive AdmissionAction
  | message (env : Environment) (a : KeyAction)
  | changePeerID (env : Environment) (oldID newID : PeerID)
  | operator (fails : OperatorCall → Bool) (a : OperatorAction)
  | storePending (id : PeerID)
  | deviceToken (id : PeerID) (bound : Bool)

def carry {α : Type} (renamed : Option (PeerID × PeerID)) (f : PeerID → Option α) : PeerID → Option α :=
  match renamed with
  | none => f
  | some (old,new) => update (update f new (f old)) old none

def Config.Guarded (cfg : Config) : Prop := cfg.mode=managed ∨ cfg.mode=locked

namespace Admissions
variable (x : Admissions)

def start (s : Server) : Admissions := ⟨s,fun _ => none,fun id => (s.db.peers id).map fun _ => .stored⟩

def messaged (s t : Server) (source : PeerID → Option Source) (id : PeerID) : Option Source :=
  (source id).or (if s.db.deviceTokens id=true ∧ (t.db.peers id).isSome then some .token else none)

def performed (s : Server) : AdmissionAction → Admissions
  | .message env a =>
    let t:=s.perform env a
    let renamed:=s.renames env a
    ⟨t,carry renamed x.decision,messaged s t (carry renamed x.source)⟩
  | .changePeerID env old new =>
    let change:=(s.underEnv env).panelChangePeerID old new
    let renamed := if change.1 then some (old,new) else none
    ⟨change.2,carry renamed x.decision,carry renamed x.source⟩
  | .operator fails a =>
    let (decided,t):=s.operate fails a
    -- a row that appears without an approval is that of a rejection
    let source:=(t.db.peers a.device).map fun _ =>
      if decided=some .approved then .approval else (x.source a.device).getD .rejection
    ⟨t,update x.decision a.device (decided.or (x.decision a.device)),
      update x.source a.device source⟩
  | .storePending id => ⟨s.setPending id true,x.decision,x.source⟩
  | .deviceToken id bound =>
    ⟨{s with db := {s.db with deviceTokens := update s.db.deviceTokens id bound}},x.decision,x.source⟩

def step (a : Config × AdmissionAction) : Option Admissions := some (x.performed {x.server with cfg := a.1} a.2)

/-- The device has a row that was stored before, approved, or registered with a token. -/
def ApprovedRecord (id : PeerID) : Prop :=
  (x.server.db.peers id).isSome ∧ x.source id∈[some .stored,some .approval,some .token]

structure Eligible (id : PeerID) : Prop where
  approved : x.decision id=some .approved ∨ x.ApprovedRecord id
  clean : ∀ row, x.server.db.peers id=some row → row.banned=false ∧ row.disabled=false ∧ row.softDeleted=false

def asked (env : Environment) : Server := x.server.underEnv env

structure Answered (env : Environment) (id : PeerID) : Prop where
  named : id≠""
  read : env.fails (.getPeer id)=false
  settled : (x.asked env).isPendingEnrollment id=false

structure Unknown (env : Environment) (id : PeerID) : Prop extends Answered x env id where
  row : x.server.db.peers id=none
  state : env.fails (.getPeerIDState id)=false

structure Unbanned (env : Environment) (id : PeerID) : Prop extends Answered x env id where
  source : x.source id=some .rejection
  row : ∃ row, x.server.db.peers id=some row ∧ row.banned=false ∧ row.disabled=false ∧ row.softDeleted=false

section
variable {x}
variable {env : Environment} {id : PeerID}

theorem accepts_iff : (x.asked env).targetAcceptsInboundSession id=true ↔
    x.Answered env id ∧ ((x.server.db.peers id=none ∧ env.fails (.getPeerIDState id)=false) ∨
      ∃ row, x.server.db.peers id=some row ∧ row.banned=false ∧ row.disabled=false ∧ row.softDeleted=false) := by
  have hpeer : (x.asked env).db.getPeer id =
      if env.fails (.getPeer id) then .error () else .ok ((x.server.db.peers id).filter fun row => !row.softDeleted) := rfl
  have hstate : (x.asked env).db.getPeerIDState id = if env.fails (.getPeerIDState id) then .error () else .ok _ := rfl
  unfold Server.targetAcceptsInboundSession
  rw [hpeer]
  by_cases hid : id=""
  · rw [if_pos hid]
    exact iff_of_false Bool.noConfusion fun h => h.1.named hid
  · rw [if_neg hid]
    by_cases hread : env.fails (.getPeer id)=true
    · rw [if_pos hread]
      exact iff_of_false Bool.noConfusion fun h => absurd (h.1.read.symm.trans hread) Bool.noConfusion
    · rw [if_neg hread]
      dsimp only
      by_cases hsettled : (x.asked env).isPendingEnrollment id=true
      · rw [if_pos hsettled]
        exact iff_of_false Bool.noConfusion fun h => absurd (h.1.settled.symm.trans hsettled) Bool.noConfusion
      · have hanswered : x.Answered env id := ⟨hid,Bool.eq_false_iff.mpr hread,Bool.eq_false_iff.mpr hsettled⟩
        rw [if_neg hsettled,hstate]
        cases hrow : x.server.db.peers id with
        | none =>
          by_cases hfails : env.fails (.getPeerIDState id)=true
          · simp [hanswered,hfails]
          · have hrow' : (x.asked env).db.peers id=none := hrow
            simp [hanswered,hfails,hrow']
        | some row =>
          have hrow' : (x.asked env).db.peers id=some row := hrow
          cases hdeleted : row.softDeleted with
          | true =>
            by_cases hfails : env.fails (.getPeerIDState id)=true
            · simp [filter_some,hdeleted,hfails]
            · simp [filter_some,hdeleted,hfails,hrow']
          | false => simp [filter_some,hdeleted,hanswered]

end

end Admissions

namespace Server
variable {s : Server} {fails : OperatorCall → Bool}

variable {id c : PeerID}

theorem setRow_rows {row : Option Row} (hc : c≠id) : (s.setRow id row).db.peers c=s.db.peers c :=
  update_of_ne hc ..

theorem createPeer_rows {p : PendingDevice} {reset : Bool} {t : Server} (hc : c≠id)
    (h : s.createPeerFromEnrollment fails id p reset=some t) : t.db.peers c=s.db.peers c := by
  unfold createPeerFromEnrollment at h
  split at h
  · cases h
  · split at h
    · cases h
    · cases h
      exact setRow_rows hc

theorem banRejected_rows {p : PendingDevice} (hc : c≠id) : (s.banRejected fails id p).db.peers c=s.db.peers c := by
  have hcreated : ((s.createPeerFromEnrollment fails id p false).getD s).db.peers c=s.db.peers c := by
    cases ht : s.createPeerFromEnrollment fails id p false with
    | none => rfl
    | some t => exact createPeer_rows hc ht
  have hseen (q : Prop) [Decidable q] :
      (if q then (s.createPeerFromEnrollment fails id p false).getD s else s).db.peers c=s.db.peers c := by
    split
    · exact hcreated
    · rfl
  unfold banRejected
  dsimp only
  split
  · exact hseen _
  · exact (setRow_rows hc).trans (hseen _)

theorem removeAudit_rows (hc : c≠id) : (s.removeEnrollmentRejectAuditPeer fails id).db.peers c=s.db.peers c := by
  unfold removeEnrollmentRejectAuditPeer
  dsimp only
  split
  · rfl
  · exact update_of_ne hc ..

theorem clearRejection_rows : (s.clearEnrollmentRejectionState fails id).db.peers=s.db.peers := by
  unfold clearEnrollmentRejectionState
  split <;> rfl

theorem operate_rows {a : OperatorAction} (hc : c≠a.device) : (s.operate fails a).2.db.peers c=s.db.peers c := by
  cases a with
  | approve id p =>
    show (s.handleApproveDevice fails id p).2.db.peers c=_
    unfold handleApproveDevice
    split
    · rfl
    · split
      · rfl
      · rename_i t ht
        have hrow:=createPeer_rows hc ht
        dsimp only
        split <;> split <;> exact hrow
  | reject id p ban =>
    have hid : c≠id := hc
    show (s.handleRejectDevice fails id p ban).2.db.peers c=_
    unfold handleRejectDevice
    split
    · rfl
    · dsimp only
      split
      · rw [banRejected_rows hid]
        split <;> split <;> rfl
      · split <;> split <;> rfl
  | clearRejection id audit =>
    have hid : c≠id := hc
    show (s.handleClearEnrollmentRejection fails id audit).2.db.peers c=_
    unfold handleClearEnrollmentRejection
    split
    · rfl
    · dsimp only
      split
      · rw [removeAudit_rows hid,clearRejection_rows]
      · rw [clearRejection_rows]
  | ban id =>
    show (s.handleBanPeer fails id).2.db.peers c=_
    unfold handleBanPeer
    split
    · rfl
    · exact setRow_rows hc
  | unban id audit =>
    have hid : c≠id := hc
    show (s.handleUnbanPeer fails id audit).2.db.peers c=_
    unfold handleUnbanPeer
    split
    · dsimp only
      rw [removeAudit_rows hid,clearRejection_rows]
    · split
      · rfl
      · dsimp only
        rw [clearRejection_rows]
        exact setRow_rows hc
  | delete id hard revoke =>
    have hdeleted : (if hard then s.db.hardDeletePeer id else s.db.deletePeer id).peers c=s.db.peers c := by
      split <;> exact update_of_ne hc ..
    show (s.handleDeletePeer fails id hard revoke).2.db.peers c=_
    unfold handleDeletePeer
    split
    · rfl
    · dsimp only
      split
      · split
        · exact hdeleted
        · exact (setRow_rows hc).trans hdeleted
      · exact hdeleted
  | restore id =>
    show (s.handleRestorePeer fails id).2.db.peers c=_
    unfold handleRestorePeer
    split
    · rfl
    · exact setRow_rows hc

theorem reregisters_token {env : Environment} {a : KeyAction} (hcfg : s.cfg.Guarded)
    (h : s.Reregisters env id a) (hrow : s.db.peers id=none) : s.db.deviceTokens id=true := by
  cases a with
  | registerPk transport m addr =>
    obtain ⟨existing,hadmits,-⟩:=Enrolls.agrees h
    have hread : (s.underEnv env).db.ask _ _=.ok existing := hadmits.row
    have hnone : existing=none := by
      have hfilter:=((s.underEnv env).db.ask_ok.mp hread).2
      have hrow' : (s.underEnv env).db.peers id=none := hrow
      rw [hrow'] at hfilter
      exact hfilter.symm
    have hpermitted:=hadmits.permitted hnone
    rw [hnone] at hread
    have hget : (s.underEnv env).db.getPeer id=.ok none := hread
    have hopen : (s.underEnv env).cfg.mode≠"open" := by
      rcases hcfg with hmode | hmode
      · show s.cfg.mode≠"open"
        rw [hmode]
        decide
      · show s.cfg.mode≠"open"
        rw [hmode]
        decide
    have hguarded : (s.underEnv env).cfg.mode=managed ∨ (s.underEnv env).cfg.mode=locked := hcfg
    unfold enrollmentPermitted at hpermitted
    rw [if_neg hopen,hget] at hpermitted
    dsimp only at hpermitted
    rw [if_pos hguarded,decide_eq_true_iff] at hpermitted
    exact ((s.underEnv env).db.ask_ok.mp hpermitted).2
  | registerPeer | registerPeerWS | keepAlive | tick | cleanup | restart => exact h.elim

end Server

namespace Admissions
variable {x y : Admissions}

def Sourced (x : Admissions) : Prop := ∀ id, (x.server.db.peers id).isSome → (x.source id).isSome

theorem start_sourced (s : Server) : (start s).Sourced := by
  intro id h
  simpa [start] using h

theorem carry_sourced {db db' : Tables} {old new : PeerID} (h : ∀ id, (db.peers id).isSome → (x.source id).isSome)
    (hch : Server.Changes db db' old new) (id : PeerID) (hid : (db'.peers id).isSome) :
    (carry (some (old,new)) x.source id).isSome := by
  obtain ⟨row,hrow,-,hpeers⟩:=hch.moved
  rw [hpeers] at hid
  unfold carry
  dsimp only
  by_cases ho : id=old
  · subst ho
    simp at hid
  · rw [update_of_ne ho] at hid ⊢
    by_cases hn : id=new
    · subst hn
      rw [update_self]
      exact h old (by rw [hrow]; rfl)
    · rw [update_of_ne hn] at hid ⊢
      exact h id hid

theorem Sourced.message {s : Server} {env : Environment} {a : KeyAction} (hcfg : s.cfg.Guarded)
    (h : ∀ id, (s.db.peers id).isSome → (x.source id).isSome) : (x.performed s (.message env a)).Sourced := by
  intro id hid
  have hid' : ((s.perform env a).db.peers id).isSome := hid
  show (messaged s (s.perform env a) (carry (s.renames env a) x.source) id).isSome
  unfold messaged
  rw [isSome_or,Bool.or_eq_true]
  cases hren : s.renames env a with
  | some renamed =>
    obtain ⟨old,new⟩:=renamed
    exact .inl (carry_sourced h ((Server.perform_history a).2 old new hren) id hid')
  | none =>
    cases hrow : s.db.peers id with
    | some row => exact .inl (h id (by rw [hrow]; rfl))
    | none =>
      right
      obtain ⟨row,hnew⟩:=isSome_iff_exists.mp hid'
      rw [Server.perform_rows a hren] at hnew
      have htoken:=Server.reregisters_token hcfg ((Lineage.written_rows env a id).2 hrow row hnew) hrow
      rw [if_pos ⟨htoken,hid'⟩]
      rfl

theorem Sourced.step {a : Config × AdmissionAction} (h : x.Sourced) (hcfg : a.1.Guarded) (hstep : x.step a=some y) :
    y.Sourced := by
  obtain ⟨cfg,a⟩:=a
  cases hstep
  cases a with
  | message env a => exact Sourced.message hcfg h
  | changePeerID env old new =>
    intro id hid
    obtain ⟨hrefused,hdone⟩:=Server.panelChangePeerID_db (({x.server with cfg := cfg} : Server).underEnv env) old new
    simp only [performed] at hid ⊢
    split
    · rename_i hchanged
      exact carry_sourced h (hdone hchanged) id hid
    · rename_i hchanged
      rw [hrefused (Bool.eq_false_iff.mpr hchanged)] at hid
      exact h id hid
  | operator fails a =>
    intro id hid
    simp only [performed] at hid ⊢
    by_cases hdevice : id=a.device
    · subst hdevice
      rw [update_self,isSome_map]
      exact hid
    · rw [update_of_ne hdevice]
      rw [Server.operate_rows hdevice] at hid
      exact h id hid
  | storePending | deviceToken => exact h

theorem approvedRecord_iff (h : x.Sourced) {id : PeerID} {row : Row} (hrow : x.server.db.peers id=some row) :
    x.ApprovedRecord id ↔ x.source id≠some .rejection := by
  have hsource:=h id (by rw [hrow]; rfl)
  unfold ApprovedRecord
  rw [hrow]
  cases hs : x.source id with
  | none => simp [hs] at hsource
  | some source => cases source <;> simp

theorem eligible_iff (h : x.Sourced) (env : Environment) (id : PeerID) :
    ((x.asked env).targetAcceptsInboundSession id=true → x.Eligible id) ↔
      x.decision id=some .approved ∨ (¬ x.Unknown env id ∧ ¬ x.Unbanned env id) := by
  rw [accepts_iff]
  constructor
  · intro heligible
    by_cases hdecision : x.decision id=some .approved
    · exact .inl hdecision
    · refine .inr ⟨fun hunknown => ?_,fun hunbanned => ?_⟩
      · have happroved:=(heligible ⟨hunknown.toAnswered,.inl ⟨hunknown.row,hunknown.state⟩⟩).approved
        have hrecord:=(happroved.resolve_left hdecision).1
        rw [hunknown.row] at hrecord
        cases hrecord
      · obtain ⟨row,hrow,hclean⟩:=hunbanned.row
        have happroved:=(heligible ⟨hunbanned.toAnswered,.inr ⟨row,hrow,hclean⟩⟩).approved
        exact (approvedRecord_iff h hrow).mp (happroved.resolve_left hdecision) hunbanned.source
  · rintro hcond ⟨hanswered,⟨hnone,hstate⟩ | ⟨row,hrow,hclean⟩⟩
    · refine ⟨.inl (hcond.resolve_right fun hno => hno.1 ⟨hanswered,hnone,hstate⟩),fun row hrow => ?_⟩
      rw [hnone] at hrow
      cases hrow
    · refine ⟨?_,fun row' hrow' => ?_⟩
      · refine hcond.imp_right fun hno => (approvedRecord_iff h hrow).mpr fun hsource => ?_
        exact hno.2 ⟨hanswered,hsource,row,hrow,hclean⟩
      · rw [hrow] at hrow'
        cases hrow'
        exact hclean

/-- In every state of a run under managed or locked enrollment: a device that receives sessions
is approved, just when it is no unknown one and no rejected one without its ban. -/
theorem accepted_approved_iff (s : Server) (as : List (Config × AdmissionAction))
    (hcfg : ∀ a∈as,a.1.Guarded) (hrun : exec step (start s) as=some x) (env : Environment) (id : PeerID) :
    ((x.asked env).targetAcceptsInboundSession id=true → x.Eligible id) ↔
      x.decision id=some .approved ∨ (¬ x.Unknown env id ∧ ¬ x.Unbanned env id) := by
  have halong : Along step (fun _ a => a.1.Guarded) (start s) as := along_of_forall (fun a ha _ => hcfg a ha) _
  exact eligible_iff (exec_invariant Sourced (fun _ _ _ h hok hstep => h.step hok hstep) (start_sourced s) halong hrun) env id

def managedConfig : Config := {Server.empty.cfg with enrollmentMode := managed}

def waiting : PendingDevice := ⟨[],none,"",""⟩

def waitingRun (a : OperatorAction) : List (Config × AdmissionAction) :=
  [(managedConfig,.message Keyed.answering (.registerPeerWS "device-7" Keyed.client)),
    (managedConfig,.operator (fun _ => false) a)]

theorem approved_waiting : ∃ y, exec step (start Server.empty) (waitingRun (.approve "device-7" waiting))=some y ∧
    (y.asked Keyed.answering).targetAcceptsInboundSession "device-7" = true ∧ y.Eligible "device-7" := by
  have haccepts : ∃ y, exec step (start Server.empty) (waitingRun (.approve "device-7" waiting))=some y ∧
      (y.asked Keyed.answering).targetAcceptsInboundSession "device-7" = true ∧ y.decision "device-7" = some .approved :=
    ⟨_,rfl,by decide,by decide⟩
  obtain ⟨y,hrun,haccepted,hdecision⟩:=haccepts
  have hcfg : ∀ a∈waitingRun (.approve "device-7" waiting), a.1.Guarded := by
    intro a ha
    rcases List.mem_cons.mp ha with rfl | ha
    · exact .inl rfl
    · rw [List.mem_singleton.mp ha]
      exact .inl rfl
  exact ⟨y,hrun,haccepted,(accepted_approved_iff _ _ hcfg hrun _ _).mpr (.inl hdecision) haccepted⟩

/-- A rejection takes the entry of the device from the queue, and its transport stays: it
receives sessions. -/
theorem rejected_receives :
    ((exec step (start Server.empty) (waitingRun (.reject "device-7" waiting false))).any fun y =>
      (y.asked Keyed.answering).targetAcceptsInboundSession "device-7"&&decide (y.decision "device-7" = some .rejected) &&
        (y.server.db.peers "device-7").isNone&&(y.server.peers.get "device-7").isSome)=true := by
  decide

end Admissions
end BetterDesk.Signal
