import BetterDesk.Enrollment.Tokens

/-! # Operator decisions (api/branding_handlers.go, api/server.go) -/

namespace BetterDesk.Enrollment
open Db Text Programs

def enrollmentRejectBanReason : String := "enrollment rejected"

inductive OperatorAction
  | approve (id : PeerID) (displayName syncMode : String)
  | reject (id : PeerID) (ban : Bool)
  | clearRejection (id : PeerID)
  | unban (id : PeerID)
  | delete (id : PeerID) (hard revoke : Bool)
  | ban (id : PeerID) (reason : String)

def OperatorAction.device : OperatorAction → PeerID
  | approve id _ _ => id
  | reject id _ => id
  | clearRejection id => id
  | unban id => id
  | delete id _ _ => id
  | ban id _ => id

def okReply : Reply := ⟨200,"","","","","",none⟩

def storeEnrollmentDecision (id : PeerID) (d : EnrollmentDecision) : Prog Unit := do
  let _ ← ask (.setConfig (.enrollmentDecision id) d)
  pure ()

def clearEnrollmentRejectionState (id : PeerID) : Prog Unit := do
  let _ ← ask (.deleteConfig (.rejectedDevice id))
  let decision : Answer (Option EnrollmentDecision) ← ask (.getConfig (.enrollmentDecision id))
  if decision.row.any fun d => d.status=.rejected then
    let _ ← ask (.deleteConfig (.enrollmentDecision id))
  pure ()

def removeEnrollmentRejectAuditPeer (id : PeerID) : Prog Bool := do
  let _ ← ask (.deleteConfig (.bdMgmtPublicKey id))
  let _ ← ask (.deleteConfig (.deviceBundleID id))
  let removed : Answer Unit ← ask (.hardDeletePeer id)
  pure (succeeded removed)

def enrollmentRejectAuditPeer (row : Option Peer) (rejected : Option RejectionMarker)
    (decision : Option EnrollmentDecision) : Bool :=
  row.any (fun p => p.banReason=enrollmentRejectBanReason) ||
    decision.any (fun d => d.status=.rejected&&d.banned)||rejected.any (·.banned)

def PendingEnrollmentMeta.enrollment (pending : PendingEnrollmentMeta) : EnrollmentRequest :=
  ⟨pending.deviceID,pending.uuid,pending.hostname,pending.platform,pending.version,
    pending.deviceType,pending.bundleID,pending.tags,pending.publicKey,[]⟩

def normalSyncMode (syncMode : String) : String :=
  if lowerString syncMode="" then "standard" else lowerString syncMode

def handleApproveDevice (id : PeerID) (displayName syncMode : String) : Prog Reply :=
  if id="" then pure (httpError 400 "Device ID required")
  else if normalSyncMode syncMode∉["silent","standard","turbo"] then
    pure (httpError 400 "Invalid sync_mode (silent, standard, turbo)")
  else do
    let raw : Answer (Option PendingEnrollmentMeta) ← ask (.getConfig (.pendingDevice id))
    match raw.row with
    | none => pure (httpError 404 "Device not found in pending list")
    | some found =>
      if ← createPeerFromEnrollment (found.identified id).enrollment true .approval then
        let _ ← ask (.setConfig (.deviceSyncMode id) (normalSyncMode syncMode))
        if displayName≠"" then
          let _ ← ask (.setConfig (.deviceDisplayName id) displayName)
        let _ ← ask (.deleteConfig (.pendingDevice id))
        let _ ← ask (.deleteConfig (.rejectedDevice id))
        storeEnrollmentDecision id ⟨.approved,false⟩
        pure okReply
      else pure (httpError 500 "Failed to approve device")

def pendingOrEmpty (id : PeerID) (raw : Option PendingEnrollmentMeta) : PendingEnrollmentMeta :=
  (raw.getD ⟨"",[],[],[],[],[],[],[],[],[]⟩).identified id

def banRejected (id : PeerID) (pending : PendingEnrollmentMeta) : Prog Unit := do
  let existing : Answer (Option Peer) ← ask (.getPeer id)
  if existing.row=none then
    let _ ← createPeerFromEnrollment pending.enrollment false .rejection
  let _ ← ask (.banPeer id enrollmentRejectBanReason)
  pure ()

def handleRejectDevice (id : PeerID) (ban : Bool) : Prog Reply :=
  if id="" then pure (httpError 400 "Device ID required")
  else do
    let raw : Answer (Option PendingEnrollmentMeta) ← ask (.getConfig (.pendingDevice id))
    let _ ← ask (.deleteConfig (.pendingDevice id))
    let _ ← ask (.setConfig (.rejectedDevice id) ⟨ban⟩)
    if ban then
      banRejected id (pendingOrEmpty id raw.row)
    storeEnrollmentDecision id ⟨.rejected,ban⟩
    pure okReply

def handleClearEnrollmentRejection (id : PeerID) : Prog Reply :=
  if id="" then pure (httpError 400 "Device ID required")
  else do
    let rejected : Answer (Option RejectionMarker) ← ask (.getConfig (.rejectedDevice id))
    let decision : Answer (Option EnrollmentDecision) ← ask (.getConfig (.enrollmentDecision id))
    if rejected.row=none ∧ decision.row=none then
      pure (httpError 404 "No enrollment rejection found for device")
    else
      let peer : Answer (Option Peer) ← ask (.getPeer id)
      clearEnrollmentRejectionState id
      if enrollmentRejectAuditPeer peer.row rejected.row decision.row then
        let _ ← removeEnrollmentRejectAuditPeer id
      pure okReply

def handleUnbanPeer (id : PeerID) : Prog Reply := do
  let peer : Answer (Option Peer) ← ask (.getPeer id)
  if peer.row.any fun p => p.banReason=enrollmentRejectBanReason then
    clearEnrollmentRejectionState id
    if ← removeEnrollmentRejectAuditPeer id then pure okReply
    else pure (httpError 500 "removeEnrollmentRejectAuditPeer")
  else
    let unbanned : Answer Unit ← ask (.unbanPeer id)
    if succeeded unbanned then
      clearEnrollmentRejectionState id
      pure okReply
    else pure (httpError 500 "UnbanPeer")

def handleDeletePeer (id : PeerID) (hard revoke : Bool) : Prog Reply := do
  let deleted : Answer Unit ← if hard then ask (.hardDeletePeer id) else ask (.deletePeer id)
  if succeeded deleted then
    if revoke=true ∧ hard=false then
      let banned : Answer Unit ← ask (.banPeer id "revoked via panel")
      if succeeded banned then pure okReply else pure (httpError 500 "RevokePeer")
    else pure okReply
  else pure (httpError 500 "DeletePeer")

def handleBanPeer (id : PeerID) (reason : String) : Prog Reply := do
  let banned : Answer Unit ← ask (.banPeer id reason)
  if succeeded banned then pure okReply else pure (httpError 500 "BanPeer")

def handleOperator : OperatorAction → Prog Reply
  | .approve id displayName syncMode => handleApproveDevice id displayName syncMode
  | .reject id ban => handleRejectDevice id ban
  | .clearRejection id => handleClearEnrollmentRejection id
  | .unban id => handleUnbanPeer id
  | .delete id hard revoke => handleDeletePeer id hard revoke
  | .ban id reason => handleBanPeer id reason

inductive Input
  | device (q : Request)
  | operator (a : OperatorAction)

def serve (env : Env) : Input → Prog Reply
  | .device q => handle env q
  | .operator a => handleOperator a

abbrev DecisionSys := Sys Store Input Op Res Reply
abbrev DecisionAct := Act Input ℕ
abbrev DecisionProcess := Process Store Input Op Res Reply

def decisionStep (env : Env) : DecisionSys → DecisionAct → Option DecisionSys :=
  Programs.step run (serve env) tick

structure Rec where
  row : Option Peer
  marker : Option RejectionMarker
  decision : Option EnrollmentDecision

def Store.view (s : Store) (id : PeerID) : Rec :=
  ⟨s.peers id,s.config (.rejectedDevice id),s.config (.enrollmentDecision id)⟩

inductive Decision
  | approved
  | rejected
  | cleared
  deriving DecidableEq

def OperatorAction.decide : OperatorAction → Option Decision → Option Decision
  | approve _ _ _, _ => some .approved
  | reject _ _, _ => some .rejected
  | clearRejection _, _ => some .cleared
  | unban _, _ => some .cleared
  | delete _ _ _, _ => none
  | ban _ _, d => d

def Rec.rowBanned (ρ : Rec) : Bool := ρ.row.all Peer.banned

/-- One outcome, the decision's: an approved device has a row and no rejection, a rejected one has
its marker and no unbanned row, a cleared one has no marker. -/
def Decided : Option Decision → Rec → Bool
  | some .approved, ρ => ρ.marker.isNone&&ρ.row.any fun p => !p.softDeleted
  | some .rejected, ρ => ρ.marker.isSome&&ρ.rowBanned
  | some .cleared, ρ => ρ.marker.isNone
  | none, ρ => ρ.marker.isNone||ρ.rowBanned

def settle (id : PeerID) (d : Option Decision) (p : DecisionProcess) : Option Decision :=
  match p.request, p.prog.reply with
  | .operator a, some reply => if a.device=id ∧ reply.code=200 then a.decide d else d
  | _, _ => d

def lastDecision (id : PeerID) (procs : List DecisionProcess) : Option Decision :=
  procs.foldl (settle id) none

def deciding (id : PeerID) (p : DecisionProcess) : Bool :=
  match p.request with
  | .operator a => a.device=id&&p.prog.nextOp.isSome
  | .device _ => false

def underDecision (id : PeerID) (procs : List DecisionProcess) : Bool := procs.any (deciding id)

def lookupFailed : Entry Store Op Res → Bool
  | ⟨_,.isPeerBanned _,.error _⟩ => true
  | ⟨_,.isPeerSoftDeleted _,.error _⟩ => true
  | ⟨_,.getConfig (.rejectedDevice _),.error _⟩ => true
  | _ => false

def tainted (log : Log) : Bool := log.any lookupFailed

/-- Operations of an operator request whose errors the handlers drop, or that
leave a request half done. -/
def critical : Op → Bool
  | .getPeer _ => true
  | .getConfig (.rejectedDevice _) => true
  | .getConfig (.enrollmentDecision _) => true
  | .setConfig (.rejectedDevice _) _ => true
  | .setConfig (.enrollmentDecision _) _ => true
  | .deleteConfig (.rejectedDevice _) => true
  | .deleteConfig (.enrollmentDecision _) => true
  | .banPeer _ _ => true
  | .hardDeletePeer _ => true
  | _ => false

def rejectable (a : OperatorAction) (ρ : Rec) : Bool := match a with
  | .reject _ true => ρ.row.isNone
  | .reject _ false => ρ.rowBanned
  | _ => true

def carefulOperator (s : DecisionSys) (a : OperatorAction) (fails : Bool) (op : Op) : Bool :=
  (!critical op||!fails) &&
    match op with
    | .setConfig (.rejectedDevice id) _ => rejectable a (s.store.view id)
    | _ => true

def carefulDevice (s : DecisionSys) (log : Log) (fails : Bool) : Op → Bool
  | .upsertPeer id _ _ =>
    !tainted log&&(s.store.view id).marker.isNone&&!underDecision id s.procs
  | .getPeer id => !tainted log||fails||(s.store.livePeer id).isNone
  | _ => true

/-- Operators do not work on a device at the same time, and do not type the reason that marks the
rows a rejection creates. -/
def careful (s : DecisionSys) : DecisionAct → Bool
  | .begin (.operator a) => !underDecision a.device s.procs &&
      match a with
      | .ban _ reason => reason≠enrollmentRejectBanReason
      | _ => true
  | .begin (.device _) => true
  | .env _ => true
  | .step i fails => match s.procs[i]? with
    | none => true
    | some p => p.prog.nextOp.all fun op => match p.request with
      | .operator a => carefulOperator s a fails op
      | .device _ => carefulDevice s p.log fails op

end BetterDesk.Enrollment
