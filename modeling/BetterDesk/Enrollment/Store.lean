import BetterDesk.Lib.Programs
import BetterDesk.Db.Store

/-! # The tables behind enrollment (db/sqlite.go) -/

namespace BetterDesk.Enrollment
open Db Text Programs Function

abbrev TokenHash := String

/-- Which request inserted a peer row. The table has no such column: it is kept
for the statements. -/
inductive Origin
  | registration
  | approval
  | rejection
  | other
  deriving DecidableEq

structure Peer where
  uuid : Bytes
  pk : Bytes
  banned : Bool
  banReason : String
  softDeleted : Bool
  disabled : Bool
  origin : Origin

inductive TokenStatus
  | pending
  | active
  | revoked
  | expired
  deriving DecidableEq

structure DeviceToken where
  peerID : PeerID
  status : TokenStatus
  maxUses : ℤ                 -- 0 or less: unlimited
  useCount : ℕ
  expiresAt : Option ℤ
  deriving DecidableEq

namespace DeviceToken

def limited (t : DeviceToken) : Bool := 0<t.maxUses

def expiredAt (t : DeviceToken) (now : ℤ) : Bool := match t.expiresAt with
  | none => false
  | some e => e<now

def exhausted (t : DeviceToken) : Bool := t.limited&&t.maxUses≤t.useCount

/-- What `ValidateToken` accepts. -/
def usable (t : DeviceToken) (now : ℤ) : Bool :=
  t.status ≠ .revoked&&!t.expiredAt now&&!t.exhausted

def fits (t : DeviceToken) (id : PeerID) : Bool := t.peerID=""||t.peerID=id

end DeviceToken

structure PendingEnrollmentMeta where
  deviceID : PeerID
  uuid : Bytes
  hostname : Bytes
  platform : Bytes
  version : Bytes
  deviceType : Bytes
  bundleID : Bytes
  tags : Bytes
  publicKey : Bytes
  ip : Bytes
  deriving DecidableEq

structure RejectionMarker where
  banned : Bool

inductive DecisionStatus
  | approved
  | rejected
  deriving DecidableEq

structure EnrollmentDecision where
  status : DecisionStatus
  banned : Bool

inductive ConfigKey
  | pendingDevice (id : PeerID)
  | rejectedDevice (id : PeerID)
  | enrollmentDecision (id : PeerID)
  | bdMgmtPublicKey (id : PeerID)
  | deviceBundleID (id : PeerID)
  | deviceSyncMode (id : PeerID)
  | deviceDisplayName (id : PeerID)
  | telemetrySeq (id : PeerID)
  deriving DecidableEq

abbrev ConfigKey.Value : ConfigKey → Type
  | .pendingDevice _ => PendingEnrollmentMeta
  | .rejectedDevice _ => RejectionMarker
  | .enrollmentDecision _ => EnrollmentDecision
  | .bdMgmtPublicKey _ => Bytes
  | .deviceBundleID _ => Bytes
  | .deviceSyncMode _ => String
  | .deviceDisplayName _ => String
  | .telemetrySeq _ => ℕ

structure Store where
  peers : PeerID → Option Peer
  config : (key : ConfigKey) → Option key.Value
  tokens : TokenHash → Option DeviceToken
  nonces : String → Option ℤ          -- in memory, with the time they are kept until
  now : ℤ

inductive PeerIDState
  | missing
  | active
  | softDeleted

inductive Op
  | isPeerBanned (id : PeerID)
  | isPeerSoftDeleted (id : PeerID)
  | getPeer (id : PeerID)
  | getPeerIDState (id : PeerID)
  | upsertPeer (id : PeerID) (uuid : Bytes) (origin : Origin)
  | deletePeer (id : PeerID)
  | hardDeletePeer (id : PeerID)
  | banPeer (id : PeerID) (reason : String)
  | unbanPeer (id : PeerID)
  | getConfig (key : ConfigKey)
  | setConfig (key : ConfigKey) (value : key.Value)
  | deleteConfig (key : ConfigKey)
  | validateToken (hash : TokenHash)
  | bindTokenToPeer (hash : TokenHash) (id : PeerID)
  | incrementTokenUse (hash : TokenHash)
  | createDeviceToken (hash : TokenHash) (token : DeviceToken)
  | clock
  | markUsed (nonce : String) (now : ℤ)

abbrev Res : Op → Type
  | .isPeerBanned _ => Answer Bool
  | .isPeerSoftDeleted _ => Answer Bool
  | .getPeer _ => Answer (Option Peer)
  | .getPeerIDState _ => Answer PeerIDState
  | .getConfig key => Answer (Option key.Value)
  | .validateToken _ => Answer (Option DeviceToken)
  | .clock => ℤ
  | .markUsed _ _ => Bool
  | _ => Answer Unit

abbrev Prog := Programs.Prog Op Res

namespace Store
variable (s : Store)

/-- `GetPeer` does not see soft-deleted rows. -/
def livePeer (id : PeerID) : Option Peer := (s.peers id).filter fun p => !p.softDeleted

def setPeer (id : PeerID) (row : Option Peer) : Store :=
  {s with peers := update s.peers id row}

def setToken (hash : TokenHash) (row : Option DeviceToken) : Store :=
  {s with tokens := update s.tokens hash row}

def put (key : ConfigKey) (value : Option key.Value) : Store :=
  {s with config := update s.config key value}

/-- `INSERT … ON CONFLICT DO UPDATE`: an existing row keeps its ban and its
deletion. -/
def upsert (id : PeerID) (uuid : Bytes) (origin : Origin) : Store :=
  s.setPeer id <| some <| match s.peers id with
    | none => ⟨uuid,[],false,"",false,false,origin⟩
    | some p => {p with
      uuid := if uuid=[] then p.uuid else uuid
      disabled := false}

def updateToken (hash : TokenHash) (f : DeviceToken → DeviceToken) : Store :=
  s.setToken hash ((s.tokens hash).map f)

theorem setToken_self {hash : TokenHash} {row : Option DeviceToken} :
    (s.setToken hash row).tokens hash=row := update_self _ _ _

theorem updateToken_self {hash : TokenHash} {f : DeviceToken → DeviceToken} :
    (s.updateToken hash f).tokens hash=(s.tokens hash).map f := update_self _ _ _

def markExpired (hash : TokenHash) : Store :=
  s.updateToken hash fun t =>
    if t.expiredAt s.now ∧ t.status ≠ .revoked then {t with status := .expired} else t

end Store

def bdMgmtNonceTTL : ℤ := 600000000000

def idState : Option Peer → PeerIDState
  | none => .missing
  | some p => if p.softDeleted then .softDeleted else .active

def perform (s : Store) : (op : Op) → Res op × Store
  | .isPeerBanned id => (.ok ((s.peers id).any Peer.banned),s)
  | .isPeerSoftDeleted id => (.ok ((s.peers id).any Peer.softDeleted),s)
  | .getPeer id => (.ok (s.livePeer id),s)
  | .getPeerIDState id => (.ok (idState (s.peers id)),s)
  | .upsertPeer id uuid origin => (.ok (),s.upsert id uuid origin)
  | .deletePeer id =>
    (.ok (),s.setPeer id ((s.peers id).map fun p => {p with softDeleted := true}))
  | .hardDeletePeer id => (.ok (),(s.setPeer id none).put (.telemetrySeq id) none)
  | .banPeer id reason =>
    (.ok (),s.setPeer id ((s.peers id).map fun p => {p with
      banned := true
      banReason := reason}))
  | .unbanPeer id =>
    (.ok (),s.setPeer id ((s.peers id).map fun p => {p with
      banned := false
      banReason := ""}))
  | .getConfig key => (.ok (s.config key),s)
  | .setConfig key value => (.ok (),s.put key (some value))
  | .deleteConfig key => (.ok (),s.put key none)
  | .validateToken hash =>
    (.ok ((s.tokens hash).filter fun t => t.usable s.now),s.markExpired hash)
  | .bindTokenToPeer hash id =>
    (.ok (),s.updateToken hash fun t => if t.status=.pending then {t with
      peerID := id
      status := .active} else t)
  | .incrementTokenUse hash =>
    (.ok (),s.updateToken hash fun t => {t with useCount := t.useCount+1})
  | .createDeviceToken hash token =>
    if (s.tokens hash).isSome then (.error (),s) else (.ok (),s.setToken hash (some token))
  | .clock => (s.now,s)
  | .markUsed nonce now =>
    let live := fun n => (s.nonces n).filter fun expiry => expiry≥now
    if (live nonce).isSome then (true,{s with nonces := live})
    else (false,{s with nonces := update live nonce (some (now+bdMgmtNonceTTL))})

def failure : (op : Op) → Option (Res op)
  | .isPeerBanned _ => some (.error ())
  | .isPeerSoftDeleted _ => some (.error ())
  | .getPeer _ => some (.error ())
  | .getPeerIDState _ => some (.error ())
  | .getConfig _ => some (.error ())
  | .validateToken _ => some (.error ())
  | .upsertPeer _ _ _ => some (.error ())
  | .deletePeer _ => some (.error ())
  | .hardDeletePeer _ => some (.error ())
  | .banPeer _ _ => some (.error ())
  | .unbanPeer _ => some (.error ())
  | .setConfig _ _ => some (.error ())
  | .deleteConfig _ => some (.error ())
  | .bindTokenToPeer _ _ => some (.error ())
  | .incrementTokenUse _ => some (.error ())
  | .createDeviceToken _ _ => some (.error ())
  | .clock => none
  | .markUsed _ _ => none

def run (s : Store) (op : Op) (fails : Bool) : Res op × Store :=
  if fails then match failure op with
    | some r => (r,s)
    | none => perform s op
  else perform s op

variable {fails : Bool} {s : Store}

theorem run_getPeer {id : PeerID} {row : Option Peer}
    (h : (run s (.getPeer id) fails).1=(.ok row : Answer (Option Peer))) : s.livePeer id=row := by
  cases fails with
  | true => cases h
  | false => exact Except.ok.inj h

theorem run_getConfig {key : ConfigKey} {value : Option key.Value}
    (h : (run s (.getConfig key) fails).1=(.ok value : Answer (Option key.Value))) : s.config key=value := by
  cases fails with
  | true => cases h
  | false => exact Except.ok.inj h

theorem run_getConfig_row {key : ConfigKey} {value : key.Value}
    (h : Answer.row ((run s (.getConfig key) fails).1 : Answer (Option key.Value))=some value) :
    s.config key=some value := by
  cases fails with
  | true => cases h
  | false => exact h

theorem run_validateToken {hash : TokenHash} {t : DeviceToken}
    (h : Answer.row ((run s (.validateToken hash) fails).1 : Answer (Option DeviceToken))=some t) :
    s.tokens hash=some t ∧ t.usable s.now=true := by
  cases fails with
  | true => cases h
  | false => exact Option.filter_eq_some_iff.mp h

def tick (s : Store) (elapsed : ℕ) : Store := {s with now := s.now+elapsed}

end BetterDesk.Enrollment
