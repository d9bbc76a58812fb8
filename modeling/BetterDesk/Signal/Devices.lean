import BetterDesk.Signal.Server

/-! # What the signal server asks about a device (signal/handler.go, signal/ban_revocation.go) -/

namespace BetterDesk.Signal
open Db Text

/-- Case, white space around, and the separators `-`, `_` and blank do not
matter. -/
@[irreducible] def isInboundOnlyDeviceType (deviceType : String) : Bool :=
  let normalized:=(lowerString (trimString deviceType)).toList.filter
    fun c => c ≠ '-'&&c ≠ '_'&&c ≠ ' '
  normalized="osagent".toList||normalized="supportagent".toList

/-- `strings.FieldsFunc` with the separators of a tag list. -/
def tagFields (tags : String) : List String :=
  (tags.toList.splitOnP fun c => c = ','||c = ';'||c = ' '||c = '\t'||c = '\n').filterMap
    fun field => if field=[] then none else some (String.ofList field)

def isInboundOnlyPeer (row : Row) : Bool :=
  isInboundOnlyDeviceType row.deviceType||(tagFields row.tags).any isInboundOnlyDeviceType

def managed : String := "managed"
def locked : String := "locked"

namespace Server
variable (s : Server)

def isPendingEnrollment (peerID : PeerID) : Bool :=
  if peerID="" ∨ s.cfg.enrollmentMode≠managed then false
  else match s.db.getPendingDevice peerID with
    | .ok pending => pending
    | .error _ => false

def targetAcceptsInboundSession (targetID : PeerID) : Bool :=
  if targetID="" then false
  else match s.db.getPeer targetID with
    | .error _ => false
    | .ok row =>
      if s.isPendingEnrollment targetID then false
      else match row with
        | some row => !row.banned&&!row.disabled&&!row.softDeleted
        | none => match s.db.getPeerIDState targetID with
          | .error _ => false
          | .ok state => state ≠ .softDeleted

def requiresRelayOnlyCompatibility (peerID : PeerID) : Bool :=
  if peerID="" then false
  else match s.db.getPeer peerID with
    | .error _ => true
    | .ok row => row.any isInboundOnlyPeer

def peerPublicKey (peerID : PeerID) (entry : Option Entry) : Bytes × Server :=
  match entry.filter fun e => e.pk≠[] with
  | some e => (e.pk,s)
  | none =>
    if peerID="" then ([],s)
    else match s.db.getPeer peerID with
      | .ok (some row) =>
        if row.pk=[] then ([],s)
        else (row.pk,{s with peers := s.peers.setPKIfEmpty peerID row.pk})
      | _ => ([],s)

/-- An entry that is there already keeps its place; a rejected device is not
queued again. -/
def recordPendingEnrollment (peerID : PeerID) : Server :=
  if s.db.getRejectedDevice peerID=.ok true then s
  else if s.db.getPendingDevice peerID=.ok true then s
  else if s.db.fails (.setPendingDevice peerID) then s
  else {s with db := {s.db with pending := Function.update s.db.pending peerID true}}

/-- A device with a row is always let through. -/
def enrollmentPermitted (peerID : PeerID) : Bool :=
  if s.cfg.mode="open" then true
  else match s.db.getPeer peerID with
    | .ok (some _) => true
    | _ =>
      if s.cfg.mode=managed ∨ s.cfg.mode=locked then
        s.db.getDeviceTokenByPeerID peerID=.ok true
      else true

def checkEnrollmentPermission (peerID : PeerID) : Bool × Server :=
  if s.enrollmentPermitted peerID then (true,s)
  else (false,if s.cfg.mode=managed then s.recordPendingEnrollment peerID else s)

def revokeClientSessionsForDevice (session : ClientSession) : Server :=
  if s.db.fails (.revokeClientSessionsForDevice session.clientID) then s
  else
    let revoke (c : ClientSession) : ClientSession :=
      if c.userID=session.userID ∧ c.clientID=session.clientID ∧
        c.clientUUID=session.clientUUID then {c with revoked := true} else c
    {s with db := {s.db with sessions := s.db.sessions.map revoke}}

def revokeBannedPeerAccess (peerID : PeerID) (session : Option ClientSession) : Server :=
  if peerID="" then s
  else
    let s:={s with
      registry := s.registry.revokeForPeer s.now peerID
      peers := s.peers.remove peerID}
    let found := match session with
      | some c => some c
      | none => match s.db.getPeer peerID with
        | .ok (some row) => match s.db.getActiveClientSessionByClient peerID row.uuid s.now with
          | .ok c => c
          | .error _ => none
        | _ => none
    match found with
    | some c => s.revokeClientSessionsForDevice c
    | none => s

end Server

end BetterDesk.Signal
