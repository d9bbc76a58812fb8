import BetterDesk.Lib.Text
import Mathlib.Data.List.MinMax

/-! # Connection modes (db/connection_mode.go, db/connection_mode_sqlite.go) -/

namespace BetterDesk.Device.ConnectionMode
open Text

abbrev DeviceID := String

def connectionModeNormal : String := "normal"
def connectionModeIncomingOnly : String := "incoming-only"
def connectionModeTTLSeconds : ℤ := 600

inductive Status
  | queued
  | delivered
  | applied
  | rejected
  | expired
  deriving DecidableEq

def connectionRejectionSuperseded : String := "superseded"
def connectionRejectionModeMismatch : String := "mode_mismatch"

def connectionModeReasonMax : ℕ := 500
def connectionModeOperatorMax : ℕ := 128
def connectionModeCodeMax : ℕ := 120

inductive IssueError
  | invalid
  | reason
  | noUUID
  | blocked
  | peerNotFound
  | failed           -- a statement or the commit

/-- The `uuid.NewString` of a command. -/
abbrev NewID := {id : String // id≠""}

structure Policy where
  deviceUUID : String
  desiredMode : String
  effectiveMode : String
  revision : ℕ
  activeCommandID : String
  updatedAt : ℤ

structure Command where
  commandID : String
  deviceID : DeviceID
  deviceUUID : String
  revision : ℕ
  mode : String
  reason : String
  operatorID : String
  operatorName : String
  previousMode : String
  issuedAt : ℤ
  expiresAt : ℤ
  status : Status
  rejectionCode : String
  acknowledgedAt : Option ℤ
  deliveredAt : Option ℤ
  deriving DecidableEq

structure Issue where
  deviceID : DeviceID
  mode : String
  reason : String
  operatorID : String
  operatorName : String
  now : ℤ

structure Ack where
  deviceID : DeviceID
  commandID : String
  revision : ℤ
  status : String
  effectiveMode : String
  rejectionCode : String
  now : ℤ

structure PeerRow where
  uuid : String
  banned : Bool
  softDeleted : Bool

structure Tables where
  peers : DeviceID → Option PeerRow
  policies : DeviceID → Option Policy
  commands : List Command          -- in the order they were inserted

def stripControlChars (value : String) : String :=
  String.ofList (value.toList.filter fun c => !(c.toNat<32||c.toNat=127))

def truncateRunes (value : String) (max : ℕ) : String :=
  if max=0 ∨ value.toList.length ≤ max then value else String.ofList (value.toList.take max)

def normalizeConnectionMode (mode : String) : Except IssueError String :=
  if trimString mode=connectionModeNormal ∨ trimString mode=connectionModeIncomingOnly then .ok (trimString mode)
  else .error .invalid

def normalizeConnectionModeReason (reason : String) : Except IssueError String :=
  let cleaned:=trimString (stripControlChars reason)
  if cleaned="" then .error .reason else .ok (truncateRunes cleaned connectionModeReasonMax)

def normalizeConnectionRejection (code : String) : String :=
  truncateRunes (trimString (stripControlChars code)) connectionModeCodeMax

structure Prepared where
  mode : String
  reason : String
  operatorID : String
  operatorName : String
  now : ℤ
  expiresAt : ℤ

def prepareConnectionModeIssue (issue : Issue) : Except IssueError Prepared := do
  let mode ← normalizeConnectionMode issue.mode
  let reason ← normalizeConnectionModeReason issue.reason
  return ⟨mode,reason,truncateRunes (trimString issue.operatorID) connectionModeOperatorMax,
    truncateRunes (trimString issue.operatorName) connectionModeOperatorMax,issue.now,
    issue.now+connectionModeTTLSeconds⟩

def connectionCommandInFlight (c : Command) : Bool := c.status=.queued||c.status=.delivered

def connectionCommandExpired (c : Command) (now : ℤ) : Bool := connectionCommandInFlight c&&c.expiresAt≤now

inductive Plan
  | duplicate (existing : Command)
  | unchanged (existing : Option Command)
  | create (revision : ℕ) (previousMode : String) (supersede : Option String)

def revisionBase : Option Policy → ℕ
  | some p => p.revision
  | none => 0

def planConnectionModeIssue (policy : Option Policy) (active applied : Option Command) (mode : String) : Plan :=
  let previous := match policy with
    | some p => if p.effectiveMode≠"" then p.effectiveMode
      else if p.desiredMode≠"" then p.desiredMode else connectionModeNormal
    | none => connectionModeNormal
  match active.filter connectionCommandInFlight with
  | some c => if c.mode=mode then .duplicate c else .create (revisionBase policy+1) previous (some c.commandID)
  | none =>
    if policy.any fun p => p.desiredMode=mode&&p.effectiveMode=mode then .unchanged applied
    else .create (revisionBase policy+1) previous none

namespace Tables
variable (s : Tables)

def findCommand (id : String) : Option Command := s.commands.find? fun c => c.commandID=id

/-- `loadActiveConnectionCommand`. -/
def activeCommand (policy : Option Policy) : Option Command :=
  policy.bind fun p => if p.activeCommandID="" then none else s.findCommand p.activeCommandID

/-- `latestAppliedConnectionCommand`. -/
def latestApplied (device : DeviceID) : Option Command :=
  (s.commands.filter fun c => c.deviceID=device&&c.status=.applied).argmax Command.revision

def updateInFlight (id : String) (f : Command → Command) : Tables :=
  {s with commands := s.commands.map fun c => if c.commandID=id ∧ connectionCommandInFlight c=true then f c else c}

def updatePolicy (device : DeviceID) (f : Policy → Policy) : Tables :=
  {s with policies := fun d => if d=device then (s.policies d).map f else s.policies d}

def clearActive (id : String) (now : ℤ) (p : Policy) : Policy :=
  {p with activeCommandID := if p.activeCommandID=id then "" else p.activeCommandID,updatedAt := now}

def expireConnectionCommand (device : DeviceID) (c : Command) (now : ℤ) : Tables :=
  (s.updateInFlight c.commandID fun c => {c with status := .expired,acknowledgedAt := some now}).updatePolicy
    device (clearActive c.commandID now)

def supersedeConnectionCommand (id : String) (now : ℤ) : Tables :=
  s.updateInFlight id fun c =>
    {c with status := .rejected,rejectionCode := connectionRejectionSuperseded,acknowledgedAt := some now}

def takesCommand (c : Command) : Bool :=
  !s.commands.any fun d => d.commandID=c.commandID||(d.deviceUUID=c.deviceUUID&&d.revision=c.revision)

def insertCommand (c : Command) (now : ℤ) : Tables :=
  { s with
    commands := s.commands++[c]
    policies := fun d => if d=c.deviceID then some (match s.policies d with
      | none => ⟨c.deviceUUID,c.mode,"",c.revision,c.commandID,now⟩
      | some p => {p with
        deviceUUID := c.deviceUUID
        desiredMode := c.mode
        revision := c.revision
        activeCommandID := c.commandID
        updatedAt := now})
      else s.policies d}

def lockPeerForConnectionMode (device : DeviceID) : Except IssueError String :=
  match s.peers device with
  | none => .error .peerNotFound
  | some row =>
    if row.banned||row.softDeleted then .error .blocked
    else if trimString row.uuid="" then .error .noUUID
    else .ok (trimString row.uuid)

end Tables

def expireActive (s : Tables) (device : DeviceID) (now : ℤ) : Tables :=
  match s.activeCommand (s.policies device) with
  | some c => if connectionCommandExpired c now then s.expireConnectionCommand device c now else s
  | none => s

def superseded (s : Tables) (supersede : Option String) (now : ℤ) : Tables :=
  match supersede with
  | some id => s.supersedeConnectionCommand id now
  | none => s

def createCommand (s : Tables) (issue : Issue) (prepared : Prepared) (newID : NewID) (deviceUUID : String)
    (revision : ℕ) (previousMode : String) (supersede : Option String) : Option (Command × Tables) :=
  let c : Command := ⟨newID.val,issue.deviceID,deviceUUID,revision,prepared.mode,prepared.reason,
    prepared.operatorID,prepared.operatorName,previousMode,prepared.now,prepared.expiresAt,.queued,"",none,none⟩
  let s:=superseded s supersede prepared.now
  if s.takesCommand c then some (c,s.insertCommand c prepared.now) else none

def issueConnectionMode (s : Tables) (issue : Issue) (newID : NewID) :
    Except IssueError (Option Command × Bool) × Tables :=
  match prepareConnectionModeIssue issue with
  | .error e => (.error e,s)
  | .ok prepared => match s.lockPeerForConnectionMode issue.deviceID with
    | .error e => (.error e,s)
    | .ok deviceUUID =>
      let expired:=expireActive s issue.deviceID prepared.now
      let policy:=expired.policies issue.deviceID
      match planConnectionModeIssue policy (expired.activeCommand policy) (expired.latestApplied issue.deviceID)
          prepared.mode with
      | .duplicate existing => (.ok (some existing,false),expired)
      | .unchanged existing => (.ok (existing,false),expired)
      | .create revision previousMode supersede =>
        match createCommand expired issue prepared newID deviceUUID revision previousMode supersede with
        | some (c,t) => (.ok (some c,true),t)
        | none => (.error .failed,s)

def deliverableConnectionModeCommand (s : Tables) (device : DeviceID) (now : ℤ) : Option Command × Tables :=
  match s.activeCommand (s.policies device) with
  | none => (none,s)
  | some c => if connectionCommandExpired c now then (none,s.expireConnectionCommand device c now) else (some c,s)

def markConnectionModeDelivered (s : Tables) (id : String) (now : ℤ) : Tables :=
  {s with commands := s.commands.map fun c =>
      if c.commandID=id ∧ connectionCommandInFlight c=true ∧ now<c.expiresAt then
        { c with
          status := .delivered
          deliveredAt := if c.status=.queued then some now else c.deliveredAt}
      else c}

/-- What an acknowledgement reports, and its rejection code; other texts are no report. -/
def ackStatus (ack : Ack) (c : Command) : Option (Status × String) :=
  let status:=lowerString (trimString ack.status)
  let rejection:=normalizeConnectionRejection ack.rejectionCode
  if status="applied" then
    if trimString ack.effectiveMode≠c.mode then some (.rejected,connectionRejectionModeMismatch)
    else some (.applied,rejection)
  else if status="rejected" then some (.rejected,rejection)
  else if status="expired" then some (.expired,rejection)
  else none

def acknowledgeConnectionMode (s : Tables) (ack : Ack) : Bool × Tables :=
  if trimString ack.commandID="" then (false,s)
  else match (s.findCommand ack.commandID).filter fun c => c.deviceID=ack.deviceID with
    | none => (false,s)
    | some c =>
      if connectionCommandInFlight c=false ∨ c.revision≠ack.revision then (false,s)
      else match ackStatus ack c with
        | none => (false,s)
        | some (status,rejection) =>
          let s:=s.updateInFlight c.commandID fun c =>
            {c with status := status,rejectionCode := rejection,acknowledgedAt := some ack.now}
          (true,s.updatePolicy c.deviceID fun p =>
            let p:=Tables.clearActive c.commandID ack.now p
            if status=.applied then {p with effectiveMode := c.mode} else p)

inductive Action
  | issue (issue : Issue) (newID : NewID)
  | deliverable (device : DeviceID) (now : ℤ)
  | markDelivered (id : String) (now : ℤ)
  | acknowledge (ack : Ack)
  | peers (peers : DeviceID → Option PeerRow)      -- what others do to the peers table

def step (s : Tables) : Action → Tables
  | .issue issue newID => (issueConnectionMode s issue newID).2
  | .deliverable device now => (deliverableConnectionModeCommand s device now).2
  | .markDelivered id now => markConnectionModeDelivered s id now
  | .acknowledge ack => (acknowledgeConnectionMode s ack).2
  | .peers peers => {s with peers := peers}

def initial (peers : DeviceID → Option PeerRow) : Tables := ⟨peers,fun _ => none,[]⟩

def run (s : Tables) (as : List Action) : Tables := as.foldl step s

end BetterDesk.Device.ConnectionMode
