import BetterDesk.Billing.Period
import BetterDesk.Billing.Service
import BetterDesk.Lib.Programs
import BetterDesk.Lib.SyncMap

/-! # Metering of relay sessions (billing/service.go, billing/period_service.go, db/sqlite_billing.go) -/

namespace BetterDesk.Billing
open Db Function

structure ContractRow where
  id : String
  packageID : String
  remainingMinutes : ℕ
  currentPeriod : Option ℕ          -- empty until the first check
  deriving DecidableEq

structure Package where
  includedMinutes : ℕ
  roundingMinutes : ℕ
  deriving DecidableEq

structure PeriodTotal where
  packageID : String
  includedMinutesUsed : ℕ
  overageMinutes : ℕ
  includedLimitSnapshot : ℕ

inductive Phase
  | included
  | overage

inductive SessionStatus
  | active
  | pendingReport
  | closed
  deriving DecidableEq

structure BillingSession where
  orgID : OrgID
  contractID : String
  operatorID : PeerID
  deviceID : PeerID
  relayUUID : String
  currency : String
  status : SessionStatus
  phase : Phase
  startedAt : ℕ
  endedAt : Option ℕ
  rawSeconds : ℕ
  billedMinutes : ℕ
  includedMinutesUsed : ℕ
  overageMinutes : ℕ

structure ActiveSession where
  id : ℕ
  contractID : String
  relayUUID : String
  startedAt : ℕ
  remainingAtStart : ℕ
  phase : Phase
  lastBilledMin : ℕ

structure Segment where
  session : ℕ
  contractID : String
  start : ℕ
  stop : ℕ
  included : ℕ

/-- A segment that was taken from the pool of a contract, with the month of the pool. -/
structure Draw where
  segment : Segment
  pool : Option ℕ

structure Started where
  id : ℕ
  relayUUID : String
  startedAt : ℕ
  deriving DecidableEq

structure Meter where
  now : ℕ
  gate : Service
  contracts : String → Option ContractRow
  packages : String → Option Package
  totals : String → ℕ → Option PeriodTotal
  sessions : List BillingSession
  pending : SyncMap String PendingRelay
  active : SyncMap String ActiveSession
  started : List Started
  draws : List Draw
  charges : List Segment

structure Config where
  cal : Calendar
  roundMin : ℕ
  requireReport : Bool

inductive Op
  | now
  | clockSynced
  | resolveContract (deviceID : PeerID)
  | getBillingContract (id : String)
  | getBillingPackage (id : String)
  | updateBillingContract (row : ContractRow) (drawn : Option Segment)
  | getBillingPeriodTotal (contractID : String) (period : ℕ)
  | upsertBillingPeriodTotal (contractID : String) (period : ℕ) (t : PeriodTotal)
  | addBillingPeriodUsage (contractID packageID : String) (period included overage limit : ℕ)
  | createBillingSession (row : BillingSession)
  | getBillingSession (id : ℕ)
  | updateBillingSession (id : ℕ) (row : BillingSession) (charged : Segment)
  | putPending (relayUUID : String) (p : PendingRelay)
  | takePending (relayUUID : String)
  | sweepStalePending
  | putActive (a : ActiveSession)
  | takeActive (relayUUID : String)
  | snapshotActive
  | syncActive (relayUUID : String) (startedAt remainingAtStart : ℕ)
  | updateProgress (relayUUID : String) (billedMin : ℕ)

abbrev Res : Op → Type
  | .now => ℕ
  | .clockSynced => Option Bool
  | .resolveContract _ => Option (Contract × ContractRow) × OrgID
  | .getBillingContract _ => Option ContractRow
  | .getBillingPackage _ => Option Package
  | .getBillingPeriodTotal _ _ => Option PeriodTotal
  | .createBillingSession _ => Option ℕ
  | .getBillingSession _ => Option BillingSession
  | .takePending _ => Option PendingRelay
  | .takeActive _ => Option ActiveSession
  | .snapshotActive => List ActiveSession
  | _ => Unit

abbrev Prog := Programs.Prog Op Res

def pendingRelayTTL : ℕ := 600*second

namespace PeriodTotal

/-- `ON CONFLICT DO UPDATE` of an upsert: a limit of zero does not replace one. -/
def replace (old : Option PeriodTotal) (t : PeriodTotal) : PeriodTotal :=
  {t with includedLimitSnapshot :=
      if 0<t.includedLimitSnapshot then t.includedLimitSnapshot else (old.map includedLimitSnapshot).getD 0}

def add (old : Option PeriodTotal) (packageID : String) (included overage limit : ℕ) : PeriodTotal :=
  match old with
  | none => ⟨packageID,included,overage,limit⟩
  | some t => ⟨packageID,t.includedMinutesUsed+included,t.overageMinutes+overage,
      if 0<t.includedLimitSnapshot then t.includedLimitSnapshot else limit⟩

end PeriodTotal

namespace ActiveSession

def synced (a : ActiveSession) (startedAt remainingAtStart : ℕ) : ActiveSession :=
  { a with
    startedAt := startedAt
    remainingAtStart := remainingAtStart
    phase := .included
    lastBilledMin := 0}

def progressed (a : ActiveSession) (billedMin : ℕ) : ActiveSession :=
  { a with
    lastBilledMin := billedMin
    phase := if a.remainingAtStart<billedMin then .overage else .included}

end ActiveSession

namespace Meter
variable (s : Meter)

def setContract (row : ContractRow) : Meter :=
  {s with contracts := update s.contracts row.id (some row)}

def setTotal (contractID : String) (period : ℕ) (t : PeriodTotal) : Meter :=
  {s with totals := update s.totals contractID (update (s.totals contractID) period (some t))}

/-- `resolveContract`: the contract that a device falls under, with its row. -/
def resolve (deviceID : PeerID) : Option (Contract × ContractRow) × OrgID :=
  match s.gate.resolveContract deviceID with
  | .error _ => (none,"")
  | .ok (none,orgID) => (none,orgID)
  | .ok (some c,orgID) => ((s.contracts c.id).map fun row => (c,row),orgID)

def updateActive (relayUUID : String) (f : ActiveSession → ActiveSession) : Meter :=
  match s.active.load relayUUID with
  | none => s
  | some cur => {s with active := s.active.store relayUUID (f cur)}

end Meter

def perform (s : Meter) : (op : Op) → Res op × Meter
  | .now => (s.now,s)
  | .clockSynced => (s.gate.clockSynced,s)
  | .resolveContract deviceID => (s.resolve deviceID,s)
  | .getBillingContract id => (s.contracts id,s)
  | .getBillingPackage id => (s.packages id,s)
  | .updateBillingContract row drawn =>
    ((),match s.contracts row.id with
      | none => s
      | some _ => {s.setContract row with
          draws := s.draws++(drawn.map fun seg => ⟨seg,row.currentPeriod⟩).toList})
  | .getBillingPeriodTotal contractID period => (s.totals contractID period,s)
  | .upsertBillingPeriodTotal contractID period t =>
    ((),s.setTotal contractID period (.replace (s.totals contractID period) t))
  | .addBillingPeriodUsage contractID packageID period included overage limit =>
    ((),s.setTotal contractID period (.add (s.totals contractID period) packageID included overage limit))
  | .createBillingSession row => (some s.sessions.length,{s with sessions := s.sessions++[row]})
  | .getBillingSession id => (s.sessions[id]?,s)
  | .updateBillingSession id row charged =>
    ((),{s with
      sessions := s.sessions.set id row
      charges := s.charges++[charged]})
  | .putPending relayUUID p => ((),{s with pending := s.pending.store relayUUID p})
  | .takePending relayUUID => (s.pending.load relayUUID,{s with pending := s.pending.delete relayUUID})
  | .sweepStalePending =>
    ((),{s with pending := s.pending.filter fun x => !(x.2.createdAt+pendingRelayTTL < s.now)})
  | .putActive a =>
    ((),{s with
      active := s.active.store a.relayUUID a
      started := s.started++[⟨a.id,a.relayUUID,a.startedAt⟩]})
  | .takeActive relayUUID => (s.active.load relayUUID,{s with active := s.active.delete relayUUID})
  | .snapshotActive => (s.active.map Prod.snd,s)
  | .syncActive relayUUID startedAt remainingAtStart =>
    ((),s.updateActive relayUUID fun cur => cur.synced startedAt remainingAtStart)
  | .updateProgress relayUUID billedMin => ((),s.updateActive relayUUID fun cur => cur.progressed billedMin)

def failure : (op : Op) → Option (Res op)
  | .resolveContract _ => some (none,"")
  | .getBillingContract _ => some none
  | .getBillingPackage _ => some none
  | .updateBillingContract _ _ => some ()
  | .getBillingPeriodTotal _ _ => some none
  | .upsertBillingPeriodTotal _ _ _ => some ()
  | .addBillingPeriodUsage _ _ _ _ _ _ => some ()
  | .createBillingSession _ => some none
  | .getBillingSession _ => some none
  | .updateBillingSession _ _ _ => some ()
  | _ => none

def run (s : Meter) (op : Op) (fails : Bool) : Res op × Meter :=
  if fails then match failure op with
    | some r => (r,s)
    | none => perform s op
  else perform s op

def tick (s : Meter) (elapsed : ℕ) : Meter := {s with now := s.now+elapsed}

def ask (op : Op) : Prog (Res op) := Programs.Prog.perform op

section
variable (cfg : Config)

def snapshotPriorMonth (contract : ContractRow) (pkg : Option Package) (limit : ℕ) : Prog Unit :=
  match contract.currentPeriod with
  | none => pure ()
  | some old => do
    let includedUsed:=(pkg.map fun p => p.includedMinutes-contract.remainingMinutes).getD 0
    match ← ask (.getBillingPeriodTotal contract.id old) with
    | none => ask (.upsertBillingPeriodTotal contract.id old ⟨contract.packageID,includedUsed,0,limit⟩)
    | some t =>
      if t.includedLimitSnapshot=0 ∧ 0<limit then
        ask (.upsertBillingPeriodTotal contract.id old {t with includedLimitSnapshot := limit})
      else pure ()

def ensureContractPeriod (contract : ContractRow) : Prog Unit := do
  let now ← ask .now
  let period:=cfg.cal.periodAt now
  if contract.currentPeriod=some period then pure ()
  else
    let pkg ← ask (.getBillingPackage contract.packageID)
    let limit:=(pkg.map Package.includedMinutes).getD contract.remainingMinutes
    snapshotPriorMonth contract pkg limit
    ask (.updateBillingContract {contract with currentPeriod := some period,remainingMinutes := limit} none)

def applyUsageToPeriod (contractID packageID : String) (start includedUsed overageMin limitSnapshot : ℕ) : Prog Unit :=
  ask (.addBillingPeriodUsage contractID packageID (cfg.cal.periodAt start) includedUsed overageMin limitSnapshot)

def roundMinForContract (contractID : String) : Prog ℕ := do
  match ← ask (.getBillingContract contractID) with
  | none => pure cfg.roundMin
  | some contract =>
    let pkg ← ask (.getBillingPackage contract.packageID)
    pure <| match pkg with
      | none => cfg.roundMin
      | some pkg => if 0<pkg.roundingMinutes then pkg.roundingMinutes else cfg.roundMin

def settleContract (a : ActiveSession) (seg : Segment) : Prog (String × ℕ × ℕ) := do
  match ← ask (.getBillingContract a.contractID) with
  | none => pure ("",a.remainingAtStart+seg.included,0)
  | some contract =>
    let pkg ← ask (.getBillingPackage contract.packageID)
    let limitSnap:=(pkg.map Package.includedMinutes).getD (a.remainingAtStart+seg.included)
    let charged:={contract with remainingMinutes := contract.remainingMinutes-seg.included}
    ask (.updateBillingContract charged (some seg))
    ensureContractPeriod cfg charged
    let renewed ← ask (.getBillingContract a.contractID)
    pure (contract.packageID,limitSnap,(renewed.map ContractRow.remainingMinutes).getD 0)

def settleSegment (a : ActiveSession) (boundary : ℕ) : Prog ActiveSession := do
  let roundMin ← roundMinForContract cfg a.contractID
  let billedMin:=roundUpMinutes (rawSeconds a.startedAt boundary) roundMin
  let includedUsed:=min billedMin a.remainingAtStart
  let overageMin:=billedMin-a.remainingAtStart
  let seg : Segment := ⟨a.id,a.contractID,a.startedAt,boundary,includedUsed⟩
  let (packageID,limitSnap,remaining) ← settleContract cfg a seg
  applyUsageToPeriod cfg a.contractID packageID a.startedAt includedUsed overageMin limitSnap
  match ← ask (.getBillingSession a.id) with
  | none => pure ()
  | some sess => ask (.updateBillingSession a.id {sess with
      billedMinutes := sess.billedMinutes+billedMin
      includedMinutesUsed := sess.includedMinutesUsed+includedUsed
      overageMinutes := sess.overageMinutes+overageMin} seg)
  ask (.syncActive a.relayUUID boundary remaining)
  pure (a.synced boundary remaining)

/-- `fuel` bounds the months up to `now`. -/
def settleMonths (now : ℕ) : ℕ → ActiveSession → Prog ActiveSession
  | 0, a => pure a
  | fuel+1, a => match cfg.cal.splitAtMonthBoundary a.startedAt now with
    | none => pure a
    | some boundary => do
      let a ← settleSegment cfg a boundary
      settleMonths now fuel a

def settleCrossingMonth (a : ActiveSession) : Prog ActiveSession := do
  let now ← ask .now
  settleMonths cfg now (cfg.cal.periodAt now-cfg.cal.periodAt a.startedAt) a

def checkConnection (deviceID : PeerID) : Prog Service.ConnectionCheckResult := do
  match ← ask (.resolveContract deviceID) with
  | (none,orgID) => pure ⟨true,"",orgID,false,"",""⟩
  | (some (_,row),orgID) =>
    ensureContractPeriod cfg row
    match ← ask (.resolveContract deviceID) with
    | (none,_) => pure ⟨true,"",orgID,false,"",""⟩
    | (some (c,_),_) =>
      if (← ask .clockSynced)=some false then pure ⟨false,"clock_unsynced",orgID,true,c.id,c.currency⟩
      else if c.status="suspended" then pure ⟨false,"billing_suspended",orgID,true,c.id,c.currency⟩
      else pure ⟨true,"",orgID,true,c.id,c.currency⟩

/-- `false` when the connection is not allowed. -/
def prepareRelay (relayUUID : String) (deviceID operatorID : PeerID) : Prog Bool := do
  if relayUUID="" then pure true
  else
    let check ← checkConnection cfg deviceID
    if check.allowed=false then pure false
    else if check.hasBilling=false then pure true
    else match ← ask (.resolveContract deviceID) with
      | (none,_) => pure true
      | (some (c,_),_) =>
        let now ← ask .now
        ask (.putPending relayUUID ⟨check.orgID,deviceID,operatorID,c.id,c.currency,now⟩)
        pure true

def activateRelay (relayUUID : String) : Prog Unit := do
  if relayUUID="" then pure ()
  else match ← ask (.takePending relayUUID) with
    | none => pure ()
    | some p => match ← ask (.getBillingContract p.contractID) with
      | none => pure ()
      | some contract =>
        ensureContractPeriod cfg contract
        match ← ask (.getBillingContract p.contractID) with
        | none => pure ()
        | some contract =>
          let now ← ask .now
          let row : BillingSession := ⟨p.orgID,p.contractID,p.operatorID,p.deviceID,relayUUID,p.currency,.active,
            .included,now,none,0,0,0,0⟩
          match ← ask (.createBillingSession row) with
          | none => pure ()
          | some id =>
            ask (.putActive ⟨id,p.contractID,relayUUID,now,contract.remainingMinutes,.included,0⟩)

def finalizeContract (a : ActiveSession) (seg : Segment) (overageMin : ℕ) : Prog Unit := do
  match ← ask (.getBillingContract a.contractID) with
  | none => pure ()
  | some contract =>
    ensureContractPeriod cfg contract
    match ← ask (.getBillingContract a.contractID) with
    | none => pure ()
    | some contract =>
      let charged:={contract with remainingMinutes := contract.remainingMinutes-seg.included}
      ask (.updateBillingContract charged (some seg))
      let pkg ← ask (.getBillingPackage contract.packageID)
      let limitSnap:=(pkg.map Package.includedMinutes).getD (charged.remainingMinutes+seg.included)
      applyUsageToPeriod cfg contract.id contract.packageID a.startedAt seg.included overageMin limitSnap

def finalizeSession (a : ActiveSession) : Prog Unit := do
  let a ← settleCrossingMonth cfg a
  let now ← ask .now
  let roundMin ← roundMinForContract cfg a.contractID
  let billedMin:=roundUpMinutes (rawSeconds a.startedAt now) roundMin
  let includedUsed:=min billedMin a.remainingAtStart
  let overageMin:=billedMin-a.remainingAtStart
  let seg : Segment := ⟨a.id,a.contractID,a.startedAt,now,includedUsed⟩
  match ← ask (.getBillingSession a.id) with
  | none => pure ()
  | some sess =>
    ask (.updateBillingSession a.id {sess with
      endedAt := some now
      rawSeconds := rawSeconds sess.startedAt now
      billedMinutes := sess.billedMinutes+billedMin
      includedMinutesUsed := sess.includedMinutesUsed+includedUsed
      overageMinutes := sess.overageMinutes+overageMin
      phase := if 0<overageMin then .overage else .included
      status := if cfg.requireReport then .pendingReport else .closed} seg)
    finalizeContract cfg a seg overageMin

def endRelay (relayUUID : String) : Prog Unit := do
  if relayUUID="" then pure ()
  else match ← ask (.takeActive relayUUID) with
    | none => pure ()
    | some a => finalizeSession cfg a

def updateActiveProgress (a : ActiveSession) : Prog Unit := do
  let now ← ask .now
  ask (.updateProgress a.relayUUID (roundUpMinutes (rawSeconds a.startedAt now) cfg.roundMin))

def tickCopies : List ActiveSession → Prog Unit
  | [] => pure ()
  | a::rest => do
    let a ← settleCrossingMonth cfg a
    updateActiveProgress cfg a
    tickCopies rest

structure MapOrder where
  apply : List ActiveSession → List ActiveSession
  perm : ∀ l, (apply l).Perm l

def tickActive (order : MapOrder) : Prog Unit := do
  let snap ← ask .snapshotActive
  tickCopies cfg (order.apply snap)

inductive Request
  | checkConnection (deviceID : PeerID)
  | prepareRelay (relayUUID : String) (deviceID operatorID : PeerID)
  | activateRelay (relayUUID : String)
  | endRelay (relayUUID : String)
  | tick (order : MapOrder)

def handle : Request → Prog Unit
  | .checkConnection deviceID => do
    let _ ← checkConnection cfg deviceID
    pure ()
  | .prepareRelay relayUUID deviceID operatorID => do
    let _ ← prepareRelay cfg relayUUID deviceID operatorID
    pure ()
  | .activateRelay relayUUID => activateRelay cfg relayUUID
  | .endRelay relayUUID => endRelay cfg relayUUID
  | .tick order => do
    tickActive cfg order
    ask .sweepStalePending

end

abbrev System := Programs.Sys Meter Request Op Res Unit

abbrev Act := Programs.Act Request ℕ

def step (cfg : Config) : System → Act → Option System := Programs.step run (handle cfg) tick

end BetterDesk.Billing
